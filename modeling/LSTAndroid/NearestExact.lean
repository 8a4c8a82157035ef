import LSTAndroid.SearchGrowth
import Mathlib.Analysis.Real.Sqrt
import Mathlib.Tactic.NormNum

namespace LSTAndroid.NearestExact

open LSTAndroid.Library.MinimumScan
open LSTAndroid.SpaceTime
open LSTAndroid.TableStore
open LSTAndroid.RangeQueries
open LSTAndroid.NearestNeighbor
open LSTAndroid.SearchGrowth

/-- The Euclidean distance over the coordinates in `dims`; a coordinate that the needle
lacks counts for nothing. -/
noncomputable def euclidean (dims : Finset Dim) (needle p : STPoint ℚ) : ℝ :=
  Real.sqrt (∑ d ∈ dims,
    (match needle.coord d, p.coord d with
      | some a, some b => ((a - b : ℚ) : ℝ) ^ 2
      | _, _ => 0))

/-- Half-widths as given by the bounds, and the distance of the given function. -/
structure Measures {δ : Type} (lib : LSTLibrary ℚ δ) (distance : STPoint ℚ → STPoint ℚ → δ) :
    Prop where
  boxes : ExactBoxes lib fun _ _ bound => bound
  distances : ∀ needle p, lib.distanceBetween needle p = .ok (some (distance needle p))

theorem exactLibrary_measures {δ : Type} (distance : STPoint ℚ → STPoint ℚ → δ) (maxValue : δ)
    (radius : FullPoint ℚ) : Measures (exactLibrary distance maxValue radius) distance :=
  ⟨exactLibrary_exactBoxes distance maxValue radius, fun _ _ => rfl⟩

section

variable {δ : Type} [LinearOrder δ]

/-- A point that is returned is stored, and no stored point is closer to the needle. -/
def ReturnsNearest (lib : LSTLibrary ℚ δ) (distance : STPoint ℚ → STPoint ℚ → δ)
    (store : SQLiteStore) (order : ScanOrder ℚ) (storage : Storage ℚ)
    (points : List (FullPoint ℚ)) (needle : STPoint ℚ) (bounds : FullPoint ℚ) : Prop :=
  ∀ p final, nearestNeighbor lib store order storage needle bounds.toSTPoint 1 =
      .ok ([some p], final) →
    p ∈ points ∧ ∀ q ∈ points, ¬ distance needle q.toSTPoint < distance needle p.toSTPoint

def boxPoints (points : List (FullPoint ℚ)) (needle : STPoint ℚ) (bounds : FullPoint ℚ) :
    List (FullPoint ℚ) :=
  points.filter fun p => (boxAround needle bounds.coord).Contains p

variable {lib : LSTLibrary ℚ δ} {distance : STPoint ℚ → STPoint ℚ → δ}
  {store : SQLiteStore} {storage : Storage ℚ} {points : List (FullPoint ℚ)}

omit [LinearOrder δ] in
theorem Measures.distance_eq (h : Measures lib distance) (needle : STPoint ℚ)
    (p : FullPoint ℚ) : lib.distance needle p = some (distance needle p.toSTPoint) := by
  simp [LSTLibrary.distance, h.distances]

theorem nearestNeighbor_isMinimum (hmeasures : Measures lib distance)
    (h : Holds store storage points) (order : ScanOrder ℚ) (needle : STPoint ℚ)
    {bounds : FullPoint ℚ} (hbounds : ∀ d, 0 < bounds.coord d) :
    ∃ final best, nearestNeighbor lib store order storage needle bounds.toSTPoint 1 =
        .ok ([best.1], final) ∧
      IsMinimum (lib.distance needle) lib.maxValue (boxPoints points needle bounds) best := by
  obtain ⟨found, hsearch, hfound⟩ := search_first_round lib h hmeasures.boxes.grows order needle
    fun d => (hbounds d).le
  have hcandidates : found.candPoints.Perm (boxPoints points needle bounds) := by
    rcases hfound with ⟨-, region, ⟨hregion, -⟩, hperm⟩ | ⟨hnil, hnone⟩
    · rw [hmeasures.boxes.region] at hregion
      obtain rfl := Except.ok.inj hregion
      exact hperm
    · rw [← not_exists, hmeasures.boxes.boxMeets_iff] at hnone
      have hempty : boxPoints points needle bounds = [] := by
        rw [boxPoints, List.filter_eq_nil_iff]
        intro p hp hcontains
        exact hnone ⟨p, hp, of_decide_eq_true hcontains⟩
      rw [hnil, hempty]
  refine ⟨found.boundValues, _, nearestNeighbor_of_search hsearch, ?_⟩
  exact (scanMinimum_isMinimum _ _ _).of_perm hcandidates

theorem mem_boxPoints_iff {needle : STPoint ℚ} {bounds p : FullPoint ℚ} :
    p ∈ boxPoints points needle bounds ↔
      p ∈ points ∧ (boxAround needle bounds.coord).Contains p := by
  rw [boxPoints, List.mem_filter, decide_eq_true_iff]

theorem returnsNearest_iff (hmeasures : Measures lib distance)
    (h : Holds store storage points) (order : ScanOrder ℚ) (needle : STPoint ℚ)
    {bounds : FullPoint ℚ} (hbounds : ∀ d, 0 < bounds.coord d) :
    ReturnsNearest lib distance store order storage points needle bounds ↔
      ((∃ p ∈ boxPoints points needle bounds, distance needle p.toSTPoint < lib.maxValue) →
        ∀ q ∈ points, ∃ p ∈ boxPoints points needle bounds,
          distance needle p.toSTPoint ≤ distance needle q.toSTPoint) := by
  obtain ⟨final, best, hlookup, hbest⟩ :=
    nearestNeighbor_isMinimum hmeasures h order needle hbounds
  have hfinds := hbest.isSome_iff
  simp only [hmeasures.distance_eq, Option.mem_some_iff, exists_eq_left'] at hfinds
  rw [← hfinds]
  cases hbest with
  | absent hnone => simp [ReturnsNearest, hlookup]
  | @found least smallest hmem hkey hbelow hleast =>
      simp only [Option.isSome_some, forall_true_left]
      constructor
      · intro hnearest q hq
        exact ⟨least, hmem, not_lt.mp ((hnearest least final hlookup).2 q hq)⟩
      · intro hnear p after hok
        obtain rfl : least = p := by
          simpa using (Prod.mk.inj (Except.ok.inj (hlookup.symm.trans hok))).1
        refine ⟨(mem_boxPoints_iff.mp hmem).1, fun q hq => not_lt.mpr ?_⟩
        obtain ⟨near, hbox, hle⟩ := hnear q hq
        rw [hmeasures.distance_eq, Option.some.injEq] at hkey
        rw [hkey]
        exact (hleast near hbox _ (hmeasures.distance_eq needle near)).trans hle

end

/-- The returned point is a nearest one exactly when either none is returned or no stored
point outside the first box is nearer than all points in it. -/
theorem returns_nearest_iff {lib : LSTLibrary ℚ ℝ} {dims : Finset Dim}
    (hmeasures : Measures lib (euclidean dims)) {store : SQLiteStore} {storage : Storage ℚ}
    {points : List (FullPoint ℚ)} (h : Holds store storage points) (order : ScanOrder ℚ)
    (needle : STPoint ℚ) {bounds : FullPoint ℚ} (hbounds : ∀ d, 0 < bounds.coord d) :
    ReturnsNearest lib (euclidean dims) store order storage points needle bounds ↔
      ((∃ p ∈ boxPoints points needle bounds,
          euclidean dims needle p.toSTPoint < lib.maxValue) →
        ∀ q ∈ points, ∃ p ∈ boxPoints points needle bounds,
          euclidean dims needle p.toSTPoint ≤ euclidean dims needle q.toSTPoint) :=
  returnsNearest_iff hmeasures h order needle hbounds

/-- Euclidean distances over all three coordinates, bounded by `Double.MAX_VALUE`. -/
noncomputable def euclideanLibrary : LSTLibrary ℚ ℝ :=
  exactLibrary (euclidean Finset.univ) ((2 ^ 53 - 1) * 2 ^ 971) ⟨1, 1, 1⟩

def atOrigin : STPoint ℚ := ⟨some 0, some 0, some 0⟩

theorem euclidean_atOrigin (p : FullPoint ℚ) :
    euclidean Finset.univ atOrigin p.toSTPoint =
      Real.sqrt (p.x ^ 2 + p.y ^ 2 + p.t ^ 2 : ℚ) := by
  have hsum : ∀ f : Dim → ℝ, ∑ d, f d = f .x + f .y + f .t := by
    intro f
    change ∑ d ∈ {Dim.x, Dim.y, Dim.t}, f d = _
    rw [Finset.sum_insert (by decide), Finset.sum_insert (by decide), Finset.sum_singleton,
      add_assoc]
  rw [euclidean, hsum]
  simp [atOrigin, STPoint.coord, FullPoint.toSTPoint]

theorem euclidean_atOrigin_le {p q : FullPoint ℚ}
    (h : p.x ^ 2 + p.y ^ 2 + p.t ^ 2 ≤ q.x ^ 2 + q.y ^ 2 + q.t ^ 2) :
    euclidean Finset.univ atOrigin p.toSTPoint ≤ euclidean Finset.univ atOrigin q.toSTPoint := by
  rw [euclidean_atOrigin, euclidean_atOrigin]
  exact Real.sqrt_le_sqrt (by exact_mod_cast h)

/-- A nearest point on a face of the box, a farther one in its corner, and one outside. -/
def threePoints : List (FullPoint ℚ) :=
  [⟨1, 1, 1⟩, ⟨0, 2, 0⟩, ⟨1, 0, 0⟩]

theorem returns_nearest_of_three :
    ReturnsNearest euclideanLibrary (euclidean Finset.univ) (SQLiteNaive "SpatialTableMain")
      (insertionOrder ℚ) (tableOf (SQLiteNaive "SpatialTableMain") threePoints) threePoints
      atOrigin ⟨1, 1, 1⟩ := by
  refine (returns_nearest_iff (exactLibrary_measures _ _ _) (holds_tableOf _ _) _ _
    (by decide +kernel)).mpr ?_
  rintro - q hq
  have hbox : (⟨1, 0, 0⟩ : FullPoint ℚ) ∈ boxPoints threePoints atOrigin ⟨1, 1, 1⟩ := by
    decide +kernel
  have hleast : ∀ q ∈ threePoints, (1 : ℚ) ^ 2 + 0 ^ 2 + 0 ^ 2 ≤ q.x ^ 2 + q.y ^ 2 + q.t ^ 2 := by
    decide +kernel
  exact ⟨_, hbox, euclidean_atOrigin_le (hleast q hq)⟩

/-- The corner of the box is returned, although a point just outside a face is closer. -/
theorem corner_is_not_nearest :
    Measures euclideanLibrary (euclidean Finset.univ) ∧
      ¬ ReturnsNearest euclideanLibrary (euclidean Finset.univ) (SQLiteNaive "SpatialTableMain")
        (insertionOrder ℚ)
        (tableOf (SQLiteNaive "SpatialTableMain") [⟨1, 1, 1⟩, ⟨11 / 10, 0, 0⟩])
        [⟨1, 1, 1⟩, ⟨11 / 10, 0, 0⟩] atOrigin ⟨1, 1, 1⟩ := by
  have hmeasures : Measures euclideanLibrary (euclidean Finset.univ) :=
    exactLibrary_measures _ _ _
  refine ⟨hmeasures, ?_⟩
  rw [returnsNearest_iff hmeasures (holds_tableOf _ _) _ _ (by decide +kernel)]
  have hbox : boxPoints [⟨1, 1, 1⟩, ⟨11 / 10, 0, 0⟩] atOrigin ⟨1, 1, 1⟩ = [⟨1, 1, 1⟩] := by
    decide +kernel
  rw [hbox]
  simp only [List.mem_singleton, exists_eq_left, euclidean_atOrigin]
  intro hnear
  have hmax : Real.sqrt ((1 ^ 2 + 1 ^ 2 + 1 ^ 2 : ℚ) : ℝ) < euclideanLibrary.maxValue := by
    calc
      Real.sqrt ((1 ^ 2 + 1 ^ 2 + 1 ^ 2 : ℚ) : ℝ) < 2 := by
        rw [Real.sqrt_lt' (by norm_num)]
        norm_num
      _ ≤ 2 ^ 53 - 1 := by norm_num
      _ ≤ euclideanLibrary.maxValue :=
        le_mul_of_one_le_right (by norm_num) (one_le_pow₀ (by norm_num))
  have hle := hnear hmax ⟨11 / 10, 0, 0⟩ (by simp)
  rw [Real.sqrt_le_sqrt_iff (by positivity)] at hle
  norm_num at hle

end LSTAndroid.NearestExact
