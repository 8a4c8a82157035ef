import LSTAndroid.BoundingBox
import LSTAndroid.SearchGrowth

namespace LSTAndroid.Backends

open LSTAndroid.Library.MinimumScan
open LSTAndroid.Library.RetryLoop
open LSTAndroid.SpaceTime
open LSTAndroid.TableStore
open LSTAndroid.RangeQueries
open LSTAndroid.NearestNeighbor
open LSTAndroid.BoundingBox
open LSTAndroid.SearchGrowth

variable {K δ : Type} [LinearOrder K] [Coordinate K] [SMul ℕ K] [LinearOrder δ]

/-- Both lookups return `null`, or both a point and these at one distance. -/
inductive SameNearest (lib : LSTLibrary K δ) (needle : STPoint K) :
    Option (FullPoint K) → Option (FullPoint K) → Prop where
  | null : SameNearest lib needle none none
  | equidistant {p q : FullPoint K} {distance : δ}
      (hfirst : lib.distanceBetween needle p.toSTPoint = .ok (some distance))
      (hsecond : lib.distanceBetween needle q.toSTPoint = .ok (some distance)) :
      SameNearest lib needle (some p) (some q)

omit [SMul ℕ K] [Coordinate K] [LinearOrder K] [LinearOrder δ] in
theorem distance_eq_some_iff {lib : LSTLibrary K δ} {needle : STPoint K} {p : FullPoint K}
    {distance : δ} : lib.distance needle p = some distance ↔
      lib.distanceBetween needle p.toSTPoint = .ok (some distance) := by
  unfold LSTLibrary.distance
  split
  · rename_i result hresult
    rw [hresult, Except.ok.injEq]
  · rename_i exception hexception
    simp [hexception]

omit [SMul ℕ K] [Coordinate K] [LinearOrder K] in
theorem sameNearest_of_isMinimum {lib : LSTLibrary K δ} {needle : STPoint K}
    {items : List (FullPoint K)} {best other : Option (FullPoint K) × δ}
    (h : IsMinimum (lib.distance needle) lib.maxValue items best)
    (hother : IsMinimum (lib.distance needle) lib.maxValue items other) :
    SameNearest lib needle best.1 other.1 := by
  have hkey := h.key_eq hother
  rcases h with _ | ⟨_, hdistance, _, _⟩
  · rw [Option.map_none, eq_comm, Option.map_eq_none_iff] at hkey
    rw [hkey]
    exact .null
  · rw [Option.map_some, eq_comm, Option.map_eq_some_iff] at hkey
    obtain ⟨q, hq, hsame⟩ := hkey
    rw [hq]
    exact .equidistant (distance_eq_some_iff.mp hdistance)
      (distance_eq_some_iff.mp (hsame.trans hdistance))

/-- Two stores that hold the same points, each with its own order of rows. -/
structure SamePoints (naive rtree : SQLiteStore) (naiveStorage rtreeStorage : Storage K)
    (points : List (FullPoint K)) : Prop where
  naive : Holds naive naiveStorage points
  rtree : Holds rtree rtreeStorage points

section Queries

variable {naive rtree : SQLiteStore} {naiveStorage rtreeStorage : Storage K}
  {points : List (FullPoint K)}

omit [LinearOrder K] [Coordinate K] [SMul ℕ K] in
theorem SamePoints.getSize (h : SamePoints naive rtree naiveStorage rtreeStorage points) :
    ∃ size, naive.getSize naiveStorage = .ok size ∧ rtree.getSize rtreeStorage = .ok size :=
  ⟨_, naive.getSize_opened h.naive.opened h.naive.rows,
    rtree.getSize_opened h.rtree.opened h.rtree.rows⟩

omit [SMul ℕ K] in
theorem SamePoints.range (h : SamePoints naive rtree naiveStorage rtreeStorage points)
    (naiveOrder rtreeOrder : ScanOrder K) (region : STRegion K) :
    ∃ found paired, found.Perm paired ∧
      naive.range naiveOrder region naiveStorage = .ok found ∧
      rtree.range rtreeOrder region rtreeStorage = .ok paired := by
  obtain ⟨found, hnaive, hfound⟩ := range_of_holds h.naive naiveOrder region
  obtain ⟨paired, hrtree, hpaired⟩ := range_of_holds h.rtree rtreeOrder region
  exact ⟨found, paired, hfound.trans hpaired.symm, hnaive, hrtree⟩

omit [Coordinate K] [SMul ℕ K] in
theorem SamePoints.getBoundingBox
    (h : SamePoints naive rtree naiveStorage rtreeStorage points) (hne : points ≠ [])
    (naiveOrder rtreeOrder : ScanOrder K) (constants : BoxConstants K) :
    ∃ region, BoundingBox.getBoundingBox constants naive naiveOrder naiveStorage = .ok region ∧
      BoundingBox.getBoundingBox constants rtree rtreeOrder rtreeStorage = .ok region := by
  obtain ⟨mins, maxs, hcorners, hnaive⟩ := getBoundingBox_holds h.naive hne naiveOrder constants
  obtain ⟨lows, highs, hother, hrtree⟩ := getBoundingBox_holds h.rtree hne rtreeOrder constants
  obtain ⟨rfl, rfl⟩ := hcorners.unique hother
  exact ⟨_, hnaive, hrtree⟩

/-- The two searches are in the same round with the same bounds and candidates. -/
def SameSearch (first second : Search K) : Prop :=
  first.candPoints.Perm second.candPoints ∧ first.boundValues = second.boundValues

omit [LinearOrder δ] in
theorem SamePoints.searchRound (h : SamePoints naive rtree naiveStorage rtreeStorage points)
    (lib : LSTLibrary K δ) (naiveOrder rtreeOrder : ScanOrder K) (needle : STPoint K) (i : ℕ)
    (first second : Search K) (hsame : SameSearch first second) :
    ∃ next paired, SameSearch next paired ∧
      (NearestNeighbor.searchRound lib naive naiveOrder naiveStorage needle 1 i first =
            .ok (.yield next) ∧
          NearestNeighbor.searchRound lib rtree rtreeOrder rtreeStorage needle 1 i second =
            .ok (.yield paired) ∨
        NearestNeighbor.searchRound lib naive naiveOrder naiveStorage needle 1 i first =
            .ok (.done next) ∧
          NearestNeighbor.searchRound lib rtree rtreeOrder rtreeStorage needle 1 i second =
            .ok (.done paired)) := by
  obtain ⟨hperm, hbounds⟩ := hsame
  unfold NearestNeighbor.searchRound
  rw [← hbounds]
  rcases lib.getSpaceBoundQuick needle first.boundValues with exception | region
  · exact ⟨first, second, ⟨hperm, hbounds⟩, .inl ⟨rfl, rfl⟩⟩
  obtain ⟨found, paired, hfound, hnaive, hrtree⟩ := h.range naiveOrder rtreeOrder region
  simp only [hnaive, hrtree, bind, Except.bind, pure, Except.pure, hfound.length_eq]
  split
  · exact ⟨⟨found, first.boundValues⟩, ⟨paired, first.boundValues⟩, ⟨hfound, rfl⟩,
      .inr ⟨rfl, rfl⟩⟩
  · exact ⟨⟨found, lib.scale (i ^ 3) first.boundValues⟩,
      ⟨paired, lib.scale (i ^ 3) first.boundValues⟩, ⟨hfound, rfl⟩, .inl ⟨rfl, rfl⟩⟩

theorem SamePoints.nearestNeighbor
    (h : SamePoints naive rtree naiveStorage rtreeStorage points) (lib : LSTLibrary K δ)
    (naiveOrder rtreeOrder : ScanOrder K) (needle boundValues : STPoint K) :
    ∃ p q final, SameNearest lib needle p q ∧
      NearestNeighbor.nearestNeighbor lib naive naiveOrder naiveStorage needle boundValues 1 =
        .ok ([p], final) ∧
      NearestNeighbor.nearestNeighbor lib rtree rtreeOrder rtreeStorage needle boundValues 1 =
        .ok ([q], final) := by
  obtain ⟨first, second, ⟨hperm, hbounds⟩, hnaive, hrtree⟩ :=
    forIn_related (h.searchRound lib naiveOrder rtreeOrder needle) 0 20 ⟨[], boundValues⟩
      ⟨[], boundValues⟩ ⟨.refl _, rfl⟩
  have hsecond := nearestNeighbor_of_search hrtree
  rw [← hbounds] at hsecond
  refine ⟨_, _, first.boundValues, ?_, nearestNeighbor_of_search hnaive, hsecond⟩
  exact sameNearest_of_isMinimum (scanMinimum_isMinimum _ _ _)
    ((scanMinimum_isMinimum _ _ _).of_perm hperm.symm)

end Queries

/-- What callers can tell of two stores in the states they are in. -/
structure Interchangeable (lib : LSTLibrary K δ) (constants : BoxConstants K)
    (naive rtree : SQLiteStore) (naiveOrder rtreeOrder : ScanOrder K)
    (naiveStorage rtreeStorage : Storage K) (points : List (FullPoint K)) : Prop where
  getSize : ∃ size, naive.getSize naiveStorage = .ok size ∧ rtree.getSize rtreeStorage = .ok size
  getBoundingBox : points ≠ [] → ∃ region,
    BoundingBox.getBoundingBox constants naive naiveOrder naiveStorage = .ok region ∧
      BoundingBox.getBoundingBox constants rtree rtreeOrder rtreeStorage = .ok region
  range : ∀ region, ∃ found paired, found.Perm paired ∧
    naive.range naiveOrder region naiveStorage = .ok found ∧
      rtree.range rtreeOrder region rtreeStorage = .ok paired
  nearestNeighbor : ∀ needle boundValues, ∃ p q final, SameNearest lib needle p q ∧
    NearestNeighbor.nearestNeighbor lib naive naiveOrder naiveStorage needle boundValues 1 =
        .ok ([p], final) ∧
      NearestNeighbor.nearestNeighbor lib rtree rtreeOrder rtreeStorage needle boundValues 1 =
        .ok ([q], final)

/-- After any inserts and clears the two stores are interchangeable. -/
theorem backends_interchangeable (lib : LSTLibrary K δ) (constants : BoxConstants K)
    {naiveTable rtreeTable : String} {naiveStorage rtreeStorage : Storage K}
    (hnaive : Holds (SQLiteNaive naiveTable) naiveStorage [])
    (hrtree : Holds (SQLiteRTree rtreeTable) rtreeStorage [])
    (naiveOrder rtreeOrder : ScanOrder K) (ops : List (StoreOp K)) :
    ∃ naiveAfter rtreeAfter,
      ops.foldlM (StoreOp.apply (SQLiteNaive naiveTable)) naiveStorage = .ok naiveAfter ∧
      ops.foldlM (StoreOp.apply (SQLiteRTree rtreeTable)) rtreeStorage = .ok rtreeAfter ∧
      Interchangeable lib constants (SQLiteNaive naiveTable) (SQLiteRTree rtreeTable)
        naiveOrder rtreeOrder naiveAfter rtreeAfter (sinceLastClear ops) := by
  obtain ⟨naiveAfter, hnaiveRun, hnaiveAfter⟩ := foldlM_apply_holds hnaive ops
  obtain ⟨rtreeAfter, hrtreeRun, hrtreeAfter⟩ := foldlM_apply_holds hrtree ops
  have hsame : SamePoints (SQLiteNaive naiveTable) (SQLiteRTree rtreeTable) naiveAfter rtreeAfter
      (sinceLastClear ops) := ⟨hnaiveAfter, hrtreeAfter⟩
  exact ⟨naiveAfter, rtreeAfter, hnaiveRun, hrtreeRun, hsame.getSize,
    fun hne => hsame.getBoundingBox hne naiveOrder rtreeOrder constants,
    hsame.range naiveOrder rtreeOrder,
    hsame.nearestNeighbor lib naiveOrder rtreeOrder⟩

def reversedOrder (K : Type) : ScanOrder K := ⟨List.reverse, List.reverse_perm⟩

theorem backends_interchangeable_reversed : ∃ naiveAfter rtreeAfter,
    [StoreOp.insert ⟨1, 2, 3⟩, .clear, .insert ⟨4, 5, 6⟩, .insert ⟨4, 5, 7⟩].foldlM
        (StoreOp.apply (SQLiteNaive "SpatialTableMain"))
        (tableOf (SQLiteNaive "SpatialTableMain") []) = .ok naiveAfter ∧
      [StoreOp.insert ⟨1, 2, 3⟩, .clear, .insert ⟨4, 5, 6⟩, .insert ⟨4, 5, 7⟩].foldlM
        (StoreOp.apply (SQLiteRTree "RTreeMain"))
        (tableOf (SQLiteRTree "RTreeMain") []) = .ok rtreeAfter ∧
      Interchangeable (exactLibrary (fun _ _ => (0 : ℚ)) 1 ⟨1, 1, 1⟩) (meters ℚ)
        (SQLiteNaive "SpatialTableMain") (SQLiteRTree "RTreeMain") (insertionOrder ℚ)
        (reversedOrder ℚ) naiveAfter rtreeAfter [⟨4, 5, 6⟩, ⟨4, 5, 7⟩] :=
  backends_interchangeable _ _ (holds_tableOf _ []) (holds_tableOf _ []) _ _ _

end LSTAndroid.Backends
