import LSTAndroid.NearestNeighbor
import Mathlib.Algebra.Order.Field.Rat
import Mathlib.Algebra.Module.NatInt
import Mathlib.Tactic.Linarith

namespace LSTAndroid.SearchGrowth

open LSTAndroid.Library.RetryLoop
open LSTAndroid.SpaceTime
open LSTAndroid.TableStore
open LSTAndroid.RangeQueries
open LSTAndroid.NearestNeighbor

variable {K δ : Type}

section Within

variable [LinearOrder K] [Coordinate K]

/-- Every dimension that restricts `outer` restricts `inner` at least as much. -/
def Within (inner outer : STRegion K) : Prop :=
  ∀ d, ∀ lo ∈ outer.mins.coord d, ∀ hi ∈ outer.maxs.coord d,
    (∃ low ∈ inner.mins.coord d, lo ≤ low) ∧ ∃ high ∈ inner.maxs.coord d, high ≤ hi

theorem literal_le_stored_mono {lo low q : K} (hle : lo ≤ low)
    (h : Coordinate.literal low ≤ Coordinate.stored q) :
    Coordinate.literal lo ≤ Coordinate.stored q := by
  rcases hle.eq_or_lt with rfl | hlt
  · exact h
  · exact (Coordinate.literal_lt_stored (hlt.trans_le (le_of_literal_le h))).le

theorem stored_le_literal_mono {q high hi : K} (hle : high ≤ hi)
    (h : Coordinate.stored q ≤ Coordinate.literal high) :
    Coordinate.stored q ≤ Coordinate.literal hi := by
  rcases hle.eq_or_lt with rfl | hlt
  · exact h
  · exact (Coordinate.stored_lt_literal ((le_of_le_literal h).trans_lt hlt)).le

theorem Within.textContains {inner outer : STRegion K} (h : Within inner outer)
    {p : FullPoint K} (hp : TextContains inner p) : TextContains outer p := by
  intro d lo hlo hi hhi
  obtain ⟨⟨low, hlow, hle⟩, high, hhigh, hge⟩ := h d lo hlo hi hhi
  obtain ⟨hmin, hmax⟩ := hp d low hlow high hhigh
  exact ⟨literal_le_stored_mono hle hmin, stored_le_literal_mono hge hmax⟩

end Within

/-- Wider bounds give a wider box. -/
def Grows [LinearOrder K] (lib : LSTLibrary K δ) : Prop :=
  ∀ needle (narrow wide : FullPoint K) inner outer,
    (∀ d, narrow.coord d ≤ wide.coord d) →
    lib.getSpaceBoundQuick needle narrow.toSTPoint = .ok inner →
    lib.getSpaceBoundQuick needle wide.toSTPoint = .ok outer → Within inner outer

def origin [Zero K] : FullPoint K := ⟨0, 0, 0⟩

theorem origin_le [Zero K] [LE K] {bounds : FullPoint K} (h : ∀ d, 0 ≤ bounds.coord d)
    (d : Dim) : (origin : FullPoint K).coord d ≤ bounds.coord d := by
  cases d with
  | x => exact h .x
  | y => exact h .y
  | t => exact h .t

theorem scale_zero [Zero K] [SMulWithZero ℕ K] (lib : LSTLibrary K δ) (bounds : STPoint K) :
    lib.scale 0 bounds = (origin : FullPoint K).toSTPoint := by
  simp [LSTLibrary.scale, origin, FullPoint.toSTPoint]

theorem scale_origin [Zero K] [SMulWithZero ℕ K] (lib : LSTLibrary K δ) (step : ℕ) :
    lib.scale step (origin : FullPoint K).toSTPoint = (origin : FullPoint K).toSTPoint := by
  simp [LSTLibrary.scale, origin, FullPoint.toSTPoint]

variable [LinearOrder K] [Coordinate K] [Zero K] [SMulWithZero ℕ K]
variable {lib : LSTLibrary K δ} {store : SQLiteStore} {storage : Storage K}
  {points : List (FullPoint K)}

def BoxMeets (lib : LSTLibrary K δ) (points : List (FullPoint K)) (needle bounds : STPoint K)
    (region : STRegion K) : Prop :=
  lib.getSpaceBoundQuick needle bounds = .ok region ∧ ∃ p ∈ points, TextContains region p

/-- What the search may still be in before round `i`: the library has rejected the bounds
in every round, or their box is empty and the bounds are zero. -/
def Unsuccessful (lib : LSTLibrary K δ) (points : List (FullPoint K)) (needle : STPoint K)
    (bounds : FullPoint K) (i : ℕ) (search : Search K) : Prop :=
  search.candPoints = [] ∧
    ((search.boundValues = bounds.toSTPoint ∧ (i = 0 ∨ ∃ exception,
        lib.getSpaceBoundQuick needle bounds.toSTPoint = .error exception)) ∨
      (search.boundValues = (origin : FullPoint K).toSTPoint ∧ ∃ region,
        lib.getSpaceBoundQuick needle bounds.toSTPoint = .ok region ∧
        ∀ p ∈ points, ¬ TextContains region p))

/-- What the search returns when the box of the caller's bounds holds a stored point: the
points of this box, with the bounds as they were. -/
def FoundFirst (lib : LSTLibrary K δ) (points : List (FullPoint K)) (needle : STPoint K)
    (bounds : FullPoint K) (found : Search K) : Prop :=
  found.boundValues = bounds.toSTPoint ∧ ∃ region,
    BoxMeets lib points needle bounds.toSTPoint region ∧
      found.candPoints.Perm (points.filter fun p => TextContains region p)

theorem searchRound_unsuccessful (h : Holds store storage points) (hgrows : Grows lib)
    (order : ScanOrder K) (needle : STPoint K) {bounds : FullPoint K}
    (hbounds : ∀ d, 0 ≤ bounds.coord d) (i : ℕ) (before : Search K)
    (hbefore : Unsuccessful lib points needle bounds i before) :
    (∃ next, searchRound lib store order storage needle 1 i before = .ok (.yield next) ∧
      Unsuccessful lib points needle bounds (i + 1) next) ∨
    ∃ final, searchRound lib store order storage needle 1 i before = .ok (.done final) ∧
      FoundFirst lib points needle bounds final := by
  obtain ⟨candPoints, boundValues⟩ := before
  obtain ⟨step, hstep, houtcome⟩ :=
    searchRound_outcome lib h order needle i ⟨candPoints, boundValues⟩
  obtain ⟨rfl, ⟨rfl, hrejected⟩ | ⟨rfl, region, hfirst, hempty⟩⟩ := hbefore
  · cases houtcome with
    | rejected hregion =>
        exact .inl ⟨_, hstep, rfl, .inl ⟨rfl, .inr ⟨_, hregion⟩⟩⟩
    | found hregion hperm hsome =>
        exact .inr ⟨_, hstep, rfl, _, ⟨hregion, hsome⟩, hperm⟩
    | missed hregion hnone =>
        obtain rfl : i = 0 := hrejected.resolve_right fun ⟨exception, hexception⟩ => by
          rw [hregion] at hexception
          cases hexception
        refine .inl ⟨_, hstep, rfl, .inr ⟨?_, _, hregion, hnone⟩⟩
        exact scale_zero lib _
  · have hnever : ∀ inner, lib.getSpaceBoundQuick needle origin.toSTPoint = .ok inner →
        ∀ p ∈ points, ¬ TextContains inner p := by
      intro inner hinner p hp hcontains
      have hwithin :=
        hgrows needle origin bounds inner region (origin_le hbounds) hinner hfirst
      exact hempty p hp (hwithin.textContains hcontains)
    cases houtcome with
    | rejected hregion =>
        exact .inl ⟨_, hstep, rfl, .inr ⟨rfl, region, hfirst, hempty⟩⟩
    | found hregion hperm hsome =>
        obtain ⟨p, hp, hcontains⟩ := hsome
        exact absurd hcontains (hnever _ hregion p hp)
    | missed hregion hnone =>
        refine .inl ⟨_, hstep, rfl, .inr ⟨?_, region, hfirst, hempty⟩⟩
        exact scale_origin lib _

/-- Over boxes that grow with their bounds, the first round alone decides what the search
finds. -/
theorem search_first_round (lib : LSTLibrary K δ) (h : Holds store storage points)
    (hgrows : Grows lib) (order : ScanOrder K) (needle : STPoint K) {bounds : FullPoint K}
    (hbounds : ∀ d, 0 ≤ bounds.coord d) :
    ∃ found, search lib store order storage needle bounds.toSTPoint 1 = .ok found ∧
      (FoundFirst lib points needle bounds found ∨
        found.candPoints = [] ∧
          ∀ region, ¬ BoxMeets lib points needle bounds.toSTPoint region) := by
  obtain ⟨found, hsearch, hlast | hfirst⟩ := forIn_rounds
    (searchRound_unsuccessful h hgrows order needle hbounds) 0 20 ⟨[], bounds.toSTPoint⟩
    ⟨rfl, .inl ⟨rfl, .inl rfl⟩⟩
  · refine ⟨found, hsearch, .inr ⟨hlast.1, ?_⟩⟩
    rintro region ⟨hregion, p, hp, hcontains⟩
    rcases hlast.2 with ⟨-, hzero | ⟨exception, hexception⟩⟩ | ⟨-, other, hother, hempty⟩
    · exact absurd hzero (by decide)
    · rw [hregion] at hexception
      cases hexception
    · obtain rfl := Except.ok.inj (hregion.symm.trans hother)
      exact hempty p hp hcontains
  · exact ⟨found, hsearch, .inl hfirst⟩

def STPoint.shift (p : STPoint ℚ) (offset : Dim → ℚ) : STPoint ℚ :=
  ⟨p.x.map (· + offset .x), p.y.map (· + offset .y), p.t.map (· + offset .t)⟩

@[simp] theorem coord_shift (p : STPoint ℚ) (offset : Dim → ℚ) (d : Dim) :
    (STPoint.shift p offset).coord d = (p.coord d).map (· + offset d) := by
  cases d <;> rfl

/-- The axis-aligned box around the needle, in the dimensions that the needle has. -/
def boxAround (needle : STPoint ℚ) (width : Dim → ℚ) : STRegion ℚ :=
  ⟨STPoint.shift needle fun d => -width d, STPoint.shift needle width⟩

theorem boxAround_within (needle : STPoint ℚ) {narrow wide : Dim → ℚ}
    (h : ∀ d, narrow d ≤ wide d) : Within (boxAround needle narrow) (boxAround needle wide) := by
  intro d lo hlo hi hhi
  simp only [boxAround, coord_shift, Option.mem_def, Option.map_eq_some_iff] at hlo hhi
  obtain ⟨c, hc, rfl⟩ := hlo
  obtain ⟨_, hsame, rfl⟩ := hhi
  obtain rfl := Option.some.inj (hc.symm.trans hsame)
  simp only [boxAround, coord_shift, hc, Option.map_some, Option.mem_def, Option.some.injEq,
    exists_eq_left']
  exact ⟨by linarith [h d], by linarith [h d]⟩

/-- `getSpaceBoundQuick` is the box around the needle whose half-widths grow with the
bounds and are zero for zero bounds. -/
structure ExactBoxes (lib : LSTLibrary ℚ δ) (halfWidth : STPoint ℚ → Dim → ℚ → ℚ) : Prop where
  region : ∀ needle (bounds : FullPoint ℚ),
    lib.getSpaceBoundQuick needle bounds.toSTPoint =
      .ok (boxAround needle fun d => halfWidth needle d (bounds.coord d))
  mono : ∀ needle d, Monotone (halfWidth needle d)
  zero : ∀ needle d, halfWidth needle d 0 = 0

theorem ExactBoxes.grows {lib : LSTLibrary ℚ δ} {halfWidth : STPoint ℚ → Dim → ℚ → ℚ}
    (h : ExactBoxes lib halfWidth) : Grows lib := by
  intro needle narrow wide inner outer hle hinner houter
  rw [h.region] at hinner houter
  obtain rfl := Except.ok.inj hinner
  obtain rfl := Except.ok.inj houter
  exact boxAround_within needle fun d => h.mono needle d (hle d)

theorem ExactBoxes.boxMeets_iff {lib : LSTLibrary ℚ δ} {halfWidth : STPoint ℚ → Dim → ℚ → ℚ}
    (h : ExactBoxes lib halfWidth) (points : List (FullPoint ℚ)) (needle : STPoint ℚ)
    (bounds : FullPoint ℚ) :
    (∃ region, BoxMeets lib points needle bounds.toSTPoint region) ↔
      ∃ p ∈ points, (boxAround needle fun d => halfWidth needle d (bounds.coord d)).Contains p := by
  simp only [BoxMeets, h.region, Except.ok.injEq, exists_eq_left']
  rfl

def exactLibrary (distance : STPoint ℚ → STPoint ℚ → δ) (maxValue : δ)
    (radius : FullPoint ℚ) : LSTLibrary ℚ δ where
  getSpaceBoundQuick needle bounds := .ok (boxAround needle fun d => (bounds.coord d).getD 0)
  distanceBetween needle point := .ok (some (distance needle point))
  maxValue := maxValue
  unset := 0
  radius := radius

theorem exactLibrary_exactBoxes (distance : STPoint ℚ → STPoint ℚ → δ) (maxValue : δ)
    (radius : FullPoint ℚ) :
    ExactBoxes (exactLibrary distance maxValue radius) fun _ _ bound => bound where
  region needle bounds := by simp [exactLibrary]
  mono _ _ := monotone_id
  zero _ _ := rfl

/-- Before round `i` the loop is in the given state. -/
def StartsRound (lib : LSTLibrary ℚ δ) (store : SQLiteStore) (order : ScanOrder ℚ)
    (storage : Storage ℚ) (needle : STPoint ℚ) (bounds : FullPoint ℚ) (i : ℕ)
    (state : Search ℚ) : Prop :=
  i ≤ 20 ∧ Reaches (searchRound lib store order storage needle 1) 0 ⟨[], bounds.toSTPoint⟩ i
    state

theorem search_startsRound {lib : LSTLibrary ℚ δ} {store : SQLiteStore} {order : ScanOrder ℚ}
    {storage : Storage ℚ} {needle : STPoint ℚ} {bounds : FullPoint ℚ} {found : Search ℚ}
    (h : search lib store order storage needle bounds.toSTPoint 1 = .ok found) :
    StartsRound lib store order storage needle bounds 20 found ∨
      ∃ i before, StartsRound lib store order storage needle bounds i before ∧
        searchRound lib store order storage needle 1 i before = .ok (.done found) := by
  rcases reaches_of_forIn h with hlast | ⟨i, hi, before, hreached, hdone⟩
  · exact .inl ⟨le_rfl, hlast⟩
  · exact .inr ⟨i, before, ⟨by omega, hreached⟩, hdone⟩

/-- A round that found nothing leaves bounds and a box that are at least as large, and
after two unsuccessful retries the bounds are larger than those of the caller. -/
def NeverShrinks (lib : LSTLibrary ℚ δ) (store : SQLiteStore) (order : ScanOrder ℚ)
    (storage : Storage ℚ) (needle : STPoint ℚ) (bounds : FullPoint ℚ) : Prop :=
  (∀ i before after, StartsRound lib store order storage needle bounds i before → i < 20 →
    searchRound lib store order storage needle 1 i before = .ok (.yield after) →
    (∀ d, ∃ old ∈ before.boundValues.coord d, ∃ new ∈ after.boundValues.coord d, old ≤ new) ∧
      ∀ box next, lib.getSpaceBoundQuick needle before.boundValues = .ok box →
        lib.getSpaceBoundQuick needle after.boundValues = .ok next →
          ∀ p, box.Contains p → next.Contains p) ∧
  ∀ after, StartsRound lib store order storage needle bounds 3 after →
    ∀ d, ∃ new ∈ after.boundValues.coord d, bounds.coord d < new

theorem not_neverShrinks {lib : LSTLibrary ℚ δ} {halfWidth : STPoint ℚ → Dim → ℚ → ℚ}
    (hboxes : ExactBoxes lib halfWidth) {store : SQLiteStore} {storage : Storage ℚ}
    {points : List (FullPoint ℚ)} (h : Holds store storage points) (order : ScanOrder ℚ)
    (needle : STPoint ℚ) {bounds : FullPoint ℚ} (hbounds : ∀ d, 0 < bounds.coord d)
    (hempty : ∀ region, ¬ BoxMeets lib points needle bounds.toSTPoint region) :
    ¬ NeverShrinks lib store order storage needle bounds := by
  rintro ⟨hgrow, -⟩
  obtain ⟨step, hstep, houtcome⟩ :=
    searchRound_outcome lib h order needle 0 ⟨[], bounds.toSTPoint⟩
  cases houtcome with
  | rejected hregion =>
      rw [hboxes.region] at hregion
      cases hregion
  | found hregion hperm hsome => exact hempty _ ⟨hregion, hsome⟩
  | missed hregion hnone =>
      obtain ⟨hle, -⟩ := hgrow 0 _ _ ⟨by omega, .here 0 _⟩ (by omega) hstep
      obtain ⟨old, hold, new, hnew, hgrown⟩ := hle .x
      change new ∈ (lib.scale 0 bounds.toSTPoint).coord .x at hnew
      rw [scale_zero] at hnew
      obtain rfl : bounds.x = old := Option.some.inj hold
      obtain rfl : 0 = new := Option.some.inj hnew
      exact absurd (hbounds .x) hgrown.not_gt

theorem neverShrinks_of_boxMeets {lib : LSTLibrary ℚ δ} {store : SQLiteStore}
    {storage : Storage ℚ} {points : List (FullPoint ℚ)} (h : Holds store storage points)
    (order : ScanOrder ℚ) {needle : STPoint ℚ} {bounds : FullPoint ℚ} {region : STRegion ℚ}
    (hmeets : BoxMeets lib points needle bounds.toSTPoint region) :
    NeverShrinks lib store order storage needle bounds := by
  obtain ⟨hregion, p, hp, hcontains⟩ := hmeets
  have hends : ∀ next, searchRound lib store order storage needle 1 0 ⟨[], bounds.toSTPoint⟩ ≠
      .ok (.yield next) := by
    intro next hyield
    obtain ⟨step, hstep, houtcome⟩ :=
      searchRound_outcome lib h order needle 0 ⟨[], bounds.toSTPoint⟩
    obtain rfl := Except.ok.inj (hyield.symm.trans hstep)
    cases houtcome with
    | rejected hother =>
        rw [hregion] at hother
        cases hother
    | missed hother hnone =>
        obtain rfl := Except.ok.inj (hregion.symm.trans hother)
        exact hnone p hp hcontains
  constructor
  · rintro i before after ⟨-, hreached⟩ - hyield
    obtain ⟨rfl, rfl⟩ := hreached.eq_start hends
    exact absurd hyield (hends after)
  · rintro after ⟨-, hreached⟩
    exact absurd (hreached.eq_start hends).1 (by decide)

/-- The search never shrinks exactly when it needs no retry. -/
theorem never_shrinks_iff {lib : LSTLibrary ℚ δ} {halfWidth : STPoint ℚ → Dim → ℚ → ℚ}
    (hboxes : ExactBoxes lib halfWidth) {store : SQLiteStore} {storage : Storage ℚ}
    {points : List (FullPoint ℚ)} (h : Holds store storage points) (order : ScanOrder ℚ)
    (needle : STPoint ℚ) {bounds : FullPoint ℚ} (hbounds : ∀ d, 0 < bounds.coord d) :
    NeverShrinks lib store order storage needle bounds ↔
      ∃ p ∈ points, (boxAround needle fun d => halfWidth needle d (bounds.coord d)).Contains p := by
  rw [← hboxes.boxMeets_iff]
  constructor
  · intro hnever
    by_contra hnone
    exact not_neverShrinks hboxes h order needle hbounds (not_exists.mp hnone) hnever
  · rintro ⟨region, hmeets⟩
    exact neverShrinks_of_boxMeets h order hmeets

theorem never_shrinks_when_found :
    NeverShrinks (exactLibrary (fun _ _ => (0 : ℚ)) 1 ⟨1, 1, 1⟩) (SQLiteNaive "SpatialTableMain")
      (insertionOrder ℚ) (tableOf (SQLiteNaive "SpatialTableMain") [⟨5, 5, 5⟩])
      ⟨some 0, some 0, some 0⟩ ⟨6, 6, 6⟩ :=
  (never_shrinks_iff (exactLibrary_exactBoxes _ _ _) (holds_tableOf _ _) _ _
    (by decide +kernel)).mpr ⟨⟨5, 5, 5⟩, by simp, by decide +kernel⟩

/-- The first box misses the stored point, and the bounds become zero. -/
theorem shrinks_when_missed :
    ExactBoxes (exactLibrary (fun _ _ => (0 : ℚ)) 1 ⟨1, 1, 1⟩) (fun _ _ bound => bound) ∧
      Holds (SQLiteNaive "SpatialTableMain")
        (tableOf (SQLiteNaive "SpatialTableMain") [(⟨5, 5, 5⟩ : FullPoint ℚ)]) [⟨5, 5, 5⟩] ∧
      ¬ NeverShrinks (exactLibrary (fun _ _ => (0 : ℚ)) 1 ⟨1, 1, 1⟩)
        (SQLiteNaive "SpatialTableMain") (insertionOrder ℚ)
        (tableOf (SQLiteNaive "SpatialTableMain") [⟨5, 5, 5⟩])
        ⟨some 0, some 0, some 0⟩ ⟨1, 1, 1⟩ := by
  have hboxes := exactLibrary_exactBoxes (fun _ _ => (0 : ℚ)) 1 ⟨1, 1, 1⟩
  refine ⟨hboxes, holds_tableOf _ _, ?_⟩
  refine not_neverShrinks hboxes (holds_tableOf _ _) _ _ (by decide +kernel) ?_
  intro region hmeets
  obtain ⟨p, hp, hcontains⟩ := (hboxes.boxMeets_iff [⟨5, 5, 5⟩] _ _).mp ⟨region, hmeets⟩
  rw [List.mem_singleton] at hp
  rw [hp] at hcontains
  exact absurd hcontains (by decide +kernel)

end LSTAndroid.SearchGrowth
