import LSTAndroid.SearchGrowth

namespace LSTAndroid.Sequences

open LSTAndroid.Library.MinimumScan
open LSTAndroid.SpaceTime
open LSTAndroid.TableStore
open LSTAndroid.RangeQueries
open LSTAndroid.NearestNeighbor
open LSTAndroid.SearchGrowth

section Lookups

variable {K δ : Type} [LinearOrder K] [Coordinate K] [LinearOrder δ]

theorem sequenceEnds_stored [SMul ℕ K] {lib : LSTLibrary K δ} {store : SQLiteStore}
    {storage : Storage K} {points : List (FullPoint K)} (h : Holds store storage points)
    {order : ScanOrder K} {start finish : STPoint K} {startNN endNN : FullPoint K}
    (hends : sequenceEnds lib store order storage start finish =
      .ok (some startNN, some endNN)) :
    startNN ∈ points ∧ endNN ∈ points := by
  obtain ⟨first, hfirst, hfirstStored⟩ :=
    search_stored lib h order start lib.radius.toSTPoint
  obtain ⟨second, hsecond, hsecondStored⟩ :=
    search_stored lib h order finish first.boundValues
  rw [sequenceEnds_of_search hfirst hsecond] at hends
  obtain ⟨hstart, hend⟩ := Prod.mk.inj (Except.ok.inj hends)
  exact ⟨hfirstStored _ ((scanMinimum_isMinimum _ _ _).mem hstart),
    hsecondStored _ ((scanMinimum_isMinimum _ _ _).mem hend)⟩

variable [Zero K] [SMulWithZero ℕ K]

/-- A first lookup that returns a point has needed no retry, so the second one starts from
the radii as they are. -/
theorem endNN_of_startNN {lib : LSTLibrary K δ} (hgrows : Grows lib)
    (hradius : ∀ d, 0 ≤ lib.radius.coord d) {store : SQLiteStore} {storage : Storage K}
    {points : List (FullPoint K)} (h : Holds store storage points) {order : ScanOrder K}
    {start finish : STPoint K} {startNN : FullPoint K} {endNN : Option (FullPoint K)}
    (hends : sequenceEnds lib store order storage start finish = .ok (some startNN, endNN)) :
    ∃ boundValues, nearestNeighbor lib store order storage finish lib.radius.toSTPoint 1 =
      .ok ([endNN], boundValues) := by
  obtain ⟨first, hfirst, hround⟩ := search_first_round lib h hgrows order start hradius
  obtain ⟨second, hsecond, -⟩ := search_stored lib h order finish first.boundValues
  rw [sequenceEnds_of_search hfirst hsecond] at hends
  obtain ⟨hstart, rfl⟩ := Prod.mk.inj (Except.ok.inj hends)
  rcases hround with ⟨hsame, -⟩ | ⟨hnil, -⟩
  · rw [hsame] at hsecond
    exact ⟨_, nearestNeighbor_of_search hsecond⟩
  · rw [hnil] at hstart
    cases hstart

/-- The neighbour of the end is the one that a lookup with the default radii returns,
whatever the start. -/
theorem endNN_independent_of_start {lib : LSTLibrary K δ} (hgrows : Grows lib)
    (hradius : ∀ d, 0 ≤ lib.radius.coord d) {store : SQLiteStore} {storage : Storage K}
    {points : List (FullPoint K)} (h : Holds store storage points) {order : ScanOrder K}
    {start₁ start₂ finish : STPoint K} {startNN₁ startNN₂ : FullPoint K}
    {endNN₁ endNN₂ : Option (FullPoint K)}
    (hends₁ : sequenceEnds lib store order storage start₁ finish = .ok (some startNN₁, endNN₁))
    (hends₂ : sequenceEnds lib store order storage start₂ finish =
      .ok (some startNN₂, endNN₂)) :
    endNN₁ = endNN₂ ∧
      ∃ boundValues, nearestNeighbor lib store order storage finish lib.radius.toSTPoint 1 =
        .ok ([endNN₁], boundValues) := by
  obtain ⟨bounds₁, hlookup₁⟩ := endNN_of_startNN hgrows hradius h hends₁
  obtain ⟨bounds₂, hlookup₂⟩ := endNN_of_startNN hgrows hradius h hends₂
  refine ⟨?_, bounds₁, hlookup₁⟩
  simpa using (Prod.mk.inj (Except.ok.inj (hlookup₁.symm.trans hlookup₂))).1

end Lookups

def unitLibrary : LSTLibrary ℚ ℚ :=
  exactLibrary (fun needle p => |needle.t.getD 0 - p.t.getD 0|) 1000 ⟨1, 1, 1⟩

def timesTable (times : List ℚ) : Storage ℚ :=
  tableOf (SQLiteNaive "SpatialTableMain") (times.map fun t => ⟨0, 0, t⟩)

def atTime (t : ℚ) : STPoint ℚ := ⟨some 0, some 0, some t⟩

theorem endNN_after_two_starts :
    some (⟨0, 0, 8⟩ : FullPoint ℚ) = some ⟨0, 0, 8⟩ ∧
      ∃ boundValues, nearestNeighbor unitLibrary (SQLiteNaive "SpatialTableMain")
        (insertionOrder ℚ) (timesTable [3, 8]) (atTime 9) unitLibrary.radius.toSTPoint 1 =
          .ok ([some ⟨0, 0, 8⟩], boundValues) := by
  have hfirst : sequenceEnds unitLibrary (SQLiteNaive "SpatialTableMain") (insertionOrder ℚ)
      (timesTable [3, 8]) (atTime 3) (atTime 9) = .ok (some ⟨0, 0, 3⟩, some ⟨0, 0, 8⟩) := by
    decide +kernel
  have hsecond : sequenceEnds unitLibrary (SQLiteNaive "SpatialTableMain") (insertionOrder ℚ)
      (timesTable [3, 8]) (atTime 7) (atTime 9) = .ok (some ⟨0, 0, 8⟩, some ⟨0, 0, 8⟩) := by
    decide +kernel
  exact endNN_independent_of_start (exactLibrary_exactBoxes _ _ _).grows (by decide +kernel)
    (holds_tableOf _ _) hfirst hsecond

section Interval

variable {δ : Type} [LinearOrder δ]

/-- The points between the two times, each as often as it is stored, in the order of
their times. -/
def IsSequence (points : List (FullPoint ℚ)) (startNN endNN : FullPoint ℚ)
    (found : List (FullPoint ℚ)) : Prop :=
  found.Perm (points.filter fun p =>
      min startNN.t endNN.t ≤ p.t ∧ p.t ≤ max startNN.t endNN.t) ∧
    found.Pairwise fun p q => p.t ≤ q.t

theorem instant_contains_iff (time : ℚ) (p : FullPoint ℚ) :
    TextContains ⟨⟨none, none, some time⟩, ⟨none, none, some time⟩⟩ p ↔ p.t = time := by
  constructor
  · intro h
    obtain ⟨hmin, hmax⟩ := h .t time rfl time rfl
    exact le_antisymm hmax hmin
  · intro heq d lo hlo hi hhi
    cases d with
    | x => cases hlo
    | y => cases hlo
    | t =>
        obtain rfl : time = lo := Option.some.inj hlo
        obtain rfl : time = hi := Option.some.inj hhi
        exact ⟨heq.ge, heq.le⟩

theorem getSequence_of_ends {lib : LSTLibrary ℚ δ} {store : SQLiteStore} {storage : Storage ℚ}
    {points : List (FullPoint ℚ)} (h : Holds store storage points) {order : ScanOrder ℚ}
    {start finish : STPoint ℚ} {startNN endNN : FullPoint ℚ}
    (hends : sequenceEnds lib store order storage start finish =
      .ok (some startNN, some endNN)) :
    ∃ found, getSequence lib store order storage start finish = .ok found ∧
      found.Perm (points.filter fun p => p.t = max startNN.t endNN.t) := by
  have hlater : (if startNN.t > endNN.t then startNN.t else endNN.t) =
      max startNN.t endNN.t := by
    rw [max_comm, max_def_lt]
  obtain ⟨found, hrange, hperm⟩ := range_of_holds h order
    ⟨⟨none, none, some (max startNN.t endNN.t)⟩, ⟨none, none, some (max startNN.t endNN.t)⟩⟩
  refine ⟨found, ?_, hperm.trans (.of_eq ?_)⟩
  · simp [getSequence, hends, hlater, hrange, Except.mapError, bind, Except.bind]
  · apply List.filter_congr
    intro p _
    rw [decide_eq_decide]
    exact instant_contains_iff _ p

theorem getSequence_isSequence_iff {lib : LSTLibrary ℚ δ} {store : SQLiteStore}
    {storage : Storage ℚ} {points : List (FullPoint ℚ)} (h : Holds store storage points)
    {order : ScanOrder ℚ} {start finish : STPoint ℚ} {startNN endNN : FullPoint ℚ}
    (hends : sequenceEnds lib store order storage start finish =
      .ok (some startNN, some endNN)) :
    (∃ found, getSequence lib store order storage start finish = .ok found ∧
      IsSequence points startNN endNN found) ↔ startNN.t = endNN.t := by
  obtain ⟨hstart, hend⟩ := sequenceEnds_stored h hends
  obtain ⟨found, hsequence, hfound⟩ := getSequence_of_ends h hends
  constructor
  · rintro ⟨other, hother, hperm, -⟩
    obtain rfl := Except.ok.inj (hsequence.symm.trans hother)
    have hlatest : ∀ p ∈ points, min startNN.t endNN.t ≤ p.t → p.t ≤ max startNN.t endNN.t →
        p.t = max startNN.t endNN.t := by
      intro p hp hmin hmax
      have hmem : p ∈ found := hperm.mem_iff.mpr (List.mem_filter.mpr ⟨hp, by simp [hmin, hmax]⟩)
      simpa using (List.mem_filter.mp (hfound.mem_iff.mp hmem)).2
    calc
      startNN.t = max startNN.t endNN.t :=
        hlatest startNN hstart (min_le_left _ _) (le_max_left _ _)
      _ = endNN.t := (hlatest endNN hend (min_le_right _ _) (le_max_right _ _)).symm
  · intro hsame
    refine ⟨found, hsequence, hfound.trans (.of_eq ?_), ?_⟩
    · apply List.filter_congr
      intro p _
      rw [decide_eq_decide, hsame, min_self, max_self]
      exact ⟨fun heq => ⟨heq.ge, heq.le⟩, fun ⟨hge, hle⟩ => le_antisymm hle hge⟩
    · have hlatest : ∀ p ∈ found, p.t = max startNN.t endNN.t := by
        intro p hp
        simpa using (List.mem_filter.mp (hfound.mem_iff.mp hp)).2
      refine List.pairwise_of_forall_mem_list fun p hp q hq => ?_
      rw [hlatest p hp, hlatest q hq]

end Interval

theorem getSequence_of_one_time :
    (∃ found, getSequence unitLibrary (SQLiteNaive "SpatialTableMain") (insertionOrder ℚ)
        (timesTable [3, 8]) (atTime 7) (atTime 9) = .ok found ∧
      IsSequence [⟨0, 0, 3⟩, ⟨0, 0, 8⟩] ⟨0, 0, 8⟩ ⟨0, 0, 8⟩ found) ↔ (8 : ℚ) = 8 :=
  getSequence_isSequence_iff (holds_tableOf _ _) (by decide +kernel)

/-- The point at the earlier of the two times is stored and is not returned. -/
theorem getSequence_loses_start :
    sequenceEnds unitLibrary (SQLiteNaive "SpatialTableMain") (insertionOrder ℚ)
        (timesTable [3, 8]) (atTime 3) (atTime 9) = .ok (some ⟨0, 0, 3⟩, some ⟨0, 0, 8⟩) ∧
      getSequence unitLibrary (SQLiteNaive "SpatialTableMain") (insertionOrder ℚ)
        (timesTable [3, 8]) (atTime 3) (atTime 9) = .ok [⟨0, 0, 8⟩] ∧
      ¬ IsSequence [⟨0, 0, 3⟩, ⟨0, 0, 8⟩] ⟨0, 0, 3⟩ ⟨0, 0, 8⟩ [⟨0, 0, 8⟩] := by
  refine ⟨by decide +kernel, by decide +kernel, ?_⟩
  rintro ⟨hperm, -⟩
  have hlength := hperm.length_eq
  revert hlength
  decide +kernel

end LSTAndroid.Sequences
