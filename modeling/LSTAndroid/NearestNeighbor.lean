import LSTAndroid.Library.MinimumScan
import LSTAndroid.Library.RetryLoop
import LSTAndroid.RangeQueries

/-!
`nearestNeighbor` and `getSequence`, which the two stores share word for word.

The retry loop asks for a box around the needle and multiplies the caller's own bounds
after every round that found nothing.
-/

namespace LSTAndroid.NearestNeighbor

open LSTAndroid.Library.MinimumScan
open LSTAndroid.Library.RetryLoop
open LSTAndroid.SpaceTime
open LSTAndroid.TableStore
open LSTAndroid.RangeQueries

inductive LSTFilterException where
  | raised
  deriving DecidableEq

inductive StoreException where
  | sqlite (exception : SQLiteException)
  | runtime (message : String)
  | nullPointer
  | cursorIndexOutOfBounds
  deriving DecidableEq

/-- What the stores take from the LST library, for the spatial type that is set, and
from `Double`.  A distance that is not a number is `none`, `unset` is what a getter
returns for a coordinate that was never set, and `radius` holds the radii of
`Constants.PoK`. -/
structure LSTLibrary (K δ : Type) where
  getSpaceBoundQuick : STPoint K → STPoint K → Except LSTFilterException (STRegion K)
  distanceBetween : STPoint K → STPoint K → Except LSTFilterException (Option δ)
  maxValue : δ
  unset : K
  radius : FullPoint K

variable {K δ : Type}

def LSTLibrary.distance (lib : LSTLibrary K δ) (needle : STPoint K) (point : FullPoint K) :
    Option δ :=
  match lib.distanceBetween needle point.toSTPoint with
  | .ok distance => distance
  | .error _ => none

def LSTLibrary.scale [SMul ℕ K] (lib : LSTLibrary K δ) (step : ℕ) (boundValues : STPoint K) :
    STPoint K :=
  ⟨some (step • boundValues.x.getD lib.unset), some (step • boundValues.y.getD lib.unset),
    some (step • boundValues.t.getD lib.unset)⟩

structure Search (K : Type) where
  candPoints : List (FullPoint K)
  boundValues : STPoint K

variable [LinearOrder K] [Coordinate K] [SMul ℕ K]

/-- The body of the retry loop in round `i`; the catch block goes on with the same
bounds. -/
def searchRound (lib : LSTLibrary K δ) (store : SQLiteStore) (order : ScanOrder K)
    (storage : Storage K) (needle : STPoint K) (n : ℤ) (i : ℕ) (search : Search K) :
    Except SQLiteException (ForInStep (Search K)) :=
  match lib.getSpaceBoundQuick needle search.boundValues with
  | .error _ => .ok (.yield search)
  | .ok miniRegion => do
      let candPoints ← store.range order miniRegion storage
      if n ≤ candPoints.length then return .done { search with candPoints }
      else return .yield ⟨candPoints, lib.scale (i ^ 3) search.boundValues⟩

def search (lib : LSTLibrary K δ) (store : SQLiteStore) (order : ScanOrder K)
    (storage : Storage K) (needle boundValues : STPoint K) (n : ℤ) :
    Except SQLiteException (Search K) :=
  forIn (List.range' 0 20) ⟨[], boundValues⟩ (searchRound lib store order storage needle n)

variable [LinearOrder δ]

/-- The list of one point or `null`, and what the call leaves in `boundValues`. -/
def nearestNeighbor (lib : LSTLibrary K δ) (store : SQLiteStore) (order : ScanOrder K)
    (storage : Storage K) (needle boundValues : STPoint K) (n : ℤ) :
    Except StoreException (List (Option (FullPoint K)) × STPoint K) :=
  if n ≠ 1 then .error (.runtime "Nearest Neighbor does not support N != 1")
  else do
    let found ← (search lib store order storage needle boundValues n).mapError .sqlite
    let minPoint := (scanMinimum (lib.distance needle) lib.maxValue found.candPoints).1
    return ([minPoint], found.boundValues)

/-- The two lookups of `getSequence`, which share one object of bounds. -/
def sequenceEnds (lib : LSTLibrary K δ) (store : SQLiteStore) (order : ScanOrder K)
    (storage : Storage K) (start finish : STPoint K) :
    Except StoreException (Option (FullPoint K) × Option (FullPoint K)) := do
  let boundValues := lib.radius.toSTPoint
  let (starts, boundValues) ← nearestNeighbor lib store order storage start boundValues 1
  let (ends, _) ← nearestNeighbor lib store order storage finish boundValues 1
  return (starts.head?.join, ends.head?.join)

/-- Both ends of the interval are computed by the same expression. -/
def getSequence (lib : LSTLibrary K δ) (store : SQLiteStore) (order : ScanOrder K)
    (storage : Storage K) (start finish : STPoint K) :
    Except StoreException (List (FullPoint K)) := do
  match ← sequenceEnds lib store order storage start finish with
  | (some startNN, some endNN) =>
      let minT := if startNN.t > endNN.t then startNN.t else endNN.t
      let maxT := if startNN.t > endNN.t then startNN.t else endNN.t
      (store.range order ⟨⟨none, none, some minT⟩, ⟨none, none, some maxT⟩⟩ storage).mapError
        .sqlite
  | _ => .error .nullPointer

omit [LinearOrder δ]

/-- The three ways a round over a store with the given points can go. -/
inductive RoundOutcome (lib : LSTLibrary K δ) (points : List (FullPoint K))
    (needle : STPoint K) (i : ℕ) (before : Search K) : ForInStep (Search K) → Prop where
  | rejected {exception : LSTFilterException}
      (hregion : lib.getSpaceBoundQuick needle before.boundValues = .error exception) :
      RoundOutcome lib points needle i before (.yield before)
  | found {region : STRegion K} {candPoints : List (FullPoint K)}
      (hregion : lib.getSpaceBoundQuick needle before.boundValues = .ok region)
      (hperm : candPoints.Perm (points.filter fun p => TextContains region p))
      (hsome : ∃ p ∈ points, TextContains region p) :
      RoundOutcome lib points needle i before (.done ⟨candPoints, before.boundValues⟩)
  | missed {region : STRegion K}
      (hregion : lib.getSpaceBoundQuick needle before.boundValues = .ok region)
      (hnone : ∀ p ∈ points, ¬ TextContains region p) :
      RoundOutcome lib points needle i before
        (.yield ⟨[], lib.scale (i ^ 3) before.boundValues⟩)

variable {lib : LSTLibrary K δ} {store : SQLiteStore} {storage : Storage K}
  {points : List (FullPoint K)}

theorem searchRound_outcome (lib : LSTLibrary K δ) (h : Holds store storage points)
    (order : ScanOrder K) (needle : STPoint K) (i : ℕ) (before : Search K) :
    ∃ step, searchRound lib store order storage needle 1 i before = .ok step ∧
      RoundOutcome lib points needle i before step := by
  unfold searchRound
  rcases hregion : lib.getSpaceBoundQuick needle before.boundValues with exception | region
  · exact ⟨_, rfl, .rejected hregion⟩
  obtain ⟨candPoints, hrange, hperm⟩ := range_of_holds h order region
  simp only [hrange, bind, Except.bind, pure, Except.pure]
  rcases candPoints with _ | ⟨first, rest⟩
  · refine ⟨_, rfl, .missed hregion ?_⟩
    have hnil := List.nil_perm.mp hperm
    simpa [List.filter_eq_nil_iff] using hnil
  · have hfirst : first ∈ points.filter fun p => TextContains region p :=
      hperm.mem_iff.mp List.mem_cons_self
    rw [List.mem_filter, decide_eq_true_iff] at hfirst
    rw [if_pos (by simp)]
    exact ⟨_, rfl, .found hregion hperm ⟨first, hfirst⟩⟩

/-- The search never fails over an existing table and its candidates are stored. -/
theorem search_stored (lib : LSTLibrary K δ) (h : Holds store storage points)
    (order : ScanOrder K) (needle boundValues : STPoint K) :
    ∃ found, search lib store order storage needle boundValues 1 = .ok found ∧
      ∀ p ∈ found.candPoints, p ∈ points := by
  have hround : ∀ i (before : Search K), (∀ p ∈ before.candPoints, p ∈ points) →
      (∃ next, searchRound lib store order storage needle 1 i before = .ok (.yield next) ∧
        ∀ p ∈ next.candPoints, p ∈ points) ∨
      ∃ final, searchRound lib store order storage needle 1 i before = .ok (.done final) ∧
        ∀ p ∈ final.candPoints, p ∈ points := by
    intro i before hbefore
    obtain ⟨step, hstep, houtcome⟩ := searchRound_outcome lib h order needle i before
    cases houtcome with
    | rejected hregion => exact .inl ⟨before, hstep, hbefore⟩
    | found hregion hperm hsome =>
        refine .inr ⟨_, hstep, fun p hp => ?_⟩
        exact (List.mem_filter.mp (hperm.mem_iff.mp hp)).1
    | missed hregion hnone => exact .inl ⟨_, hstep, by simp⟩
  obtain ⟨found, hsearch, hfound⟩ := forIn_rounds hround 0 20 ⟨[], boundValues⟩ (by simp)
  exact ⟨found, hsearch, hfound.elim id id⟩

variable [LinearOrder δ]

theorem nearestNeighbor_of_search {order : ScanOrder K} {needle boundValues : STPoint K}
    {found : Search K}
    (h : search lib store order storage needle boundValues 1 = .ok found) :
    nearestNeighbor lib store order storage needle boundValues 1 =
      .ok ([(scanMinimum (lib.distance needle) lib.maxValue found.candPoints).1],
        found.boundValues) := by
  simp [nearestNeighbor, h, Except.mapError, bind, Except.bind, pure, Except.pure]

theorem sequenceEnds_of_search {order : ScanOrder K} {start finish : STPoint K}
    {first second : Search K}
    (hfirst : search lib store order storage start lib.radius.toSTPoint 1 = .ok first)
    (hsecond : search lib store order storage finish first.boundValues 1 = .ok second) :
    sequenceEnds lib store order storage start finish =
      .ok ((scanMinimum (lib.distance start) lib.maxValue first.candPoints).1,
        (scanMinimum (lib.distance finish) lib.maxValue second.candPoints).1) := by
  simp [sequenceEnds, nearestNeighbor_of_search hfirst, nearestNeighbor_of_search hsecond,
    bind, Except.bind, pure, Except.pure]

end LSTAndroid.NearestNeighbor
