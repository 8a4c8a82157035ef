import LSTAndroid.Library.NestedLoops
import LSTAndroid.TableStore
import LSTAndroid.RecordedOrder

namespace LSTAndroid.GridFactorSweep

open LSTAndroid.Library.SignificantBits
open LSTAndroid.Library.NestedLoops
open LSTAndroid.SpaceTime
open LSTAndroid.TableStore
open LSTAndroid.RecordedOrder

/-- The bounding box and the steps. Of the floats only `<` and `+` are used. -/
structure Grid (F : Type) where
  mins : Dim → F
  maxs : Dim → F
  steps : Dim → F

namespace Grid

variable {F S : Type} [LT F] [DecidableLT F] [Add F] (grid : Grid F)

def window (x y t : F) : STRegion F :=
  .box ⟨x, y, t⟩ ⟨x + grid.steps .x, y + grid.steps .y, t + grid.steps .t⟩

def forDim (d : Dim) (body : F → S → Option (ForInStep S)) (rounds : ℕ) :
    S → Option (ForInStep S) :=
  forLoop (fun v => decide (v < grid.maxs d)) (· + grid.steps d) body rounds (grid.mins d)

/-- The three loops; `done` is the `break` with the label of the outermost. -/
def sweep (body : STRegion F → S → ForInStep S) (rounds : ℕ) : S → Option (ForInStep S) :=
  grid.forDim .x (fun x =>
    grid.forDim .y (fun y =>
      grid.forDim .t (fun t s => some (body (grid.window x y t) s)) rounds) rounds) rounds

end Grid

structure Setup where
  helper : SQLiteStore
  kdCache : Bool

def gridFactorSweep : Setup := ⟨SQLiteRTree "RTreeMain", true⟩

def superGridRArr : Setup := ⟨SQLiteRTree "RTreeMain", false⟩

def superGridDbArr : Setup := ⟨SQLiteNaive "SpatialTableMain", false⟩

def superGridDbKd : Setup := ⟨SQLiteNaive "SpatialTableMain", true⟩

/-- What the filter, the helper and the profiler do to the device and return: a
`windowPoK`, whether it is above `0.001`, and the number of points of a range. -/
structure Calls (F D M : Type) where
  windowPoK : STRegion F → M → D × M
  nonZero : D → Bool
  rangeSize : STRegion F → M → ℕ × M
  startMark : STRegion F → M → M
  endMark : STRegion F → M → M
  stopProfiling : M → M

variable {F D M : Type}

/-- The marks around the three calls of `windowPoK`, with the value of the last. -/
def profiledPoK (calls : Calls F D M) (region : STRegion F) (device : M) : D × M :=
  let started := calls.startMark region device
  let once := (calls.windowPoK region started).2
  let twice := (calls.windowPoK region once).2
  let (val, thrice) := calls.windowPoK region twice
  (val, calls.endMark region thrice)

/-- `totalCount` is an `int`. -/
structure Profile (F M : Type) where
  visited : List (STRegion F)
  nonZeroCount : ℕ
  totalCount : ℤ
  device : M

def Profile.start (device : M) : Profile F M := ⟨[], 0, 0, device⟩

def profile (calls : Calls F D M) (region : STRegion F) (state : Profile F M) : Profile F M :=
  let (val, device) := profiledPoK calls region state.device
  { visited := state.visited ++ [region]
    nonZeroCount := if calls.nonZero val then state.nonZeroCount + 1 else state.nonZeroCount
    totalCount := (state.totalCount + 1).bmod (2 ^ 32)
    device }

/-- `if(nonZeroCount >= 20){ break outerloop; }`. -/
def enoughNonZero (state : Profile F M) : Bool :=
  20 ≤ state.nonZeroCount

structure Measures (F D M : Type) where
  visited : List (STRegion F)
  poks : List D
  numCandPoints : List ℕ
  totalCount : ℤ
  device : M

/-- The lists are new, the counter is the one of the first sweep. -/
def Measures.start (calls : Calls F D M) (profiled : Profile F M) : Measures F D M :=
  ⟨[], [], [], profiled.totalCount, calls.stopProfiling profiled.device⟩

def measure (calls : Calls F D M) (region : STRegion F) (state : Measures F D M) :
    Measures F D M :=
  let (pok, device) := calls.windowPoK region state.device
  let (size, device) := calls.rangeSize region device
  { visited := state.visited ++ [region]
    poks := state.poks ++ [pok]
    numCandPoints := state.numCandPoints ++ [size]
    totalCount := (state.totalCount - 1).bmod (2 ^ 32)
    device }

/-- `if(totalCount <= 0){ break secondOuterLoop; }`. -/
def countedDown (state : Measures F D M) : Bool :=
  state.totalCount ≤ 0

section Sweeps

variable [LT F] [DecidableLT F] [Add F]

def firstSweep (calls : Calls F D M) (grid : Grid F) (rounds : ℕ) (device : M) :
    Option (Profile F M) :=
  (grid.sweep (breakWhen enoughNonZero (profile calls)) rounds (.start device)).map
    ForInStep.value

def secondSweep (calls : Calls F D M) (grid : Grid F) (rounds : ℕ) (profiled : Profile F M) :
    Option (Measures F D M) :=
  (grid.sweep (breakWhen countedDown (measure calls)) rounds (.start calls profiled)).map
    ForInStep.value

/-- `execute` from the loops on, when each loop is given so many rounds. -/
def execute (callsOf : Setup → Calls F D M) (setup : Setup) (grid : Grid F) (rounds : ℕ)
    (device : M) : Option (Profile F M × Measures F D M) := do
  let profiled ← firstSweep (callsOf setup) grid rounds device
  let measures ← secondSweep (callsOf setup) grid rounds profiled
  return (profiled, measures)

end Sweeps

namespace Grid

variable {S : Type} [LT F] [DecidableLT F] [Add F] (grid : Grid F)

def roundsOf (d : Dim) (inner : F → Rounds (STRegion F)) (rounds : ℕ) : Rounds (STRegion F) :=
  .ofLoop (fun v => decide (v < grid.maxs d)) (· + grid.steps d) inner rounds (grid.mins d)

/-- All windows in order, as far as so many rounds of each loop go. -/
def windows (rounds : ℕ) : Rounds (STRegion F) :=
  grid.roundsOf .x (fun x =>
    grid.roundsOf .y (fun y =>
      grid.roundsOf .t (fun t => .single (grid.window x y t)) rounds) rounds) rounds

theorem sweep_eq_visit (body : STRegion F → S → ForInStep S) (rounds : ℕ) (s : S) :
    grid.sweep body rounds s = (grid.windows rounds).visit body s := by
  refine Rounds.forLoop_eq_visit body (fun x s => ?_) rounds _ s
  refine Rounds.forLoop_eq_visit body (fun y s => ?_) rounds _ s
  refine Rounds.forLoop_eq_visit body (fun t s => ?_) rounds _ s
  exact (Rounds.visit_single body (grid.window x y t) s).symm

end Grid

/-- The values of windows that are profiled one after the other. -/
def pokResults (calls : Calls F D M) : List (STRegion F) → M → List D
  | [], _ => []
  | region :: rest, device =>
      (profiledPoK calls region device).1 ::
        pokResults calls rest (profiledPoK calls region device).2

/-- The box has fewer than `2 ^ 31` windows, or twenty non-zero ones before that. -/
def CounterSuffices [LT F] [DecidableLT F] [Add F] (calls : Calls F D M) (grid : Grid F)
    (rounds : ℕ) (device : M) : Prop :=
  (grid.windows rounds).values.length ≤ 2 ^ 31 - 1 ∨
    20 ≤ (pokResults calls ((grid.windows rounds).values.take (2 ^ 31 - 1)) device).countP
      calls.nonZero

/-- The device when the `i`-th of these windows is measured. -/
def deviceAt (calls : Calls F D M) (windows : List (STRegion F)) (device : M) (i : ℕ) : M :=
  (windows.take i).foldl
    (fun device region => (calls.rangeSize region (calls.windowPoK region device).2).2) device

/-- The second sweep visits the windows of the first in the same order, and both lists have
an entry for each of them. -/
structure Repeats (calls : Calls F D M) (profiled : Profile F M) (measures : Measures F D M) :
    Prop where
  visited : measures.visited = profiled.visited
  poks_length : (measures.poks.length : ℤ) = profiled.totalCount
  numCandPoints_length : (measures.numCandPoints.length : ℤ) = profiled.totalCount
  poks_get : ∀ i, measures.poks[i]? = profiled.visited[i]?.map fun region =>
    (calls.windowPoK region
      (deviceAt calls profiled.visited (calls.stopProfiling profiled.device) i)).1
  numCandPoints_get : ∀ i, measures.numCandPoints[i]? = profiled.visited[i]?.map fun region =>
    (calls.rangeSize region (calls.windowPoK region
      (deviceAt calls profiled.visited (calls.stopProfiling profiled.device) i)).2).1

section Sums

variable (calls : Calls F D M)

theorem profile_visited (windows : List (STRegion F)) (state : Profile F M) :
    (stateAfter (profile calls) windows state).visited = state.visited ++ windows := by
  induction windows using List.reverseRecOn with
  | nil => simp
  | append_singleton before last ih => simp [profile, ih]

theorem profile_totalCount (windows : List (STRegion F)) (device : M) :
    (stateAfter (profile calls) windows (.start device)).totalCount =
      (windows.length : ℤ).bmod (2 ^ 32) := by
  have hstep : ∀ region state, (profile calls region state).totalCount =
      (state.totalCount + 1).bmod (2 ^ 32) := fun _ _ => rfl
  have hcount := stateAfter_counter hstep windows (s := .start device) rfl
  simpa [Profile.start] using hcount

theorem profile_nonZeroCount (windows : List (STRegion F)) (state : Profile F M) :
    (stateAfter (profile calls) windows state).nonZeroCount =
      state.nonZeroCount + (pokResults calls windows state.device).countP calls.nonZero := by
  induction windows generalizing state with
  | nil => simp [pokResults]
  | cons region rest ih =>
      rw [stateAfter_cons, ih, pokResults, List.countP_cons]
      simp only [profile]
      split <;> omega

theorem enoughNonZero_mono (region : STRegion F) (state : Profile F M)
    (h : enoughNonZero state = true) : enoughNonZero (profile calls region state) = true := by
  have hgrows : state.nonZeroCount ≤ (profile calls region state).nonZeroCount := by
    simp only [profile]
    split <;> omega
  rw [enoughNonZero, decide_eq_true_eq] at h ⊢
  exact h.trans hgrows

theorem measure_visited (windows : List (STRegion F)) (state : Measures F D M) :
    (stateAfter (measure calls) windows state).visited = state.visited ++ windows := by
  induction windows using List.reverseRecOn with
  | nil => simp
  | append_singleton before last ih => simp [measure, ih]

theorem measure_totalCount (windows : List (STRegion F)) {profiled : Profile F M}
    (hcount : profiled.totalCount = (profiled.totalCount).bmod (2 ^ 32)) :
    (stateAfter (measure calls) windows (.start calls profiled)).totalCount =
      (profiled.totalCount - windows.length).bmod (2 ^ 32) := by
  have hstep : ∀ region state, (measure calls region state).totalCount =
      (state.totalCount + -1).bmod (2 ^ 32) := fun _ _ => rfl
  have htotal := stateAfter_counter hstep windows (s := .start calls profiled) hcount.symm
  simpa [Measures.start, Int.sub_eq_add_neg] using htotal

theorem measure_left {profiled : Profile F M} {windows : List (STRegion F)}
    (hlength : windows.length < 2 ^ 31) (hcount : profiled.totalCount = windows.length) {j : ℕ}
    (hj : j ≤ windows.length) :
    (stateAfter (measure calls) (windows.take j) (.start calls profiled)).totalCount =
      (windows.length - j : ℕ) := by
  rw [measure_totalCount calls _ (by rw [hcount, (bmod_eq_self_iff _).mpr hlength]), hcount,
    List.length_take_of_le hj, ← Nat.cast_sub hj]
  exact (bmod_eq_self_iff _).mpr (by omega)

theorem countedDown_measure {profiled : Profile F M} {windows : List (STRegion F)}
    (hlength : windows.length < 2 ^ 31) (hcount : profiled.totalCount = windows.length) :
    countedDown (stateAfter (measure calls) windows (.start calls profiled)) = true := by
  have hzero := measure_left calls hlength hcount le_rfl
  rw [List.take_length] at hzero
  simp [countedDown, hzero]

theorem measure_device (windows : List (STRegion F)) (profiled : Profile F M) :
    (stateAfter (measure calls) windows (.start calls profiled)).device =
      deviceAt calls windows (calls.stopProfiling profiled.device) windows.length := by
  rw [deviceAt, List.take_length]
  induction windows using List.reverseRecOn with
  | nil => rfl
  | append_singleton before last ih =>
      rw [stateAfter_concat, List.foldl_append, ← ih]
      rfl

theorem deviceAt_concat (before : List (STRegion F)) (last : STRegion F) (device : M) {i : ℕ}
    (hi : i ≤ before.length) :
    deviceAt calls (before ++ [last]) device i = deviceAt calls before device i := by
  rw [deviceAt, deviceAt, List.take_append_of_le_length hi]

theorem measure_get {B : Type} (entries : Measures F D M → List B) (entry : STRegion F → M → B)
    (hstart : ∀ profiled, entries (.start calls profiled) = [])
    (hmeasure : ∀ region state, entries (measure calls region state) =
      entries state ++ [entry region state.device])
    (windows : List (STRegion F)) (profiled : Profile F M) :
    (entries (stateAfter (measure calls) windows (.start calls profiled))).length =
        windows.length ∧
      ∀ i, (entries (stateAfter (measure calls) windows (.start calls profiled)))[i]? =
        windows[i]?.map fun region =>
          entry region (deviceAt calls windows (calls.stopProfiling profiled.device) i) := by
  induction windows using List.reverseRecOn with
  | nil => simp [hstart]
  | append_singleton before last ih =>
      obtain ⟨hlength, hget⟩ := ih
      rw [stateAfter_concat, hmeasure, measure_device]
      refine ⟨by simp [hlength], fun i => ?_⟩
      rcases lt_trichotomy i before.length with hlt | rfl | hgt
      · rw [List.getElem?_append_left (by omega), List.getElem?_append_left hlt, hget,
          deviceAt_concat calls before last _ hlt.le]
      · rw [List.getElem?_append_right hlength.le, List.getElem?_append_right le_rfl, hlength,
          deviceAt_concat calls before last _ le_rfl]
        simp
      · rw [List.getElem?_eq_none (by simp; omega), List.getElem?_eq_none (by simp; omega)]
        rfl

theorem repeats_measure {profiled : Profile F M} {windows : List (STRegion F)}
    (hvisited : profiled.visited = windows) (hcount : profiled.totalCount = windows.length) :
    Repeats calls profiled (stateAfter (measure calls) windows (.start calls profiled)) := by
  subst hvisited
  have hpoks := measure_get calls Measures.poks (fun region device =>
    (calls.windowPoK region device).1) (fun _ => rfl) (fun _ _ => rfl) profiled.visited profiled
  have hsizes := measure_get calls Measures.numCandPoints (fun region device =>
    (calls.rangeSize region (calls.windowPoK region device).2).1) (fun _ => rfl)
    (fun _ _ => rfl) profiled.visited profiled
  refine ⟨?_, ?_, ?_, hpoks.2, hsizes.2⟩
  · rw [measure_visited]
    rfl
  · rw [hpoks.1, hcount]
  · rw [hsizes.1, hcount]

theorem Repeats.length_poks {calls : Calls F D M} {profiled : Profile F M}
    {measures : Measures F D M} (h : Repeats calls profiled measures) :
    measures.poks.length = profiled.visited.length := by
  apply le_antisymm
  · rw [← List.getElem?_eq_none_iff, h.poks_get, List.getElem?_eq_none le_rfl]
    rfl
  · rw [← List.getElem?_eq_none_iff, ← Option.map_eq_none_iff, ← h.poks_get,
      List.getElem?_eq_none le_rfl]

end Sums

section Sweeps

variable [LT F] [DecidableLT F] [Add F]
variable {calls : Calls F D M} {grid : Grid F} {rounds : ℕ} {device : M}
  {profiled : Profile F M} {measures : Measures F D M}

def profiledWindows (calls : Calls F D M) (grid : Grid F) (rounds : ℕ) (device : M) :
    List (STRegion F) :=
  visited enoughNonZero (profile calls) (grid.windows rounds).values (.start device)

theorem firstSweep_eq_some (h : firstSweep calls grid rounds device = some profiled) :
    profiled = stateAfter (profile calls) (profiledWindows calls grid rounds device)
      (.start device) ∧
    ((grid.windows rounds).ended ∨
      (grid.windows rounds).values ≠ [] ∧ enoughNonZero profiled) := by
  obtain ⟨result, hresult, rfl⟩ := Option.map_eq_some_iff.mp h
  rw [Grid.sweep_eq_visit] at hresult
  exact visit_eq_some hresult

theorem length_profiledWindows_le_iff (n : ℕ) :
    (profiledWindows calls grid rounds device).length ≤ n ↔
      (grid.windows rounds).values.length ≤ n ∨
        20 ≤ (pokResults calls ((grid.windows rounds).values.take n) device).countP
          calls.nonZero := by
  have hlength : (profiledWindows calls grid rounds device).length ≤ n ↔ _ :=
    length_visited_le_iff (enoughNonZero_mono calls) rfl n
  rw [enoughNonZero, decide_eq_true_eq, profile_nonZeroCount] at hlength
  simpa [Profile.start] using hlength

theorem length_profiledWindows_lt_iff :
    (profiledWindows calls grid rounds device).length < 2 ^ 31 ↔
      CounterSuffices calls grid rounds device := by
  rw [Nat.lt_iff_le_pred (by norm_num)]
  exact length_profiledWindows_le_iff (2 ^ 31 - 1)

/-- With a counter that suffices the second sweep visits as many windows as the first. -/
theorem measured_eq (hlength : (profiledWindows calls grid rounds device).length < 2 ^ 31)
    (hcount : profiled.totalCount = (profiledWindows calls grid rounds device).length) :
    visited countedDown (measure calls) (grid.windows rounds).values (.start calls profiled) =
      profiledWindows calls grid rounds device := by
  rcases eq_or_ne (profiledWindows calls grid rounds device) [] with hnil | hne
  · rw [hnil, (visited_eq_nil_iff _ _).mp hnil]
    rfl
  · refine visited_eq_of_initial (visited_initial _ _) hne (fun j _ hj => ?_)
      (countedDown_measure calls hlength hcount)
    rw [countedDown, measure_left calls hlength hcount hj.le, decide_eq_false_iff_not]
    omega

theorem secondSweep_eq_some {windows : List (STRegion F)}
    (hvisited : visited countedDown (measure calls) (grid.windows rounds).values
      (.start calls profiled) = windows)
    (hends : (grid.windows rounds).ended ∨ (grid.windows rounds).values ≠ [] ∧
      countedDown (stateAfter (measure calls) windows (.start calls profiled))) :
    secondSweep calls grid rounds profiled =
      some (stateAfter (measure calls) windows (.start calls profiled)) := by
  rw [← hvisited] at hends
  obtain ⟨result, hresult, hvalue⟩ := visit_isSome hends
  rw [secondSweep, Grid.sweep_eq_visit, hresult, Option.map_some, hvalue, hvisited]

theorem secondSweep_repeats_iff (hends : firstSweep calls grid rounds device = some profiled) :
    (∃ measures, secondSweep calls grid rounds profiled = some measures ∧
        Repeats calls profiled measures) ↔
      CounterSuffices calls grid rounds device := by
  obtain ⟨hprofiled, hlast⟩ := firstSweep_eq_some hends
  have hvisited : profiled.visited = profiledWindows calls grid rounds device := by
    rw [hprofiled, profile_visited]
    rfl
  have htotal : profiled.totalCount =
      ((profiledWindows calls grid rounds device).length : ℤ).bmod (2 ^ 32) := by
    rw [hprofiled, profile_totalCount]
  rw [← length_profiledWindows_lt_iff]
  constructor
  · rintro ⟨measures, -, hrepeats⟩
    rw [← bmod_eq_self_iff, ← htotal, ← hrepeats.poks_length, hrepeats.length_poks, hvisited]
  · intro hlt
    have hcount := htotal.trans ((bmod_eq_self_iff _).mpr hlt)
    refine ⟨_, secondSweep_eq_some (measured_eq hlt hcount) ?_,
      repeats_measure calls hvisited hcount⟩
    exact hlast.imp_right fun hbreak => ⟨hbreak.1, countedDown_measure calls hlt hcount⟩

theorem execute_eq_some_iff (callsOf : Setup → Calls F D M) (setup : Setup)
    (hends : firstSweep (callsOf setup) grid rounds device = some profiled) :
    execute callsOf setup grid rounds device = some (profiled, measures) ↔
      secondSweep (callsOf setup) grid rounds profiled = some measures := by
  rcases hsecond : secondSweep (callsOf setup) grid rounds profiled with - | second
  · simp [execute, hends, hsecond]
  · simp [execute, hends, hsecond]

/-- The second sweep repeats the first exactly when the `int` that counts the windows does
not overflow. -/
theorem repeats_iff (callsOf : Setup → Calls F D M) (setup : Setup)
    (hends : firstSweep (callsOf setup) grid rounds device = some profiled) :
    (∃ measures, execute callsOf setup grid rounds device = some (profiled, measures) ∧
        Repeats (callsOf setup) profiled measures) ↔
      CounterSuffices (callsOf setup) grid rounds device := by
  rw [← secondSweep_repeats_iff hends]
  exact exists_congr fun measures => and_congr_left fun _ =>
    execute_eq_some_iff callsOf setup hends

end Sweeps

structure WholeFloat where
  value : ℤ
  representable : Representable floatBits value.natAbs

instance : LT WholeFloat :=
  ⟨fun a b => a.value < b.value⟩

instance : DecidableLT WholeFloat :=
  fun a b => inferInstanceAs (Decidable (a.value < b.value))

instance : Add WholeFloat :=
  ⟨fun a b => ⟨add floatBits a.value b.value, representable_round (by decide) _⟩⟩

def wholeFloat (n : ℕ) (h : n < 2 ^ floatBits) : WholeFloat :=
  ⟨n, representable_of_lt h⟩

theorem wholeFloat_add {m n : ℕ} (hm : m < 2 ^ floatBits) (hn : n < 2 ^ floatBits)
    (h : m + n < 2 ^ floatBits) :
    wholeFloat m hm + wholeFloat n hn = wholeFloat (m + n) h := by
  have hsum : add floatBits m n = (m + n : ℕ) :=
    round_of_representable (by decide) (representable_of_lt h)
  change WholeFloat.mk _ _ = WholeFloat.mk _ _
  simp only [wholeFloat, hsum]

theorem iterate_step {step : ℕ} (hstep : step < 2 ^ floatBits) {j : ℕ}
    (hj : j * step < 2 ^ floatBits) :
    (· + wholeFloat step hstep)^[j] (wholeFloat 0 (by decide)) = wholeFloat (j * step) hj := by
  induction j with
  | zero => simp
  | succ j ih =>
      have hbefore : j * step < 2 ^ floatBits := by
        rw [Nat.succ_mul] at hj
        omega
      rw [Function.iterate_succ_apply', ih hbefore, wholeFloat_add _ _ (Nat.succ_mul j step ▸ hj)]
      simp only [Nat.succ_mul]

theorem complete_roundsOf (grid : Grid WholeFloat) (d : Dim) {step k : ℕ}
    (hbound : k * step < 2 ^ floatBits) (hpos : 0 < step) (hstep : step < 2 ^ floatBits)
    (hmins : grid.mins d = wholeFloat 0 (by decide))
    (hmaxs : grid.maxs d = wholeFloat (k * step) hbound)
    (hsteps : grid.steps d = wholeFloat step hstep)
    {inner : WholeFloat → Rounds (STRegion WholeFloat)} {n : ℕ}
    (hinner : ∀ v, (inner v).Complete n) {rounds : ℕ} (hrounds : k < rounds) :
    (grid.roundsOf d inner rounds).Complete (k * n) := by
  have hbelow : ∀ j (hj : j ≤ k),
      (· + grid.steps d)^[j] (grid.mins d) < grid.maxs d ↔ j < k := by
    intro j hj
    have hle : j * step ≤ k * step := Nat.mul_le_mul_right step hj
    rw [hmins, hmaxs, hsteps, iterate_step hstep (hle.trans_lt hbound)]
    change ((j * step : ℕ) : ℤ) < ((k * step : ℕ) : ℤ) ↔ j < k
    rw [Nat.cast_lt, Nat.mul_lt_mul_right hpos]
  refine Rounds.complete_ofLoop hinner (fun j hj => ?_) ?_ hrounds
  · exact decide_eq_true ((hbelow j hj.le).mpr hj)
  · exact decide_eq_false ((hbelow k le_rfl).not.mpr (lt_irrefl k))

/-- A box of 1024 km by 512 km and 128 days, with the steps of the mobility data. -/
def widelySpread : Grid WholeFloat where
  mins _ := wholeFloat 0 (by decide)
  maxs
    | .x => wholeFloat (2048 * 500) (by decide)
    | .y => wholeFloat (1024 * 500) (by decide)
    | .t => wholeFloat (1025 * (60 * 60 * 3)) (by decide)
  steps
    | .x => wholeFloat 500 (by decide)
    | .y => wholeFloat 500 (by decide)
    | .t => wholeFloat (60 * 60 * 3) (by decide)

theorem complete_widelySpread :
    (widelySpread.windows 2049).Complete (2048 * (1024 * (1025 * 1))) := by
  have hx : 2048 * 500 < 2 ^ floatBits := by decide
  have hy : 1024 * 500 < 2 ^ floatBits := by decide
  have ht : 1025 * (60 * 60 * 3) < 2 ^ floatBits := by decide
  have htimes := fun x y => complete_roundsOf widelySpread .t ht (by decide) (by decide) rfl rfl
    rfl (fun t => Rounds.complete_single (widelySpread.window x y t)) (by decide : 1025 < 2049)
  have hrows := fun x => complete_roundsOf widelySpread .y hy (by decide) (by decide) rfl rfl
    rfl (htimes x) (by decide : 1024 < 2049)
  exact complete_roundsOf widelySpread .x hx (by decide) (by decide) rfl rfl rfl hrows
    (by decide : 2048 < 2049)

/-- A filter for which every window has the same value. -/
def constantPoK (value : ℚ) : Calls WholeFloat ℚ Unit where
  windowPoK _ device := (value, device)
  nonZero val := decide (1 / 1000 < val)
  rangeSize _ device := (0, device)
  startMark _ device := device
  endMark _ device := device
  stopProfiling device := device

theorem pokResults_constantPoK (value : ℚ) (windows : List (STRegion WholeFloat)) :
    pokResults (constantPoK value) windows () = List.replicate windows.length value := by
  induction windows with
  | nil => rfl
  | cons region rest ih =>
      rw [pokResults, List.length_cons, List.replicate_succ]
      exact congrArg (value :: ·) ih

theorem exists_firstSweep (value : ℚ) :
    ∃ profiled, firstSweep (constantPoK value) widelySpread 2049 () = some profiled := by
  rw [firstSweep, Grid.sweep_eq_visit, visit_breakWhen,
    if_pos (.inl complete_widelySpread.ended)]
  exact ⟨_, rfl⟩

theorem counterSuffices_widelySpread_iff (value : ℚ) :
    CounterSuffices (constantPoK value) widelySpread 2049 () ↔ 1 / 1000 < value := by
  rw [CounterSuffices, pokResults_constantPoK, complete_widelySpread.length, List.countP_replicate,
    List.length_take, complete_widelySpread.length]
  have hnonZero : (constantPoK value).nonZero value = decide (1 / 1000 < value) := rfl
  rw [hnonZero]
  by_cases hvalue : 1 / 1000 < value
  · simp only [hvalue, decide_true, if_true]
    norm_num
  · simp only [hvalue, decide_false, Bool.false_eq_true, if_false]
    norm_num

/-- The twentieth window breaks off both sweeps. -/
theorem sweeps_repeat_nonZero :
    ∃ profiled measures, execute (fun _ => constantPoK 1) gridFactorSweep widelySpread 2049 () =
        some (profiled, measures) ∧ Repeats (constantPoK 1) profiled measures := by
  obtain ⟨profiled, hends⟩ := exists_firstSweep 1
  refine ⟨profiled, (repeats_iff (fun _ => constantPoK 1) gridFactorSweep hends).mpr ?_⟩
  exact (counterSuffices_widelySpread_iff 1).mpr (by norm_num)

theorem length_profiledWindows_widelySpread :
    (profiledWindows (constantPoK 0) widelySpread 2049 ()).length = 2048 * (1024 * (1025 * 1)) := by
  have hlength : ∀ n, (profiledWindows (constantPoK 0) widelySpread 2049 ()).length ≤ n ↔
      2048 * (1024 * (1025 * 1)) ≤ n := by
    intro n
    have hzero : (constantPoK 0).nonZero 0 = false := by
      simp [constantPoK]
    rw [length_profiledWindows_le_iff, complete_widelySpread.length, pokResults_constantPoK,
      List.countP_replicate, hzero]
    simp
  exact le_antisymm ((hlength _).mpr le_rfl) ((hlength _).mp le_rfl)

theorem profiled_widelySpread {profiled : Profile WholeFloat Unit}
    (hends : firstSweep (constantPoK 0) widelySpread 2049 () = some profiled) :
    profiled.visited.length = 2 ^ 31 + 2 ^ 21 ∧ profiled.totalCount = -2 ^ 31 + 2 ^ 21 := by
  obtain ⟨hprofiled, -⟩ := firstSweep_eq_some hends
  constructor
  · rw [hprofiled, profile_visited, Profile.start, List.nil_append,
      length_profiledWindows_widelySpread]
    norm_num
  · rw [hprofiled, profile_totalCount, length_profiledWindows_widelySpread]
    decide

theorem secondSweep_widelySpread {profiled : Profile WholeFloat Unit}
    (htotal : profiled.totalCount = -2 ^ 31 + 2 ^ 21) :
    ∃ measures, secondSweep (constantPoK 0) widelySpread 2049 profiled = some measures ∧
      measures.poks.length = 1 := by
  have hfirst : ((widelySpread.windows 2049).values.take 1).length = 1 := by
    rw [List.length_take, complete_widelySpread.length]
    decide
  have hdown : countedDown (stateAfter (measure (constantPoK 0))
      ((widelySpread.windows 2049).values.take 1) (.start (constantPoK 0) profiled)) = true := by
    rw [countedDown, measure_totalCount _ _ (by rw [htotal]; decide), htotal, hfirst]
    decide
  have hmeasured := visited_eq_of_initial (List.take_prefix 1 _)
    (List.ne_nil_of_length_pos (by rw [hfirst]; exact one_pos))
    (fun j hpos hj => by omega) hdown
  refine ⟨_, secondSweep_eq_some hmeasured (.inl complete_widelySpread.ended), ?_⟩
  have hpoks := measure_get (constantPoK 0) Measures.poks (fun region device =>
    ((constantPoK 0).windowPoK region device).1) (fun _ => rfl) (fun _ _ => rfl)
  rw [(hpoks _ profiled).1, hfirst]

/-- Where nothing is known, the first sweep counts `2 ^ 31 + 2 ^ 21` windows, and the second
stops at once. -/
theorem second_sweep_stops_at_once :
    ∃ profiled measures, execute (fun _ => constantPoK 0) gridFactorSweep widelySpread 2049 () =
        some (profiled, measures) ∧
      profiled.visited.length = 2 ^ 31 + 2 ^ 21 ∧ measures.poks.length = 1 ∧
        ¬ Repeats (constantPoK 0) profiled measures := by
  obtain ⟨profiled, hends⟩ := exists_firstSweep 0
  obtain ⟨hvisited, htotal⟩ := profiled_widelySpread hends
  obtain ⟨measures, hsecond, hpoks⟩ := secondSweep_widelySpread htotal
  have hrun := (execute_eq_some_iff (fun _ => constantPoK 0) gridFactorSweep hends).mpr hsecond
  refine ⟨profiled, measures, hrun, hvisited, hpoks, fun hrepeats => ?_⟩
  have hlength := hrepeats.length_poks
  rw [hpoks, hvisited] at hlength
  norm_num at hlength

end LSTAndroid.GridFactorSweep
