import LSTAndroid.Library.SteppingLoop
import LSTAndroid.BoundingBox
import Mathlib.Algebra.Order.Floor.Semiring
import Mathlib.Data.Rat.Floor
import Mathlib.Tactic.FieldSimp
import Mathlib.Tactic.Linarith

/-!
The windows that `SuperGrid.execute` sweeps over the bounding box of a store.

The three loops are open at the upper bound: a dimension in which the box has no extent
gets no round, and then no window is visited at all.
-/

namespace LSTAndroid.GridSweep

open LSTAndroid.Library.SteppingLoop
open LSTAndroid.SpaceTime
open LSTAndroid.TableStore
open LSTAndroid.RangeQueries
open LSTAndroid.NearestNeighbor
open LSTAndroid.BoundingBox

/-- `x += step` ends every loop when the step is positive. -/
def addStep (step : {s : ℚ // 0 < s}) : Stepping ℚ where
  next x := x + step
  rounds hi x := ⌈(hi - x) / step⌉₊
  rounds_lt := by
    intro hi x h
    have hpos : 0 < (hi - x) / step := div_pos (sub_pos.mpr h) step.2
    have hnext : (hi - (x + step)) / step = (hi - x) / step - 1 := by
      field_simp [step.2.ne']
      ring
    rw [hnext, Nat.ceil_sub_one]
    have hceil := Nat.ceil_pos.mpr hpos
    omega

/-- The sides of the windows. -/
structure Cube where
  xStep : {s : ℚ // 0 < s}
  yStep : {s : ℚ // 0 < s}
  tStep : {s : ℚ // 0 < s}

def Cube.window (cube : Cube) (x y t : ℚ) : STRegion ℚ :=
  .box ⟨x, y, t⟩ ⟨x + cube.xStep, y + cube.yStep, t + cube.tStep⟩

structure Sweep where
  visited : List (STRegion ℚ)
  totalCount : ℕ
  nonZeroCount : ℕ

def Sweep.start : Sweep := ⟨[], 0, 0⟩

/-- What the sweep takes from outside: the sides of the windows for a lower corner,
whether the value of the window with the given number is above `0.001`, the number of
non-zero windows to stop at, and what a getter returns for an unset coordinate. -/
structure SweepOptions where
  cube : STPoint ℚ → Cube
  nonZero : ℕ → STRegion ℚ → Bool
  numWindows : ℤ
  unset : ℚ

def Sweep.count (options : SweepOptions) (region : STRegion ℚ) (sweep : Sweep) : Sweep where
  visited := sweep.visited ++ [region]
  totalCount := sweep.totalCount + 1
  nonZeroCount :=
    if options.nonZero sweep.totalCount region then sweep.nonZeroCount + 1
    else sweep.nonZeroCount

/-- The body of the innermost loop; `done` is `break outerloop`. -/
def visitWindow (options : SweepOptions) (region : STRegion ℚ) (sweep : Sweep) :
    ForInStep Sweep :=
  if options.numWindows ≤ (sweep.count options region).nonZeroCount then
    .done (sweep.count options region)
  else .yield (sweep.count options region)

def sweepT (options : SweepOptions) (cube : Cube) (mins maxs : Dim → ℚ) (x y : ℚ) :
    Sweep → ForInStep Sweep :=
  stepLoop (addStep cube.tStep) (maxs .t) (fun t => visitWindow options (cube.window x y t))
    (mins .t)

def sweepY (options : SweepOptions) (cube : Cube) (mins maxs : Dim → ℚ) (x : ℚ) :
    Sweep → ForInStep Sweep :=
  stepLoop (addStep cube.yStep) (maxs .y) (fun y => sweepT options cube mins maxs x y) (mins .y)

def sweepX (options : SweepOptions) (cube : Cube) (mins maxs : Dim → ℚ) :
    Sweep → ForInStep Sweep :=
  stepLoop (addStep cube.xStep) (maxs .x) (fun x => sweepY options cube mins maxs x) (mins .x)

/-- The sweep of `SuperGrid.execute`. -/
def execute (options : SweepOptions) (constants : BoxConstants ℚ) (store : SQLiteStore)
    (order : ScanOrder ℚ) (storage : Storage ℚ) : Except StoreException Sweep := do
  let bounds ← getBoundingBox constants store order storage
  let mins := fun d => (bounds.mins.coord d).getD options.unset
  let maxs := fun d => (bounds.maxs.coord d).getD options.unset
  match sweepX options (options.cube bounds.mins) mins maxs .start with
  | .done sweep => return sweep
  | .yield sweep => return sweep

section Loops

variable {options : SweepOptions} {cube : Cube} {mins maxs : Dim → ℚ} {before after : Sweep}

theorem visitWindow_done {region : STRegion ℚ}
    (h : visitWindow options region before = .done after) :
    options.numWindows ≤ after.nonZeroCount := by
  unfold visitWindow at h
  split at h
  · rename_i hreached
    obtain rfl := ForInStep.done.inj h
    exact hreached
  · cases h

theorem visitWindow_yield {region : STRegion ℚ}
    (h : visitWindow options region before = .yield after) :
    after.visited = before.visited ++ [region] := by
  unfold visitWindow at h
  split at h
  · cases h
  · obtain rfl := ForInStep.yield.inj h
    rfl

theorem sweepX_done (h : sweepX options cube mins maxs before = .done after) :
    options.numWindows ≤ after.nonZeroCount := by
  have hbreak : ∀ {step : {s : ℚ // 0 < s}} {hi lo : ℚ} {body : ℚ → Sweep → ForInStep Sweep}
      {s ended : Sweep}, (∀ v s ended, body v s = .done ended →
        options.numWindows ≤ ended.nonZeroCount) →
      stepLoop (addStep step) hi body lo s = .done ended →
        options.numWindows ≤ ended.nonZeroCount :=
    fun hbody hloop =>
      stepLoop_done (Q := fun sweep => options.numWindows ≤ sweep.nonZeroCount) hbody hloop
  refine hbreak (fun x s ended hy => ?_) h
  refine hbreak (fun y s ended ht => ?_) hy
  exact hbreak (fun t s ended hvisit => visitWindow_done hvisit) ht

theorem visitWindow_keeps {region window : STRegion ℚ}
    (h : visitWindow options region before = .yield after) (hwindow : window ∈ before.visited) :
    window ∈ after.visited := by
  rw [visitWindow_yield h]
  exact List.mem_append_left _ hwindow

theorem sweepT_keeps {x y : ℚ} {window : STRegion ℚ}
    (h : sweepT options cube mins maxs x y before = .yield after)
    (hwindow : window ∈ before.visited) : window ∈ after.visited :=
  stepLoop_keeps (P := fun sweep => window ∈ sweep.visited)
    (fun _ _ _ hvisit => visitWindow_keeps hvisit) h hwindow

theorem sweepY_keeps {x : ℚ} {window : STRegion ℚ}
    (h : sweepY options cube mins maxs x before = .yield after)
    (hwindow : window ∈ before.visited) : window ∈ after.visited :=
  stepLoop_keeps (P := fun sweep => window ∈ sweep.visited)
    (fun _ _ _ ht => sweepT_keeps ht) h hwindow

/-- The round of a loop, with its bounds and step taken from the sweep. -/
abbrev RoundAt (step : {s : ℚ // 0 < s}) (mins maxs : Dim → ℚ) (d : Dim) (v : ℚ) : Prop :=
  HasRound (addStep step) (maxs d) (mins d) v

theorem sweepT_covers {x y t : ℚ} (h : sweepT options cube mins maxs x y before = .yield after)
    (ht : RoundAt cube.tStep mins maxs .t t) : cube.window x y t ∈ after.visited := by
  refine stepLoop_covers (fun t sweep => cube.window x y t ∈ sweep.visited) ?_ ?_ h ht
  · intro v s next hvisit
    rw [visitWindow_yield hvisit]
    exact List.mem_append_right _ (List.mem_singleton_self _)
  · intro v w s next hvisit hseen
    exact visitWindow_keeps hvisit hseen

theorem sweepY_covers {x y t : ℚ} (h : sweepY options cube mins maxs x before = .yield after)
    (hy : RoundAt cube.yStep mins maxs .y y) (ht : RoundAt cube.tStep mins maxs .t t) :
    cube.window x y t ∈ after.visited := by
  refine stepLoop_covers (fun y sweep => cube.window x y t ∈ sweep.visited) ?_ ?_ h hy
  · intro v s next hsweep
    exact sweepT_covers hsweep ht
  · intro v w s next hsweep hseen
    exact sweepT_keeps hsweep hseen

theorem sweepX_covers {x y t : ℚ} (h : sweepX options cube mins maxs before = .yield after)
    (hx : RoundAt cube.xStep mins maxs .x x) (hy : RoundAt cube.yStep mins maxs .y y)
    (ht : RoundAt cube.tStep mins maxs .t t) : cube.window x y t ∈ after.visited := by
  refine stepLoop_covers (fun x sweep => cube.window x y t ∈ sweep.visited) ?_ ?_ h hx
  · intro v s next hsweep
    exact sweepY_covers hsweep hy ht
  · intro v w s next hsweep hseen
    exact sweepY_keeps hsweep hseen

/-- Windows next to each other leave no gap in a box that has an extent in every
dimension. -/
theorem sweepX_contains (h : sweepX options cube mins maxs before = .yield after)
    (hextent : ∀ d, mins d < maxs d) {p : FullPoint ℚ}
    (hp : ∀ d, mins d ≤ p.coord d ∧ p.coord d ≤ maxs d) :
    ∃ window ∈ after.visited, window.Contains p := by
  obtain ⟨x, hx, hxlow, hxhigh⟩ :=
    exists_hasRound (addStep cube.xStep) (hextent .x) (hp .x).1 (hp .x).2
  obtain ⟨y, hy, hylow, hyhigh⟩ :=
    exists_hasRound (addStep cube.yStep) (hextent .y) (hp .y).1 (hp .y).2
  obtain ⟨t, ht, htlow, hthigh⟩ :=
    exists_hasRound (addStep cube.tStep) (hextent .t) (hp .t).1 (hp .t).2
  refine ⟨_, sweepX_covers h hx hy ht, ?_⟩
  rw [Cube.window, STRegion.box_contains_iff]
  intro d
  cases d with
  | x => exact ⟨hxlow, hxhigh⟩
  | y => exact ⟨hylow, hyhigh⟩
  | t => exact ⟨htlow, hthigh⟩

theorem sweepX_visits_nothing (h : sweepX options cube mins maxs before = .yield after)
    {d : Dim} (hflat : ¬ mins d < maxs d) (hbefore : before.visited = []) :
    after.visited = [] := by
  have hloop : ∀ {step : {s : ℚ // 0 < s}} {hi lo : ℚ} {body : ℚ → Sweep → ForInStep Sweep}
      {s next : Sweep}, (∀ v s next, body v s = .yield next → s.visited = [] →
        next.visited = []) →
      stepLoop (addStep step) hi body lo s = .yield next → s.visited = [] →
        next.visited = [] :=
    fun hbody hstep hs => stepLoop_keeps (P := fun sweep => sweep.visited = []) hbody hstep hs
  have hstop : ∀ {step : {s : ℚ // 0 < s}} {body : ℚ → Sweep → ForInStep Sweep}
      {s next : Sweep}, stepLoop (addStep step) (maxs d) body (mins d) s = .yield next →
        s.visited = [] → next.visited = [] := by
    intro step body s next hstep hs
    rw [stepLoop_stop hflat] at hstep
    obtain rfl := ForInStep.yield.inj hstep
    exact hs
  cases d with
  | x => exact hstop h hbefore
  | y => exact hloop (fun _ _ _ hy => hstop hy) h hbefore
  | t => exact hloop (fun _ _ _ hy => hloop (fun _ _ _ ht => hstop ht) hy) h hbefore

end Loops

/-- `add` adds coordinate by coordinate, the lower budge is negative and the upper one
positive. -/
structure Budges (constants : BoxConstants ℚ) (neg pos : FullPoint ℚ) : Prop where
  negFloatBudge : constants.negFloatBudge = neg.toSTPoint
  posFloatBudge : constants.posFloatBudge = pos.toSTPoint
  add : ∀ p q : FullPoint ℚ, constants.add p.toSTPoint q.toSTPoint =
    (⟨p.x + q.x, p.y + q.y, p.t + q.t⟩ : FullPoint ℚ).toSTPoint
  neg_lt : ∀ d, neg.coord d < 0
  pos : ∀ d, 0 < pos.coord d

theorem coord_add (p q : FullPoint ℚ) (d : Dim) :
    (⟨p.x + q.x, p.y + q.y, p.t + q.t⟩ : FullPoint ℚ).coord d = p.coord d + q.coord d := by
  cases d <;> rfl

/-- The box contains the corners of the data, and it has an extent where they have one and,
in GPS mode, everywhere. -/
theorem boxOf_extent {constants : BoxConstants ℚ} {neg pos : FullPoint ℚ}
    (hbudges : Budges constants neg pos) {mins maxs : FullPoint ℚ}
    (hle : ∀ d, mins.coord d ≤ maxs.coord d) :
    ∃ lows highs, constants.boxOf mins maxs = .box lows highs ∧
      (∀ d, lows.coord d ≤ mins.coord d ∧ maxs.coord d ≤ highs.coord d) ∧
      ∀ d, lows.coord d < highs.coord d ↔
        constants.spatialType = .gps ∨ mins.coord d < maxs.coord d := by
  unfold BoxConstants.boxOf
  split
  · rename_i hgps
    rw [hbudges.negFloatBudge, hbudges.posFloatBudge, hbudges.add, hbudges.add]
    refine ⟨_, _, rfl, fun d => ?_, fun d => ?_⟩
    · rw [coord_add, coord_add]
      exact ⟨by linarith [hbudges.neg_lt d], by linarith [hbudges.pos d]⟩
    · rw [coord_add, coord_add]
      refine iff_of_true ?_ (.inl hgps)
      linarith [hbudges.neg_lt d, hbudges.pos d, hle d]
  · rename_i hmeters
    exact ⟨mins, maxs, rfl, fun d => ⟨le_rfl, le_rfl⟩, fun d => by simp [hmeters]⟩

/-- A sweep that is not broken off covers all points exactly when the box has an extent in
every dimension: in GPS mode, or when in each dimension two points differ. -/
theorem sweep_covers_iff {constants : BoxConstants ℚ} {neg pos : FullPoint ℚ}
    (hbudges : Budges constants neg pos) {store : SQLiteStore} {storage : Storage ℚ}
    {points : List (FullPoint ℚ)} (h : Holds store storage points) (hne : points ≠ [])
    {order : ScanOrder ℚ} {options : SweepOptions} {sweep : Sweep}
    (hrun : execute options constants store order storage = .ok sweep)
    (hcount : (sweep.nonZeroCount : ℤ) < options.numWindows) :
    (∀ p ∈ points, ∃ window ∈ sweep.visited, window.Contains p) ↔
      constants.spatialType = .gps ∨
        ∀ d, ∃ p ∈ points, ∃ q ∈ points, p.coord d ≠ q.coord d := by
  obtain ⟨mins, maxs, hcorners, hbox⟩ := getBoundingBox_holds h hne order constants
  have hle : ∀ d, mins.coord d ≤ maxs.coord d := by
    intro d
    obtain ⟨p, hp, hmin⟩ := hcorners.mins_mem d
    exact hmin ▸ hcorners.le_maxs d p hp
  obtain ⟨lows, highs, hregion, hinside, hextent⟩ := boxOf_extent hbudges hle
  rw [hregion] at hbox
  have hsweep : sweepX options (options.cube lows.toSTPoint) lows.coord highs.coord .start =
      .yield sweep := by
    simp only [execute, hbox, bind, Except.bind, STRegion.box, FullPoint.coord_toSTPoint,
      Option.getD_some] at hrun
    split at hrun
    · rename_i ended hended
      obtain rfl := Except.ok.inj hrun
      exact absurd hcount (sweepX_done hended).not_gt
    · rename_i last hlast
      obtain rfl := Except.ok.inj hrun
      exact hlast
  have hflat : (constants.spatialType = .gps ∨
      ∀ d, ∃ p ∈ points, ∃ q ∈ points, p.coord d ≠ q.coord d) ↔
        ∀ d, lows.coord d < highs.coord d := by
    simp only [hextent, hcorners.lt_iff, forall_or_left]
  rw [hflat]
  constructor
  · intro hcovers d
    by_contra hnone
    obtain ⟨p, hp⟩ := List.exists_mem_of_ne_nil points hne
    obtain ⟨window, hwindow, -⟩ := hcovers p hp
    rw [sweepX_visits_nothing hsweep hnone rfl] at hwindow
    cases hwindow
  · intro hall p hp
    refine sweepX_contains hsweep hall fun d => ?_
    exact ⟨(hinside d).1.trans (hcorners.mins_le d p hp),
      (hcorners.le_maxs d p hp).trans (hinside d).2⟩

def budged (spatialType : SpatialType) : BoxConstants ℚ where
  spatialType := spatialType
  negFloatBudge := ⟨some (-1 / 10), some (-1 / 10), some (-1 / 10)⟩
  posFloatBudge := ⟨some (1 / 10), some (1 / 10), some (1 / 10)⟩
  add p q := ⟨Option.map₂ (· + ·) p.x q.x, Option.map₂ (· + ·) p.y q.y,
    Option.map₂ (· + ·) p.t q.t⟩

theorem budged_budges (spatialType : SpatialType) :
    Budges (budged spatialType) ⟨-1 / 10, -1 / 10, -1 / 10⟩ ⟨1 / 10, 1 / 10, 1 / 10⟩ where
  negFloatBudge := rfl
  posFloatBudge := rfl
  add _ _ := rfl
  neg_lt := by decide +kernel
  pos := by decide +kernel

def unitWindows : SweepOptions where
  cube _ := ⟨⟨1, one_pos⟩, ⟨1, one_pos⟩, ⟨1, one_pos⟩⟩
  nonZero _ _ := false
  numWindows := 1
  unset := 0

theorem execute_of_yield {options : SweepOptions} {constants : BoxConstants ℚ}
    {store : SQLiteStore} {storage : Storage ℚ} {order : ScanOrder ℚ} {lows highs : FullPoint ℚ}
    {sweep : Sweep}
    (hbox : getBoundingBox constants store order storage = .ok (.box lows highs))
    (h : sweepX options (options.cube lows.toSTPoint) lows.coord highs.coord .start =
      .yield sweep) : execute options constants store order storage = .ok sweep := by
  simp only [execute, hbox, bind, Except.bind, STRegion.box, FullPoint.coord_toSTPoint,
    Option.getD_some, h]
  rfl

theorem sweep_covers_unit_box :
    (∀ p ∈ [(⟨0, 0, 0⟩ : FullPoint ℚ), ⟨1, 1, 1⟩],
        ∃ window ∈ [unitWindows.cube ⟨some 0, some 0, some 0⟩ |>.window 0 0 0],
          window.Contains p) ↔
      SpatialType.meters = .gps ∨ ∀ d, ∃ p ∈ [(⟨0, 0, 0⟩ : FullPoint ℚ), ⟨1, 1, 1⟩],
        ∃ q ∈ [(⟨0, 0, 0⟩ : FullPoint ℚ), ⟨1, 1, 1⟩], p.coord d ≠ q.coord d := by
  have hbox : getBoundingBox (budged .meters) (SQLiteNaive "SpatialTableMain")
      (insertionOrder ℚ) (tableOf (SQLiteNaive "SpatialTableMain") [⟨0, 0, 0⟩, ⟨1, 1, 1⟩]) =
        .ok (.box ⟨0, 0, 0⟩ ⟨1, 1, 1⟩) := rfl
  have hsweep : sweepX unitWindows (unitWindows.cube ⟨some 0, some 0, some 0⟩)
      (⟨0, 0, 0⟩ : FullPoint ℚ).coord (⟨1, 1, 1⟩ : FullPoint ℚ).coord .start =
        .yield ⟨[unitWindows.cube ⟨some 0, some 0, some 0⟩ |>.window 0 0 0], 1, 0⟩ := by
    simp [sweepX, sweepY, sweepT, stepLoop, visitWindow, Sweep.count, Sweep.start, unitWindows,
      FullPoint.coord, addStep]
  exact sweep_covers_iff (budged_budges .meters) (holds_tableOf _ _) (by simp)
    (execute_of_yield hbox hsweep) (by decide)

/-- The bounding box of one point has no extent, and in metres it stays so. -/
theorem sweep_misses_single_point :
    Holds (SQLiteNaive "SpatialTableMain")
        (tableOf (SQLiteNaive "SpatialTableMain") [(⟨1, 2, 3⟩ : FullPoint ℚ)]) [⟨1, 2, 3⟩] ∧
      execute unitWindows (budged .meters) (SQLiteNaive "SpatialTableMain") (insertionOrder ℚ)
        (tableOf (SQLiteNaive "SpatialTableMain") [⟨1, 2, 3⟩]) = .ok .start ∧
      (Sweep.start.nonZeroCount : ℤ) < unitWindows.numWindows ∧
      ¬ ∃ window ∈ Sweep.start.visited, window.Contains ⟨1, 2, 3⟩ := by
  have hbox : getBoundingBox (budged .meters) (SQLiteNaive "SpatialTableMain")
      (insertionOrder ℚ) (tableOf (SQLiteNaive "SpatialTableMain") [⟨1, 2, 3⟩]) =
        .ok (.box ⟨1, 2, 3⟩ ⟨1, 2, 3⟩) := rfl
  refine ⟨holds_tableOf _ _, execute_of_yield hbox (stepLoop_stop (lt_irrefl _) _), by decide, ?_⟩
  simp [Sweep.start]

end LSTAndroid.GridSweep
