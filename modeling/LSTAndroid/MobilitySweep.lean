import LSTAndroid.Library.OpenLoop
import LSTAndroid.GridSweep
import LSTAndroid.RecordedOrder

namespace LSTAndroid.MobilitySweep

open LSTAndroid.Library.SignificantBits
open LSTAndroid.Library.OpenLoop
open LSTAndroid.SpaceTime
open LSTAndroid.TableStore
open LSTAndroid.RangeQueries
open LSTAndroid.NearestNeighbor
open LSTAndroid.BoundingBox
open LSTAndroid.GridSweep
open LSTAndroid.RecordedOrder

/-- The cube of the mobility branch, 500 metres by 500 metres by three hours in seconds. -/
def mobilityCube : Cube where
  xStep := ⟨500, by norm_num⟩
  yStep := ⟨500, by norm_num⟩
  tStep := ⟨60 * 60 * 3, by norm_num⟩

def mobilityOptions (nonZero : ℕ → STRegion ℚ → Bool) (numWindows : ℤ) (unset : ℚ) :
    SweepOptions where
  cube _ := mobilityCube
  nonZero := nonZero
  numWindows := numWindows
  unset := unset

/-- Addition of floats that are integers, whose exact sum is an integer too. -/
def addFloat (t step : ℚ) : ℚ :=
  (add floatBits ⌊t⌋ ⌊step⌋ : ℤ)

def window (x y t : ℚ) : STRegion ℚ :=
  .box ⟨x, y, t⟩
    ⟨x + mobilityCube.xStep, y + mobilityCube.yStep, addFloat t mobilityCube.tStep⟩

/-- `t += tStep`. -/
def nextT (t : ℚ) : ℚ :=
  addFloat t mobilityCube.tStep

def sweepT (options : SweepOptions) (mins maxs : Dim → ℚ) (rounds : ℕ) (x y : ℚ) :
    Sweep → Option (ForInStep Sweep) :=
  openLoop nextT (maxs .t) (fun t sweep => some (visitWindow options (window x y t) sweep))
    rounds (mins .t)

def sweepY (options : SweepOptions) (mins maxs : Dim → ℚ) (rounds : ℕ) (x : ℚ) :
    Sweep → Option (ForInStep Sweep) :=
  openLoop (· + (mobilityCube.yStep : ℚ)) (maxs .y)
    (fun y => sweepT options mins maxs rounds x y) rounds (mins .y)

def sweepX (options : SweepOptions) (mins maxs : Dim → ℚ) (rounds : ℕ) :
    Sweep → Option (ForInStep Sweep) :=
  openLoop (· + (mobilityCube.xStep : ℚ)) (maxs .x)
    (fun x => sweepY options mins maxs rounds x) rounds (mins .x)

def execute (options : SweepOptions) (constants : BoxConstants ℚ) (store : SQLiteStore)
    (order : ScanOrder ℚ) (storage : Storage ℚ) (rounds : ℕ) :
    Option (Except StoreException Sweep) :=
  match getBoundingBox constants store order storage with
  | .error failure => some (.error failure)
  | .ok bounds =>
      let mins := fun d => (bounds.mins.coord d).getD options.unset
      let maxs := fun d => (bounds.maxs.coord d).getD options.unset
      match sweepX options mins maxs rounds .start with
      | none => none
      | some (.done sweep) => some (.ok sweep)
      | some (.yield sweep) => some (.ok sweep)

def addHours (t : ℤ) : ℤ :=
  add floatBits t (60 * 60 * 3)

theorem nextT_intCast (t : ℤ) : nextT t = (addHours t : ℤ) := by
  have hstep : ⌊((60 * 60 * 3 : ℚ))⌋ = 60 * 60 * 3 := by norm_num
  simp [nextT, addFloat, addHours, mobilityCube, hstep]

theorem nextT_iterate (t : ℤ) (k : ℕ) : nextT^[k] (t : ℚ) = (addHours^[k] t : ℤ) := by
  have hsemiconj : Function.Semiconj ((↑) : ℤ → ℚ) addHours nextT :=
    fun t => (nextT_intCast t).symm
  exact ((hsemiconj.iterate_right k) t).symm

theorem ends_nextT_iff (lo hi : ℤ) : Ends nextT (hi : ℚ) (lo : ℚ) ↔ Ends addHours hi lo := by
  simp only [Ends, nextT_iterate, Int.cast_lt]

theorem representable_floatOfLong (milliseconds : ℤ) :
    Representable floatBits (floatOfLong milliseconds).natAbs :=
  representable_round (by decide) milliseconds

theorem le_addHours {t : ℤ} (ht : Representable floatBits t.natAbs) : t ≤ addHours t :=
  le_add (by decide) ht (by decide)

/-- From `2 ^ 38` on, in milliseconds the autumn of 1978, a float is more than six hours of
seconds away from the next. -/
theorem lt_addHours_iff {t : ℤ} (ht : Representable floatBits t.natAbs) :
    t < addHours t ↔ -2 ^ 38 ≤ t ∧ t < 2 ^ 38 := by
  have hlow : 2 ^ 14 < 2 * (60 * 60 * 3) := by decide
  have hhigh : 2 * (60 * 60 * 3) < 2 ^ (14 + 1) := by decide
  have hbits : floatBits + 14 = 38 := rfl
  have hprogress := lt_add_iff (p := floatBits) (by decide) hlow hhigh ht
  rwa [hbits] at hprogress

theorem addHours_lt {t hi : ℤ} (ht : Representable floatBits t.natAbs) (hlt : t < hi)
    (hhi : 2 ^ 38 < hi) : addHours t < hi := by
  have hstep : 2 * (60 * 60 * 3) < 2 ^ (14 + 1) := by decide
  rcases lt_or_ge t (2 ^ 38) with hbelow | habove
  · have hbits : floatBits + 14 = 38 := rfl
    have hle := add_le_two_pow (p := floatBits) (by decide) hstep ht (hbits ▸ hbelow)
    rw [hbits] at hle
    exact hle.trans_lt hhi
  · have hstuck : ¬ t < addHours t := by
      rw [lt_addHours_iff ht]
      omega
    exact (not_lt.mp hstuck).trans_lt hlt

theorem representable_addHours (t : ℤ) : Representable floatBits (addHours t).natAbs :=
  representable_round (by decide) _

/-- The loop over the time ends when it makes progress at every time of the box. -/
theorem ends_addHours_iff {lo hi : ℤ} (hlo : Representable floatBits lo.natAbs) :
    Ends addHours hi lo ↔ ¬ lo < hi ∨ -2 ^ 38 ≤ lo ∧ hi ≤ 2 ^ 38 := by
  constructor
  · intro hends
    rw [or_iff_not_imp_left, not_not]
    intro hlt
    have hprogress : lo < addHours lo :=
      (ends_iff_progress (P := fun t => Representable floatBits t.natAbs)
        (fun t _ => representable_addHours t) (fun _ => le_addHours) hlo).mp hends 0 hlt
    refine ⟨((lt_addHours_iff hlo).mp hprogress).1, not_lt.mp fun hhi => ?_⟩
    have hkeeps : ∀ t, Representable floatBits t.natAbs ∧ t < hi →
        Representable floatBits (addHours t).natAbs ∧ addHours t < hi :=
      fun t ht => ⟨representable_addHours t, addHours_lt ht.1 ht.2 hhi⟩
    obtain ⟨k, hk⟩ := hends
    exact hk (iterate_keeps hkeeps ⟨hlo, hlt⟩ k).2
  · rintro (hstop | ⟨hlow, hhigh⟩)
    · exact ⟨0, hstop⟩
    · have hkeeps : ∀ t, Representable floatBits t.natAbs ∧ lo ≤ t →
          Representable floatBits (addHours t).natAbs ∧ lo ≤ addHours t :=
        fun t ht => ⟨representable_addHours t, ht.2.trans (le_addHours ht.1)⟩
      rw [ends_iff_progress hkeeps (fun t ht => le_addHours ht.1) ⟨hlo, le_rfl⟩]
      intro k hk
      obtain ⟨hrep, hreached⟩ := iterate_keeps hkeeps ⟨hlo, le_rfl⟩ k
      exact (lt_addHours_iff hrep).mpr ⟨hlow.trans hreached, hk.trans_le hhigh⟩

theorem ends_add {step : ℚ} (hstep : 0 < step) (hi x : ℚ) : Ends (· + step) hi x := by
  obtain ⟨k, hk⟩ := Archimedean.arch (hi - x) hstep
  refine ⟨k, ?_⟩
  rw [add_right_iterate]
  exact not_lt.mpr (by linarith)

section Loops

variable {numWindows : ℤ} {unset : ℚ} {mins maxs : Dim → ℚ}

theorem total_sweepT_of_nonpos (hwindows : numWindows ≤ 0) (nonZero : ℕ → STRegion ℚ → Bool) :
    Total fun rounds (xy : ℚ × ℚ) =>
      sweepT (mobilityOptions nonZero numWindows unset) mins maxs rounds xy.1 xy.2 := by
  by_cases hextent : mins .t < maxs .t
  · refine ⟨1, fun rounds hrounds xy sweep => ?_⟩
    obtain ⟨rounds, rfl⟩ := Nat.exists_eq_add_of_le' hrounds
    have hbreak : visitWindow (mobilityOptions nonZero numWindows unset)
        (window xy.1 xy.2 (mins .t)) sweep = .done _ :=
      if_pos (hwindows.trans (Int.natCast_nonneg _))
    exact Option.isSome_iff_exists.mpr ⟨_, openLoop_done hextent (congrArg some hbreak) rounds⟩
  · exact total_openLoop_stop hextent

theorem total_sweepT_of_ends (hends : Ends nextT (maxs .t) (mins .t)) (options : SweepOptions) :
    Total fun rounds (xy : ℚ × ℚ) => sweepT options mins maxs rounds xy.1 xy.2 :=
  total_openLoop hends ⟨0, fun _ _ _ _ => rfl⟩

theorem total_sweepY {options : SweepOptions}
    (h : ¬ mins .y < maxs .y ∨
      Total fun rounds (xy : ℚ × ℚ) => sweepT options mins maxs rounds xy.1 xy.2) :
    Total fun rounds x => sweepY options mins maxs rounds x := by
  rcases h with hflat | htotal
  · exact total_openLoop_stop hflat
  · exact total_openLoop (ends_add mobilityCube.yStep.2 _ _) htotal

theorem total_sweepX {options : SweepOptions}
    (h : ¬ mins .x < maxs .x ∨ Total fun rounds x => sweepY options mins maxs rounds x) :
    Total fun rounds (_ : Unit) => sweepX options mins maxs rounds := by
  rcases h with hflat | ⟨enough, htotal⟩
  · exact total_openLoop_stop hflat
  · exact total_openLoop (ends_add mobilityCube.xStep.2 _ _)
      ⟨enough, fun rounds hrounds ux => htotal rounds hrounds ux.2⟩

theorem sweepX_none (hwindows : 0 < numWindows) (hextent : ∀ d, mins d < maxs d)
    (hnever : ¬ Ends nextT (maxs .t) (mins .t)) (rounds : ℕ) :
    sweepX (mobilityOptions (fun _ _ => false) numWindows unset) mins maxs rounds .start =
      none := by
  have hloop : ∀ x y, sweepT (mobilityOptions (fun _ _ => false) numWindows unset) mins maxs
      rounds x y .start = none := by
    intro x y
    refine openLoop_none (P := fun sweep => sweep.nonZeroCount = 0) hnever ?_ rfl rounds
    intro t sweep hsweep
    have hcount : (sweep.count (mobilityOptions (fun _ _ => false) numWindows unset)
        (window x y t)).nonZeroCount = 0 := hsweep
    refine ⟨_, congrArg some (if_neg ?_), hcount⟩
    rw [hcount]
    exact not_le.mpr hwindows
  exact openLoop_none_of_body (hextent .x)
    (openLoop_none_of_body (hextent .y) (hloop _ _) rounds) rounds

end Loops

def SweepEnds (constants : BoxConstants ℚ) (store : SQLiteStore) (order : ScanOrder ℚ)
    (storage : Storage ℚ) (numWindows : ℤ) (unset : ℚ) : Prop :=
  ∀ nonZero, ∃ rounds, (execute (mobilityOptions nonZero numWindows unset) constants store
    order storage rounds).isSome

/-- Every `t += tStep` of the loop over the time makes it larger. -/
def TimeAdvances (constants : BoxConstants ℚ) (store : SQLiteStore) (order : ScanOrder ℚ)
    (storage : Storage ℚ) : Prop :=
  ∀ bounds, getBoundingBox constants store order storage = .ok bounds →
    ∀ lo ∈ bounds.mins.t, ∀ hi ∈ bounds.maxs.t, ∀ k,
      nextT^[k] lo < hi → nextT^[k] lo < nextT (nextT^[k] lo)

section Recorded

variable {constants : BoxConstants ℚ} {store : SQLiteStore} {storage : Storage ℚ}
  {points : List (FullPoint ℚ)}

theorem recorded_box (hmeters : constants.spatialType = .meters)
    (h : Holds store storage points) (hne : points ≠ [])
    (hrecorded : ∀ p ∈ points, ∃ clock, p.t = floatOfLong clock) (order : ScanOrder ℚ) :
    ∃ mins maxs, ∃ lo hi : ℤ, Corners points mins maxs ∧
      getBoundingBox constants store order storage = .ok (.box mins maxs) ∧
      mins.t = lo ∧ maxs.t = hi ∧ Representable floatBits lo.natAbs := by
  obtain ⟨mins, maxs, hcorners, hbox⟩ := getBoundingBox_holds h hne order constants
  rw [BoxConstants.boxOf, if_neg (by simp [hmeters])] at hbox
  obtain ⟨p, hp, hmin⟩ := hcorners.mins_mem .t
  obtain ⟨q, hq, hmax⟩ := hcorners.maxs_mem .t
  obtain ⟨first, hfirst⟩ := hrecorded p hp
  obtain ⟨last, hlast⟩ := hrecorded q hq
  exact ⟨mins, maxs, floatOfLong first, floatOfLong last, hcorners, hbox,
    hmin.symm.trans hfirst, hmax.symm.trans hlast, representable_floatOfLong first⟩

theorem corners_within_iff {mins maxs : FullPoint ℚ} {lo hi : ℤ}
    (hcorners : Corners points mins maxs) (hlo : mins.t = lo) (hhi : maxs.t = hi) :
    (-2 ^ 38 ≤ lo ∧ hi ≤ 2 ^ 38) ↔ ∀ p ∈ points, |p.t| ≤ 2 ^ 38 := by
  have hlow : -2 ^ 38 ≤ lo ↔ (-2 ^ 38 : ℚ) ≤ mins.t := by
    rw [hlo]
    exact_mod_cast Iff.rfl
  have hhigh : hi ≤ 2 ^ 38 ↔ maxs.t ≤ (2 ^ 38 : ℚ) := by
    rw [hhi]
    exact_mod_cast Iff.rfl
  rw [hlow, hhigh]
  constructor
  · rintro ⟨hmin, hmax⟩ p hp
    exact abs_le.mpr ⟨hmin.trans (hcorners.mins_le .t p hp), (hcorners.le_maxs .t p hp).trans hmax⟩
  · intro hwithin
    obtain ⟨p, hp, hmin⟩ := hcorners.mins_mem .t
    obtain ⟨q, hq, hmax⟩ := hcorners.maxs_mem .t
    exact ⟨(abs_le.mp (hwithin p hp)).1.trans_eq hmin,
      hmax.symm.trans_le (abs_le.mp (hwithin q hq)).2⟩

theorem flat_iff {mins maxs : FullPoint ℚ} (hcorners : Corners points mins maxs) (d : Dim) :
    ¬ mins.coord d < maxs.coord d ↔ ∀ p ∈ points, ∀ q ∈ points, p.coord d = q.coord d := by
  rw [hcorners.lt_iff]
  push Not
  rfl

theorem execute_box {options : SweepOptions} {order : ScanOrder ℚ} {mins maxs : FullPoint ℚ}
    (hbox : getBoundingBox constants store order storage = .ok (.box mins maxs)) (rounds : ℕ) :
    (execute options constants store order storage rounds).isSome =
      (sweepX options mins.coord maxs.coord rounds .start).isSome := by
  simp only [execute, hbox, STRegion.box, FullPoint.coord_toSTPoint, Option.getD_some]
  rcases sweepX options mins.coord maxs.coord rounds .start with - | ended | last
  · rfl
  · rfl
  · rfl

theorem sweepEnds_iff (hmeters : constants.spatialType = .meters)
    (h : Holds store storage points) (hne : points ≠ [])
    (hrecorded : ∀ p ∈ points, ∃ clock, p.t = floatOfLong clock) (order : ScanOrder ℚ)
    (numWindows : ℤ) (unset : ℚ) :
    SweepEnds constants store order storage numWindows unset ↔
      numWindows ≤ 0 ∨ (∃ d, ∀ p ∈ points, ∀ q ∈ points, p.coord d = q.coord d) ∨
        ∀ p ∈ points, |p.t| ≤ 2 ^ 38 := by
  obtain ⟨mins, maxs, lo, hi, hcorners, hbox, hlo, hhi, hrep⟩ :=
    recorded_box hmeters h hne hrecorded order
  have hends : Ends nextT maxs.t mins.t ↔ ¬ mins.t < maxs.t ∨ -2 ^ 38 ≤ lo ∧ hi ≤ 2 ^ 38 := by
    rw [hlo, hhi, ends_nextT_iff, ends_addHours_iff hrep, Int.cast_lt]
  simp only [← flat_iff hcorners, ← corners_within_iff hcorners hlo hhi, SweepEnds,
    execute_box hbox]
  constructor
  · intro hall
    by_contra hnone
    push Not at hnone
    obtain ⟨hwindows, hextent, hbeyond⟩ := hnone
    obtain ⟨rounds, hrounds⟩ := hall fun _ _ => false
    have hnever : ¬ Ends nextT maxs.t mins.t := by
      rw [hends, not_or, not_not]
      exact ⟨hextent .t, fun hwithin => absurd hwithin.2 (hbeyond hwithin.1).not_ge⟩
    rw [sweepX_none hwindows hextent hnever] at hrounds
    cases hrounds
  · intro hcases nonZero
    have htime : Ends nextT maxs.t mins.t → Total fun rounds (xy : ℚ × ℚ) =>
        sweepT (mobilityOptions nonZero numWindows unset) mins.coord maxs.coord rounds xy.1 xy.2 :=
      fun hend => total_sweepT_of_ends hend _
    have htotal : Total fun rounds (_ : Unit) =>
        sweepX (mobilityOptions nonZero numWindows unset) mins.coord maxs.coord rounds := by
      rcases hcases with hwindows | ⟨d, hflat⟩ | hwithin
      · exact total_sweepX (.inr (total_sweepY (.inr (total_sweepT_of_nonpos hwindows nonZero))))
      · cases d with
        | x => exact total_sweepX (.inl hflat)
        | y => exact total_sweepX (.inr (total_sweepY (.inl hflat)))
        | t => exact total_sweepX (.inr (total_sweepY (.inr (htime (hends.mpr (.inl hflat))))))
      · exact total_sweepX (.inr (total_sweepY (.inr (htime (hends.mpr (.inr hwithin))))))
    obtain ⟨enough, hsweep⟩ := htotal
    exact ⟨enough, hsweep enough le_rfl () .start⟩

theorem timeAdvances_iff (hmeters : constants.spatialType = .meters)
    (h : Holds store storage points) (hne : points ≠ [])
    (hrecorded : ∀ p ∈ points, ∃ clock, p.t = floatOfLong clock) (order : ScanOrder ℚ) :
    TimeAdvances constants store order storage ↔
      (∀ p ∈ points, ∀ q ∈ points, p.t = q.t) ∨ ∀ p ∈ points, |p.t| ≤ 2 ^ 38 := by
  obtain ⟨mins, maxs, lo, hi, hcorners, hbox, hlo, hhi, hrep⟩ :=
    recorded_box hmeters h hne hrecorded order
  have hadvances : TimeAdvances constants store order storage ↔ Ends addHours hi lo := by
    rw [ends_iff_progress (P := fun t => Representable floatBits t.natAbs)
      (fun t _ => representable_addHours t) (fun t => le_addHours) hrep]
    simp only [TimeAdvances, hbox, Except.ok.injEq, forall_eq', STRegion.box,
      FullPoint.toSTPoint, Option.mem_some_iff, hlo, hhi, nextT_iterate, nextT_intCast, Int.cast_lt]
  rw [hadvances, ends_addHours_iff hrep, ← corners_within_iff hcorners hlo hhi]
  refine or_congr_left ?_
  have hflat := flat_iff hcorners .t
  simp only [FullPoint.coord, hlo, hhi, Int.cast_lt] at hflat
  exact hflat

/-- The sweep over recorded points ends, and its time always advances, exactly as long as
the times stay below `2 ^ 38` or no loop over the time is needed. -/
theorem sweep_ends_iff (hmeters : constants.spatialType = .meters)
    (h : Holds store storage points) (hne : points ≠ [])
    (hrecorded : ∀ p ∈ points, ∃ clock, p.t = floatOfLong clock) (order : ScanOrder ℚ)
    (numWindows : ℤ) (unset : ℚ) :
    (SweepEnds constants store order storage numWindows unset ↔
      numWindows ≤ 0 ∨ (∃ d, ∀ p ∈ points, ∀ q ∈ points, p.coord d = q.coord d) ∨
        ∀ p ∈ points, |p.t| ≤ 2 ^ 38) ∧
    (TimeAdvances constants store order storage ↔
      (∀ p ∈ points, ∀ q ∈ points, p.t = q.t) ∨ ∀ p ∈ points, |p.t| ≤ 2 ^ 38) :=
  ⟨sweepEnds_iff hmeters h hne hrecorded order numWindows unset,
    timeAdvances_iff hmeters h hne hrecorded order⟩

end Recorded

theorem sweep_ends_in_1970 :
    SweepEnds (meters ℚ) (SQLiteNaive "SpatialTableMain") (insertionOrder ℚ)
      (tableOf (SQLiteNaive "SpatialTableMain")
        [⟨-97, 30, (floatOfLong 0 : ℤ)⟩, ⟨-96, 31, (floatOfLong 86400000 : ℤ)⟩]) 100 0 := by
  refine (sweep_ends_iff rfl (holds_tableOf _ _) (by simp) ?_ _ 100 0).1.mpr (.inr (.inr ?_))
  · simp
  · have hfirst : floatOfLong 0 = 0 := by decide +kernel
    have hlast : floatOfLong 86400000 = 86400000 := by decide +kernel
    simp only [List.forall_mem_cons, hfirst, hlast]
    norm_num

def twoPlaces : List (FullPoint ℚ) :=
  [⟨-97, 30, (floatOfLong 1449000000000 : ℤ)⟩, ⟨-96, 31, (floatOfLong 1449003600000 : ℤ)⟩]

theorem sweep_stands_still :
    Holds (SQLiteNaive "SpatialTableMain") (tableOf (SQLiteNaive "SpatialTableMain") twoPlaces)
        twoPlaces ∧
      (∀ p ∈ twoPlaces, ∃ clock, p.t = floatOfLong clock) ∧
      ¬ SweepEnds (meters ℚ) (SQLiteNaive "SpatialTableMain") (insertionOrder ℚ)
        (tableOf (SQLiteNaive "SpatialTableMain") twoPlaces) 100 0 := by
  have hrecorded : ∀ p ∈ twoPlaces, ∃ clock, p.t = floatOfLong clock := by
    simp [twoPlaces]
  refine ⟨holds_tableOf _ _, hrecorded, ?_⟩
  rw [sweepEnds_iff rfl (holds_tableOf _ _) (by simp [twoPlaces]) hrecorded]
  have hfirst : floatOfLong 1449000000000 = 1449000042496 := by decide +kernel
  have hlast : floatOfLong 1449003600000 = 1449003581440 := by decide +kernel
  rintro (hwindows | ⟨d, hflat⟩ | hwithin)
  · norm_num at hwindows
  · have hsame := hflat _ List.mem_cons_self _ (List.mem_cons_of_mem _ List.mem_cons_self)
    rw [hfirst, hlast] at hsame
    cases d with
    | x => norm_num [FullPoint.coord] at hsame
    | y => norm_num [FullPoint.coord] at hsame
    | t => norm_num [FullPoint.coord] at hsame
  · have htime := hwithin _ List.mem_cons_self
    rw [hfirst] at htime
    norm_num at htime

end LSTAndroid.MobilitySweep
