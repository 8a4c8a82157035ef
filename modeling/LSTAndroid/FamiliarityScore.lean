import LSTAndroid.Library.ClampedQuotient
import LSTAndroid.Familiarity
import Mathlib.Algebra.Order.Ring.NNRat
import Mathlib.Tactic.NormNum

namespace LSTAndroid.FamiliarityScore

open LSTAndroid.Library.EventMachine
open LSTAndroid.Library.ClampedQuotient
open LSTAndroid.Samples
open LSTAndroid.LocationPoll (Platform exactPlatform)
open LSTAndroid.Familiarity

variable {D : Type}

def knownAmong (known appForegrounds : List (Option String)) : ℕ :=
  appForegrounds.countP fun appForeground => known.contains appForeground

/-- `countKnown` for any list of known applications. -/
def countAmong (known appForegrounds : List (Option String)) : ℕ :=
  let count := knownAmong known appForegrounds / 5
  if count > 1 then 1 else count

section Handlers

variable (known : List (Option String))
-- `data` stands for the method `data()` of the sensor samples.
variable (data : Sample D → Except RuntimeException (Option (SensorData D)))
variable (platform : Platform D ℚ)

def checkFamiliarity (gpsSample applicationStateSample : Sample D) (minClock maxClock : ℤ)
    (service : Service) : Except RuntimeException (Service × List Output) := do
  let gpsData ← castGpsData (← data gpsSample)
  let appData ← castApplicationStateData (← data applicationStateSample)
  let appForegrounds ← deref (← deref appData).appForegrounds
  let count := countAmong known appForegrounds
  let gpsData ← deref gpsData
  return ({ count, sent := service.sent + 1, pending := service.pending ++ [service.sent] },
    [.sendOrderedBroadcast service.sent (windowIntent platform gpsData minClock maxClock)])

def handle (service : Service) :
    Event D → Except RuntimeException (Service × List Output)
  | .checkFamiliarity gpsSample applicationStateSample minClock maxClock =>
      checkFamiliarity known data platform gpsSample applicationStateSample minClock maxClock
        service
  | .reply request pok => .ok (onReply request pok service)

def machine : Machine (Except RuntimeException Service) (Event D) Output :=
  .ofHandler .fresh (handle known data platform)

end Handlers

theorem contains_map_some (known : List String) (appForeground : Option String) :
    (known.map some).contains appForeground = appForeground.any known.contains := by
  cases appForeground with
  | none => simp
  | some name => simp

theorem countAmong_knownApplications (appForegrounds : List (Option String)) :
    countAmong (knownApplications.map some) appForegrounds = countKnown appForegrounds := by
  have hknown : knownAmong (knownApplications.map some) appForegrounds =
      knownIn appForegrounds := by
    simp only [knownAmong, knownIn, contains_map_some]
  rw [countAmong, countKnown, hknown]

theorem machine_knownApplications
    (data : Sample D → Except RuntimeException (Option (SensorData D)))
    (platform : Platform D ℚ) :
    machine (knownApplications.map some) data platform = Familiarity.machine data platform := by
  have hhandle : handle (knownApplications.map some) data platform =
      Familiarity.handle data platform := by
    funext service event
    cases event with
    | checkFamiliarity gpsSample applicationStateSample minClock maxClock =>
        simp only [handle, Familiarity.handle, checkFamiliarity, Familiarity.checkFamiliarity,
          sampleCount, countAmong_knownApplications, bind_assoc, pure_bind]
    | reply request pok => rfl
  rw [machine, Familiarity.machine, hhandle]

variable {known : List (Option String)}
variable {data : Sample D → Except RuntimeException (Option (SensorData D))}
variable {platform : Platform D ℚ}

theorem countAmong_eq (known appForegrounds : List (Option String)) :
    countAmong known appForegrounds = truncatedShare 5 (knownAmong known appForegrounds) := by
  simp only [countAmong, truncatedShare]
  split
  · rename_i hmore
    exact (min_eq_left hmore.le).symm
  · rename_i hless
    exact (min_eq_right (not_lt.mp hless)).symm

/-- The sample with the fraction in place of the division of integers. -/
def exactSample (pok : ℚ≥0) (k : ℕ) : ContextSample where
  accuracy := if share 5 k ≤ (pok : ℚ) then 1 else pok / share 5 k
  type := ID
  familiarity := (pok + share 5 k) / 2

theorem contextSample_eq_exactSample_iff (pok : ℚ≥0) (k : ℕ) :
    contextSample pok (truncatedShare 5 k) = exactSample pok k ↔ k = 0 ∨ 5 ≤ k := by
  rw [← truncatedShare_eq_share_iff (K := ℚ) (by decide)]
  constructor
  · intro hsame
    have hfamiliarity : ((pok : ℚ) + truncatedShare 5 k) / 2 = (pok + share 5 k) / 2 :=
      congrArg ContextSample.familiarity hsame
    linarith
  · intro hsame
    rw [contextSample, exactSample, hsame]

theorem familiarity_lt_iff (pok : ℚ≥0) (count other : ℕ) :
    (contextSample pok count).familiarity < (contextSample pok other).familiarity ↔
      count < other := by
  simp only [contextSample]
  rw [div_lt_div_iff_of_pos_right two_pos, add_lt_add_iff_left, Nat.cast_lt]

theorem ne_zero_of_not_le {pok : ℚ≥0} {count : ℕ} (h : ¬ (count : ℚ) ≤ pok) : count ≠ 0 := by
  rintro rfl
  exact h (by simp)

theorem contextSample_bounds {pok : ℚ≥0} (hpok : pok ≤ 1) {count : ℕ} (hcount : count ≤ 1) :
    (0 ≤ (contextSample pok count).accuracy ∧ (contextSample pok count).accuracy ≤ 1) ∧
      0 ≤ (contextSample pok count).familiarity ∧ (contextSample pok count).familiarity ≤ 1 := by
  have hnonneg : (0 : ℚ) ≤ pok := pok.coe_nonneg
  have hone : (pok : ℚ) ≤ 1 := by exact_mod_cast hpok
  have hcast : (count : ℚ) ≤ 1 := by exact_mod_cast hcount
  have hzero : (0 : ℚ) ≤ count := Nat.cast_nonneg count
  refine ⟨?_, ?_, ?_⟩
  · simp only [contextSample]
    split
    · exact ⟨zero_le_one, le_refl 1⟩
    · rename_i hless
      exact ⟨div_nonneg hnonneg hzero, div_le_one_of_le₀ (not_le.mp hless).le hzero⟩
  · simp only [contextSample]
    linarith
  · simp only [contextSample]
    linarith

def Shows (data : Sample D → Except RuntimeException (Option (SensorData D)))
    (applicationStateSample : Sample D) (appForegrounds : List (Option String)) : Prop :=
  ∃ appData, data applicationStateSample = .ok (some (.applicationStates appData)) ∧
    appData.appForegrounds = some appForegrounds

/-- What the cab does for the reply to a call made after the events. -/
def answered (known : List (Option String))
    (data : Sample D → Except RuntimeException (Option (SensorData D))) (platform : Platform D ℚ)
    (events : List (Event D)) (gpsSample applicationStateSample : Sample D)
    (minClock maxClock : ℤ) (request : ℕ) (pok : ℚ≥0) : List Output :=
  (machine known data platform).emitAfter
    (events ++ [.checkFamiliarity gpsSample applicationStateSample minClock maxClock])
    (.reply request pok)

theorem handle_checkFamiliarity (known : List (Option String)) (platform : Platform D ℚ)
    {gpsSample applicationStateSample : Sample D} {fix : GpsData D}
    (hgps : data gpsSample = .ok (some (.gps fix))) {appForegrounds : List (Option String)}
    (hshows : Shows data applicationStateSample appForegrounds) (minClock maxClock : ℤ)
    (service : Service) :
    handle known data platform service
        (.checkFamiliarity gpsSample applicationStateSample minClock maxClock) =
      .ok (⟨countAmong known appForegrounds, service.sent + 1,
          service.pending ++ [service.sent]⟩,
        [.sendOrderedBroadcast service.sent (windowIntent platform fix minClock maxClock)]) := by
  obtain ⟨appData, hdata, hforegrounds⟩ := hshows
  simp only [handle, checkFamiliarity, hgps, hdata, castGpsData, castApplicationStateData, deref,
    hforegrounds, bind, Except.bind, pure, Except.pure]

theorem answered_eq {events : List (Event D)} {service : Service}
    (hrun : (machine known data platform).run events = .ok service)
    (hidle : service.pending = []) {gpsSample applicationStateSample : Sample D}
    {fix : GpsData D} (hgps : data gpsSample = .ok (some (.gps fix)))
    {appForegrounds : List (Option String)}
    (hshows : Shows data applicationStateSample appForegrounds) (minClock maxClock : ℤ)
    (pok : ℚ≥0) :
    answered known data platform events gpsSample applicationStateSample minClock maxClock
        service.sent pok =
      [.onNext service.sent
        (contextSample pok (truncatedShare 5 (knownAmong known appForegrounds)))] := by
  have hcheck := handle_checkFamiliarity known platform hgps hshows minClock maxClock service
  have hnext : (machine known data platform).run
      (events ++ [.checkFamiliarity gpsSample applicationStateSample minClock maxClock]) =
        .ok ⟨countAmong known appForegrounds, service.sent + 1, [service.sent]⟩ := by
    rw [hidle, List.nil_append] at hcheck
    rw [Machine.run_concat, hrun]
    exact (Machine.ofHandler_step _ hcheck).1
  have hreply : handle known data platform
      ⟨countAmong known appForegrounds, service.sent + 1, [service.sent]⟩
        (.reply service.sent pok) =
      .ok (⟨countAmong known appForegrounds, service.sent + 1, []⟩,
        [.onNext service.sent (contextSample pok (countAmong known appForegrounds))]) := by
    simp [handle, onReply]
  rw [answered, machine, Machine.ofHandler_emitAfter hnext hreply, countAmong_eq]

section Answers

variable (known data platform)
variable (events : List (Event D)) (gpsSample applicationStateSample : Sample D)
variable (minClock maxClock : ℤ) (request : ℕ) (pok : ℚ≥0)

/-- The sample for the reply is the exact one for `k` known applications. -/
def AnswersExactly (k : ℕ) : Prop :=
  answered known data platform events gpsSample applicationStateSample minClock maxClock request
    pok = [.onNext request (exactSample pok k)]

/-- The sample for the reply has both of its numbers between zero and one, and is computed
without a division by zero. -/
def AnswersWithinBounds : Prop :=
  ∃ count : ℕ, answered known data platform events gpsSample applicationStateSample minClock
      maxClock request pok = [.onNext request (contextSample pok count)] ∧
    ((count : ℚ) ≤ pok ∨ count ≠ 0) ∧
    (0 ≤ (contextSample pok count).accuracy ∧ (contextSample pok count).accuracy ≤ 1) ∧
      0 ≤ (contextSample pok count).familiarity ∧ (contextSample pok count).familiarity ≤ 1

def FamiliarityRises (otherSample : Sample D) : Prop :=
  ∃ sample higher, answered known data platform events gpsSample applicationStateSample minClock
      maxClock request pok = [.onNext request sample] ∧
    answered known data platform events gpsSample otherSample minClock maxClock request pok =
      [.onNext request higher] ∧ sample.familiarity < higher.familiarity

end Answers

/-- The sample is exact only without known applications and from five on. Its numbers are
always within their bounds. The familiarity rises only at the fifth known application. -/
theorem scores_iff {events : List (Event D)} {service : Service}
    (hrun : (machine known data platform).run events = .ok service)
    (hidle : service.pending = []) {gpsSample : Sample D} {fix : GpsData D}
    (hgps : data gpsSample = .ok (some (.gps fix))) (minClock maxClock : ℤ) {pok : ℚ≥0}
    (hpok : pok ≤ 1) :
    (∀ sample appForegrounds, Shows data sample appForegrounds →
      (AnswersExactly known data platform events gpsSample sample minClock maxClock service.sent
        pok (knownAmong known appForegrounds) ↔
          knownAmong known appForegrounds = 0 ∨ 5 ≤ knownAmong known appForegrounds)) ∧
    (∀ sample appForegrounds, Shows data sample appForegrounds →
      AnswersWithinBounds known data platform events gpsSample sample minClock maxClock
        service.sent pok) ∧
    ∀ sample appForegrounds, Shows data sample appForegrounds →
      ∀ other otherForegrounds, Shows data other otherForegrounds →
        knownAmong known appForegrounds < 5 →
        knownAmong known otherForegrounds = knownAmong known appForegrounds + 1 →
          (FamiliarityRises known data platform events gpsSample sample minClock maxClock
            service.sent pok other ↔ knownAmong known appForegrounds = 4) := by
  refine ⟨fun sample appForegrounds hshows => ?_, fun sample appForegrounds hshows => ?_,
    fun sample appForegrounds hshows other otherForegrounds hothers hfew hmore => ?_⟩
  · rw [← contextSample_eq_exactSample_iff pok, AnswersExactly,
      answered_eq hrun hidle hgps hshows]
    simp
  · refine ⟨_, answered_eq hrun hidle hgps hshows minClock maxClock pok, ?_,
      contextSample_bounds hpok (truncatedShare_le_one 5 _)⟩
    exact or_iff_not_imp_left.mpr ne_zero_of_not_le
  · have hsample := answered_eq hrun hidle hgps hshows minClock maxClock pok
    have hother := answered_eq hrun hidle hgps hothers minClock maxClock pok
    have hfifth : truncatedShare 5 (knownAmong known appForegrounds) <
        truncatedShare 5 (knownAmong known otherForegrounds) ↔
          knownAmong known appForegrounds = 4 := by
      rw [hmore, truncatedShare_lt_succ_iff (by decide)]
      omega
    rw [← hfifth, ← familiarity_lt_iff pok, FamiliarityRises, hsample, hother]
    constructor
    · rintro ⟨lower, higher, hlower, hhigher, hlt⟩
      obtain ⟨-, rfl⟩ := Output.onNext.inj (List.singleton_inj.mp hlower)
      obtain ⟨-, rfl⟩ := Output.onNext.inj (List.singleton_inj.mp hhigher)
      exact hlt
    · intro hlt
      exact ⟨_, _, rfl, rfl, hlt⟩

def fourSnapchats : Sample ℚ :=
  ⟨1, some "applicationStates", some ("\x7b\"appForegrounds\":[\"com.snapchat\"," ++
    "\"com.snapchat\",\"com.snapchat\",\"com.snapchat\"]\x7d")⟩

def appData (sample : Sample ℚ) : Except RuntimeException (Option (SensorData ℚ)) :=
  if sample = fourSnapchats then
    .ok (some (.applicationStates ⟨0, some (List.replicate 4 (some "com.snapchat")), none, none⟩))
  else phoneData sample

theorem run_start :
    (machine [some "com.snapchat"] appData exactPlatform).run [] = .ok .fresh :=
  rfl

theorem appData_parkedGps :
    appData parkedGps = .ok (some (.gps ⟨1449000000, 30, -97, 0, 0, 150, some "gps"⟩)) :=
  rfl

theorem five_answered_exactly :
    AnswersExactly [some "com.snapchat"] appData exactPlatform [] parkedGps fiveSnapchats
      1449000000000 1449000000000 0 (1 / 2) 5 := by
  have hpok : (1 / 2 : ℚ≥0) ≤ 1 := by norm_num
  have hscores := scores_iff run_start rfl appData_parkedGps 1449000000000 1449000000000 hpok
  exact (hscores.1 fiveSnapchats (List.replicate 5 (some "com.snapchat"))
    ⟨_, rfl, rfl⟩).mpr (.inr (by decide))

/-- Four known applications in the foreground count as none. -/
theorem four_not_answered_exactly :
    ¬ AnswersExactly [some "com.snapchat"] appData exactPlatform [] parkedGps fourSnapchats
      1449000000000 1449000000000 0 (1 / 2) 4 := by
  have hshows : Shows appData fourSnapchats (List.replicate 4 (some "com.snapchat")) :=
    ⟨_, rfl, rfl⟩
  have hfour : knownAmong [some "com.snapchat"] (List.replicate 4 (some "com.snapchat")) = 4 := by
    decide
  have hsent := answered_eq run_start rfl appData_parkedGps hshows 1449000000000 1449000000000
    (1 / 2)
  rw [hfour] at hsent
  intro hexact
  have hsame := hsent.symm.trans hexact
  have hnone := (contextSample_eq_exactSample_iff (1 / 2) 4).mp
    (Output.onNext.inj (List.singleton_inj.mp hsame)).2
  omega

end LSTAndroid.FamiliarityScore
