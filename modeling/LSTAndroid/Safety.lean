import LSTAndroid.Library.ClampedQuotient
import LSTAndroid.AbstractLocation

namespace LSTAndroid.Safety

open LSTAndroid.Library.EventMachine
open LSTAndroid.Library.ClampedQuotient
open LSTAndroid.Samples
open LSTAndroid.ContextSamples
open LSTAndroid.Familiarity (castGpsData deref)

def ID : String := "com.ut.mpc.contextengine.cabs.safety"

def spotCrimeUrl : String := "http://api.spotcrime.com/crimes.json"

def spotCrimeKey : String := "spotcrime-private-api-key"

def spotCrimeRadius : ℚ := 2 / 100

structure Request where
  url : String
  lat : ℚ
  lon : ℚ
  key : String
  radius : ℚ

def request (gpsData : GpsData ℚ) : Request :=
  ⟨spotCrimeUrl, gpsData.latitude, gpsData.longitude, spotCrimeKey, spotCrimeRadius⟩

variable {Crime : Type}

/-- The object of a response; the array `crimes` may be missing. -/
structure Response (Crime : Type) where
  crimes : Option (List Crime)

structure Data where
  safetyLevel : String
  deriving DecidableEq

def Data.SAFE : String := "SAFE"

def Data.MIDSAFE : String := "MIDSAFE"

def Data.UNSAFE : String := "UNSAFE"

def scoreToSafety (score : ℚ) : String :=
  if score ≥ 8 / 10 then Data.SAFE
  else if score ≥ 6 / 10 then Data.MIDSAFE
  else Data.UNSAFE

def multiplier (abstractLocData : JsonWrapper ℚ) : Except RuntimeException ℚ := do
  if ← abstractLocData.keyEquals "name" AbstractLocation.Data.WORK then return 8 / 10
  else if ← abstractLocData.keyEquals "name" AbstractLocation.Data.HOME then return 1 / 10
  else if ← abstractLocData.keyEquals "name" AbstractLocation.Data.SCHOOL then return 6 / 10
  else return 1

def crimeLength (response : Response Crime) : ℚ :=
  let crimeLength : ℚ :=
    match response.crimes with
    | some crimes => (crimes.length / 10 : ℕ)
    | none => 0
  if crimeLength > 1 then 1 else crimeLength

/-- The wrapper of the place that each request has kept for its response. -/
structure Service where
  captured : List (Option (JsonWrapper ℚ))

def Service.fresh : Service := ⟨[]⟩

inductive Event (Crime : Type) where
  | checkSafety (gpsSample abstractLocSample : Sample ℚ)
  | onSuccess (request : ℕ) (response : Response Crime)

inductive Output where
  | get (request : ℕ) (params : Request)
  | println (score : ℚ)
  | onNext (sample : Emission Data)

section Handlers

variable (libs : JsonLibraries ℚ)
-- `data` stands for the method `data()` of the sensor samples.
variable (data : Sample ℚ → Except RuntimeException (Option (SensorData ℚ)))

def checkSafety (gpsSample abstractLocSample : Sample ℚ) (service : Service) :
    Except RuntimeException (Service × List Output) := do
  let abstractLocData ← wrapperOf libs abstractLocSample
  let gpsData ← deref (← castGpsData (← data gpsSample))
  return (⟨service.captured ++ [abstractLocData]⟩,
    [.get service.captured.length (request gpsData)])

def onSuccess (abstractLocData : Option (JsonWrapper ℚ)) (response : Response Crime) :
    Except RuntimeException (List Output) := do
  let multiplier ← multiplier (← deref abstractLocData)
  let score := 1 - multiplier * crimeLength response
  return [.println score, .onNext ⟨8 / 10, ID, ⟨scoreToSafety score⟩⟩]

def handle (service : Service) :
    Event Crime → Except RuntimeException (Service × List Output)
  | .checkSafety gpsSample abstractLocSample =>
      checkSafety libs data gpsSample abstractLocSample service
  | .onSuccess request response =>
      match service.captured[request]? with
      | some abstractLocData => (onSuccess abstractLocData response).map fun sent => (service, sent)
      | none => .ok (service, [])

def machine : Machine (Except RuntimeException Service) (Event Crime) Output :=
  .ofHandler .fresh (handle libs data)

end Handlers

def weight (name : String) : ℚ :=
  if name = AbstractLocation.Data.WORK then 8 / 10
  else if name = AbstractLocation.Data.HOME then 1 / 10
  else if name = AbstractLocation.Data.SCHOOL then 6 / 10
  else 1

theorem weight_pos (name : String) : 0 < weight name := by
  unfold weight
  split_ifs <;> norm_num

theorem multiplier_eq {wrapper : JsonWrapper ℚ} {name : String}
    (hname : wrapper.getWrap "name" = some (.string name)) :
    multiplier wrapper = .ok (weight name) := by
  simp only [multiplier, JsonWrapper.keyEquals, hname, bind, Except.bind, beq_iff_eq, weight]
  split_ifs <;> rfl

def scoreAt (name : String) (n : ℕ) : ℚ :=
  1 - weight name * truncatedShare 10 n

/-- The score with the fraction in place of the division of integers. -/
def exactScore (name : String) (n : ℕ) : ℚ :=
  1 - weight name * share 10 n

theorem crimeLength_eq (crimes : List Crime) :
    crimeLength ⟨some crimes⟩ = truncatedShare 10 crimes.length := by
  simp only [crimeLength, truncatedShare]
  split
  · rename_i hmore
    rw [min_eq_left (Nat.one_le_cast.mp hmore.le), Nat.cast_one]
  · rename_i hless
    rw [min_eq_right (Nat.cast_le_one.mp (not_lt.mp hless))]

theorem onSuccess_eq {wrapper : JsonWrapper ℚ} {name : String}
    (hname : wrapper.getWrap "name" = some (.string name)) (crimes : List Crime) :
    onSuccess (some wrapper) ⟨some crimes⟩ =
      .ok [.println (scoreAt name crimes.length),
        .onNext ⟨8 / 10, ID, ⟨scoreToSafety (scoreAt name crimes.length)⟩⟩] := by
  simp only [onSuccess, deref, multiplier_eq hname, crimeLength_eq, bind, Except.bind, scoreAt]
  rfl

/-- Safest first. -/
def levels : List String := [Data.SAFE, Data.MIDSAFE, Data.UNSAFE]

theorem scoreToSafety_eq_safe_iff {score : ℚ} :
    scoreToSafety score = Data.SAFE ↔ 8 / 10 ≤ score := by
  unfold scoreToSafety
  split_ifs with hsafe hmid
  · exact iff_of_true rfl hsafe
  · exact iff_of_false (by decide) hsafe
  · exact iff_of_false (by decide) hsafe

theorem idxOf_scoreToSafety_anti {low high : ℚ} (h : low ≤ high) :
    levels.idxOf (scoreToSafety high) ≤ levels.idxOf (scoreToSafety low) := by
  have hsafe : levels.idxOf Data.SAFE = 0 := by decide
  have hmid : levels.idxOf Data.MIDSAFE = 1 := by decide
  have hunsafe : levels.idxOf Data.UNSAFE = 2 := by decide
  unfold scoreToSafety
  split_ifs <;> first | omega | linarith

theorem scoreAt_anti (name : String) : Antitone (scoreAt name) := fun m n h => by
  have hshare : (truncatedShare 10 m : ℚ) ≤ truncatedShare 10 n :=
    Nat.cast_le.mpr (truncatedShare_mono 10 h)
  exact sub_le_sub_left (mul_le_mul_of_nonneg_left hshare (weight_pos name).le) 1

theorem scoreAt_succ_lt_iff (name : String) (n : ℕ) :
    scoreAt name (n + 1) < scoreAt name n ↔ n = 9 := by
  rw [scoreAt, scoreAt, sub_lt_sub_iff_left, mul_lt_mul_iff_right₀ (weight_pos name),
    Nat.cast_lt, truncatedShare_lt_succ_iff (by decide)]
  omega

theorem scoreToSafety_scoreAt_iff (name : String) (n : ℕ) :
    scoreToSafety (scoreAt name n) = scoreToSafety (exactScore name n) ↔
      10 ≤ n ∨ weight name * n ≤ 2 := by
  rcases lt_or_ge n 10 with hfew | hmany
  · have hsafe : scoreToSafety (scoreAt name n) = Data.SAFE := by
      rw [scoreToSafety_eq_safe_iff, scoreAt, truncatedShare_eq (by decide), if_neg (by omega)]
      norm_num
    rw [hsafe, eq_comm, scoreToSafety_eq_safe_iff, exactScore, share_of_lt hfew,
      or_iff_right (by omega)]
    push_cast
    constructor
    · intro h
      linarith
    · intro h
      linarith
  · have hsame : (truncatedShare 10 n : ℚ) = share 10 n :=
      (truncatedShare_eq_share_iff (by decide)).mpr (.inr hmany)
    rw [scoreAt, exactScore, hsame]
    exact iff_of_true rfl (.inl hmany)

/-- The places of the calls so far; a request has the number of its call. -/
def calls (events : List (Event Crime)) : List (Sample ℚ) :=
  events.filterMap fun
    | .checkSafety _ abstractLocSample => some abstractLocSample
    | .onSuccess _ _ => none

def LocatedAt (libs : JsonLibraries ℚ) (abstractLocSample : Sample ℚ) (name : String) : Prop :=
  ∃ wrapper, wrapperOf libs abstractLocSample = .ok (some wrapper) ∧
    wrapper.getWrap "name" = some (.string name)

def printedScore (outputs : List Output) : Option ℚ :=
  outputs.findSome? fun
    | .println score => some score
    | _ => none

def emittedLevel (outputs : List Output) : Option String :=
  outputs.findSome? fun
    | .onNext sample => some sample.data.safetyLevel
    | _ => none

section Responses

variable (libs : JsonLibraries ℚ)
variable (data : Sample ℚ → Except RuntimeException (Option (SensorData ℚ)))
variable (events : List (Event Crime)) (request : ℕ)

/-- What the cab does after the events when the service finds these crimes. -/
def responded (crimes : List Crime) : List Output :=
  (machine libs data).emitAfter events (.onSuccess request ⟨some crimes⟩)

def ReportsLevel (name : String) (crimes : List Crime) : Prop :=
  emittedLevel (responded libs data events request crimes) =
    some (scoreToSafety (exactScore name crimes.length))

def ScoreFalls (crimes others : List Crime) : Prop :=
  ∃ score lower, printedScore (responded libs data events request crimes) = some score ∧
    printedScore (responded libs data events request others) = some lower ∧ lower < score

def NotSafer (crimes others : List Crime) : Prop :=
  ∃ level other, emittedLevel (responded libs data events request crimes) = some level ∧
    emittedLevel (responded libs data events request others) = some other ∧
      levels.idxOf level ≤ levels.idxOf other

end Responses

variable {libs : JsonLibraries ℚ}
variable {data : Sample ℚ → Except RuntimeException (Option (SensorData ℚ))}

theorem handle_checkSafety {gpsSample abstractLocSample : Sample ℚ} {fix : GpsData ℚ}
    {abstractLocData : Option (JsonWrapper ℚ)}
    (hplace : wrapperOf libs abstractLocSample = .ok abstractLocData)
    (hgps : data gpsSample = .ok (some (.gps fix))) (service : Service) :
    handle libs data service (.checkSafety gpsSample abstractLocSample : Event Crime) =
      .ok (⟨service.captured ++ [abstractLocData]⟩,
        [.get service.captured.length (request fix)]) := by
  simp only [handle, checkSafety, hplace, hgps, castGpsData, deref, bind, Except.bind, pure,
    Except.pure]

theorem captured_of_run {events : List (Event Crime)} {service : Service}
    (h : (machine libs data).run events = .ok service) :
    (calls events).map (wrapperOf libs) = service.captured.map .ok := by
  refine Machine.ofHandler_history_of_ok (R := fun events service =>
    (calls events).map (wrapperOf libs) = service.captured.map .ok) rfl ?_ events h
  intro before service event after outputs hcaptured hok
  cases event with
  | checkSafety gpsSample abstractLocSample =>
      obtain ⟨abstractLocData, hplace, hok⟩ := bind_eq_ok_iff.mp hok
      obtain ⟨loaded, -, hok⟩ := bind_eq_ok_iff.mp hok
      obtain ⟨gpsData, -, hok⟩ := bind_eq_ok_iff.mp hok
      obtain ⟨fix, -, hok⟩ := bind_eq_ok_iff.mp hok
      have hafter : ⟨service.captured ++ [abstractLocData]⟩ = after :=
        congrArg Prod.fst (Except.ok.inj hok)
      have hcalls : calls (before ++ [.checkSafety gpsSample abstractLocSample]) =
          calls before ++ [abstractLocSample] := by
        simp [calls]
      rw [← hafter, hcalls, List.map_append, List.map_append, hcaptured, List.map_singleton,
        hplace]
      rfl
  | onSuccess request response =>
      have hafter : after = service := by
        simp only [handle] at hok
        split at hok
        · obtain ⟨sent, -, hsent⟩ := map_eq_ok_iff.mp hok
          exact (congrArg Prod.fst hsent).symm
        · exact (congrArg Prod.fst (Except.ok.inj hok)).symm
      have hcalls : calls (before ++ [.onSuccess request response]) = calls before := by
        simp [calls]
      rw [hafter, hcalls, hcaptured]

theorem responded_eq {events : List (Event Crime)} {service : Service}
    (h : (machine libs data).run events = .ok service) {request : ℕ} {sample : Sample ℚ}
    (hcall : (calls events)[request]? = some sample) {name : String}
    (hname : LocatedAt libs sample name) (crimes : List Crime) :
    responded libs data events request crimes = [.println (scoreAt name crimes.length),
      .onNext ⟨8 / 10, ID, ⟨scoreToSafety (scoreAt name crimes.length)⟩⟩] := by
  obtain ⟨wrapper, hwrapper, hget⟩ := hname
  have hcaptured : service.captured[request]? = some (some wrapper) := by
    have hplaces := congrArg (fun places => places[request]?) (captured_of_run h)
    simp only [List.getElem?_map, hcall, Option.map_some, hwrapper] at hplaces
    obtain ⟨captured, hsome, hsame⟩ := Option.map_eq_some_iff.mp hplaces.symm
    rw [hsome, Except.ok.inj hsame]
  have hok : handle libs data service (.onSuccess request ⟨some crimes⟩) =
      .ok (service, [.println (scoreAt name crimes.length),
        .onNext ⟨8 / 10, ID, ⟨scoreToSafety (scoreAt name crimes.length)⟩⟩]) := by
    simp only [handle, hcaptured, onSuccess_eq hget]
    rfl
  exact Machine.ofHandler_emitAfter h hok

/-- The level is right from ten crimes on, and where so few crimes weigh so little that the
place is safe. The score falls only at the tenth crime. No level gets safer. -/
theorem reports_risk_iff {events : List (Event Crime)} {service : Service}
    (h : (machine libs data).run events = .ok service) {request : ℕ} {sample : Sample ℚ}
    (hcall : (calls events)[request]? = some sample) {name : String}
    (hname : LocatedAt libs sample name) :
    (∀ crimes, ReportsLevel libs data events request name crimes ↔
      10 ≤ crimes.length ∨ weight name * crimes.length ≤ 2) ∧
    (∀ crimes crime, crimes.length < 10 →
      (ScoreFalls libs data events request crimes (crimes ++ [crime]) ↔ crimes.length = 9)) ∧
    ∀ crimes others, crimes.length ≤ others.length →
      NotSafer libs data events request crimes others := by
  have hresponded := responded_eq h hcall hname
  have hlevel : ∀ crimes, emittedLevel (responded libs data events request crimes) =
      some (scoreToSafety (scoreAt name crimes.length)) := fun crimes => by
    rw [hresponded]
    rfl
  have hscore : ∀ crimes, printedScore (responded libs data events request crimes) =
      some (scoreAt name crimes.length) := fun crimes => by
    rw [hresponded]
    rfl
  refine ⟨fun crimes => ?_, fun crimes crime _ => ?_, fun crimes others hle => ?_⟩
  · rw [ReportsLevel, hlevel, Option.some_inj, scoreToSafety_scoreAt_iff]
  · rw [← scoreAt_succ_lt_iff name, ScoreFalls, hscore, hscore, List.length_append,
      List.length_singleton]
    simp
  · exact ⟨_, _, hlevel crimes, hlevel others, idxOf_scoreToSafety_anti (scoreAt_anti name hle)⟩

def atWork : List (Event String) :=
  [.checkSafety Familiarity.parkedGps
    (AbstractLocation.placeSample AbstractLocation.Data.WORK)]

theorem run_atWork :
    (machine AbstractLocation.placeLibraries Familiarity.phoneData).run atWork =
      .ok ⟨[some ⟨some (stringField "name" AbstractLocation.Data.WORK)⟩]⟩ := by
  have hplace : wrapperOf AbstractLocation.placeLibraries
      (AbstractLocation.placeSample AbstractLocation.Data.WORK) =
        .ok (some ⟨some (stringField "name" AbstractLocation.Data.WORK)⟩) :=
    AbstractLocation.wrapperOf_placeSample rfl
  have hgps : Familiarity.phoneData Familiarity.parkedGps =
      .ok (some (.gps ⟨1449000000, 30, -97, 0, 0, 150, some "gps"⟩)) :=
    rfl
  exact (Machine.ofHandler_step _ (handle_checkSafety hplace hgps .fresh)).1

theorem locatedAt_work :
    LocatedAt AbstractLocation.placeLibraries
      (AbstractLocation.placeSample AbstractLocation.Data.WORK) AbstractLocation.Data.WORK :=
  ⟨_, AbstractLocation.wrapperOf_placeSample rfl, getWrap_stringField _ _⟩

theorem reports_ten_crimes :
    ReportsLevel AbstractLocation.placeLibraries Familiarity.phoneData atWork 0
      AbstractLocation.Data.WORK (List.replicate 10 "Theft") :=
  ((reports_risk_iff run_atWork rfl locatedAt_work).1 _).mpr (.inl (by decide))

/-- Nine crimes around a workplace: the cab says `SAFE`, the exact score is 0.28. -/
theorem ignores_nine_crimes :
    ¬ ReportsLevel AbstractLocation.placeLibraries Familiarity.phoneData atWork 0
      AbstractLocation.Data.WORK (List.replicate 9 "Theft") := by
  have hexact : scoreToSafety (exactScore AbstractLocation.Data.WORK 9) = Data.UNSAFE := by
    have hweight : weight AbstractLocation.Data.WORK = 8 / 10 := if_pos rfl
    have hscore : exactScore AbstractLocation.Data.WORK 9 = 28 / 100 := by
      rw [exactScore, hweight, share_of_lt (by decide)]
      norm_num
    rw [hscore]
    norm_num [scoreToSafety]
  have hsent : scoreToSafety (scoreAt AbstractLocation.Data.WORK 9) = Data.SAFE := by
    norm_num [scoreAt, truncatedShare, scoreToSafety]
  rw [ReportsLevel, responded_eq run_atWork rfl locatedAt_work, List.length_replicate, hexact]
  intro hsame
  rw [hsent] at hsame
  exact absurd (Option.some.inj hsame) (by decide)

end LSTAndroid.Safety
