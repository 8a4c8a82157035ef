import LSTAndroid.LocationPoll
import LSTAndroid.Samples
import Mathlib.Data.NNRat.Defs
import Mathlib.Tactic.Linarith

namespace LSTAndroid.Familiarity

open LSTAndroid.Library.EventMachine
open LSTAndroid.Samples
open LSTAndroid.LocationPoll (Platform IndexExtras exactPlatform)

variable {D : Type}

def LONG_KM_EST : ℚ := 9 / 1000

def LAT_KM_EST : ℚ := 1 / 1000

/-- In seconds. -/
def time_border : ℚ := 3600

def km_border : ℚ := 1

def windowIntent (platform : Platform D ℚ) (gpsData : GpsData D) (minClock maxClock : ℤ) :
    IndexExtras ℚ where
  action := "windowPoK"
  floats :=
    [("minLongitude", platform.ofDouble gpsData.longitude - LONG_KM_EST * km_border),
      ("minLatitude", platform.ofDouble gpsData.latitude - LAT_KM_EST * km_border),
      ("maxLongitude", platform.ofDouble gpsData.longitude + LONG_KM_EST * km_border),
      ("maxLatitude", platform.ofDouble gpsData.latitude + LONG_KM_EST * km_border),
      ("minTimestamp", platform.ofLong minClock - time_border),
      ("maxTimestamp", platform.ofLong maxClock + time_border)]

/-- What `init()` adds to the known applications. -/
def knownApplications : List String := ["com.snapchat", "com.instagram"]

def knownIn (appForegrounds : List (Option String)) : ℕ :=
  appForegrounds.countP fun appForeground => appForeground.any knownApplications.contains

/-- The normalized number: one for every five known applications, and at most one. -/
def countKnown (appForegrounds : List (Option String)) : ℕ :=
  let count := knownIn appForegrounds / 5
  if count > 1 then 1 else count

theorem countKnown_eq (appForegrounds : List (Option String)) :
    countKnown appForegrounds = if 5 ≤ knownIn appForegrounds then 1 else 0 := by
  simp only [countKnown]
  split
  · rw [if_pos (by omega)]
  · split
    · omega
    · omega

def deref {A : Type} : Option A → Except RuntimeException A
  | none => .error .nullPointer
  | some value => .ok value

def castGpsData : Option (SensorData D) → Except RuntimeException (Option (GpsData D))
  | none => .ok none
  | some (.gps data) => .ok (some data)
  | some _ => .error .classCast

def castApplicationStateData :
    Option (SensorData D) → Except RuntimeException (Option ApplicationStateData)
  | none => .ok none
  | some (.applicationStates data) => .ok (some data)
  | some _ => .error .classCast

/-- The field `count`, and the requests sent, with those still to be answered. -/
structure Service where
  count : ℕ
  sent : ℕ
  pending : List ℕ
  deriving DecidableEq

def Service.fresh : Service := ⟨0, 0, []⟩

/-- A `ContextSample` of this cab, with the one field of its `Data`. -/
structure ContextSample where
  accuracy : ℚ
  type : String
  familiarity : ℚ
  deriving DecidableEq

def ID : String := "com.ut.mpc.contextengine.cabs.familiarity"

def contextSample (pok : ℚ≥0) (count : ℕ) : ContextSample where
  accuracy := if (count : ℚ) ≤ pok then 1 else pok / count
  type := ID
  familiarity := (pok + count) / 2

inductive Event (D : Type) where
  | checkFamiliarity (gpsSample applicationStateSample : Sample D) (minClock maxClock : ℤ)
  | reply (request : ℕ) (pok : ℚ≥0)

inductive Output where
  | sendOrderedBroadcast (request : ℕ) (intent : IndexExtras ℚ)
  | onNext (request : ℕ) (sample : ContextSample)

section Handlers

-- `data` stands for the method `data()` of the sensor samples.
variable (data : Sample D → Except RuntimeException (Option (SensorData D)))
variable (platform : Platform D ℚ)

def sampleCount (applicationStateSample : Sample D) : Except RuntimeException ℕ := do
  let appData ← castApplicationStateData (← data applicationStateSample)
  let appForegrounds ← deref (← deref appData).appForegrounds
  return countKnown appForegrounds

def checkFamiliarity (gpsSample applicationStateSample : Sample D) (minClock maxClock : ℤ)
    (service : Service) : Except RuntimeException (Service × List Output) := do
  let gpsData ← castGpsData (← data gpsSample)
  let count ← sampleCount data applicationStateSample
  let gpsData ← deref gpsData
  return ({ count, sent := service.sent + 1, pending := service.pending ++ [service.sent] },
    [.sendOrderedBroadcast service.sent (windowIntent platform gpsData minClock maxClock)])

/-- `onReceive` of the receiver of a request, which is called once. -/
def onReply (request : ℕ) (pok : ℚ≥0) (service : Service) : Service × List Output :=
  if request ∈ service.pending then
    ({ service with pending := service.pending.erase request },
      [.onNext request (contextSample pok service.count)])
  else (service, [])

def handle (service : Service) :
    Event D → Except RuntimeException (Service × List Output)
  | .checkFamiliarity gpsSample applicationStateSample minClock maxClock =>
      checkFamiliarity data platform gpsSample applicationStateSample minClock maxClock service
  | .reply request pok => .ok (onReply request pok service)

def machine : Machine (Except RuntimeException Service) (Event D) Output :=
  .ofHandler .fresh (handle data platform)

end Handlers

/-- The application states of the calls so far; the place of a call in the list is
the number of its request. -/
def calls (events : List (Event D)) : List (Sample D) :=
  events.filterMap fun
    | .checkFamiliarity _ applicationStateSample _ _ => some applicationStateSample
    | .reply _ _ => none

variable {data : Sample D → Except RuntimeException (Option (SensorData D))}
variable {platform : Platform D ℚ}

theorem checkFamiliarity_ok {gpsSample applicationStateSample : Sample D}
    {minClock maxClock : ℤ} {service after : Service} {outputs : List Output}
    (h : checkFamiliarity data platform gpsSample applicationStateSample minClock maxClock
      service = .ok (after, outputs)) :
    ∃ count, sampleCount data applicationStateSample = .ok count ∧
      after = ⟨count, service.sent + 1, service.pending ++ [service.sent]⟩ := by
  unfold checkFamiliarity at h
  obtain ⟨loaded, -, h⟩ := bind_eq_ok_iff.mp h
  obtain ⟨gpsData, -, h⟩ := bind_eq_ok_iff.mp h
  obtain ⟨count, hcount, h⟩ := bind_eq_ok_iff.mp h
  obtain ⟨fix, -, h⟩ := bind_eq_ok_iff.mp h
  exact ⟨count, hcount, (congrArg Prod.fst (Except.ok.inj h)).symm⟩

structure Explains (data : Sample D → Except RuntimeException (Option (SensorData D)))
    (events : List (Event D)) (service : Service) : Prop where
  sent : service.sent = (calls events).length
  pending : ∀ request ∈ service.pending, request < service.sent
  counted : ∀ sample ∈ calls events, ∃ count, sampleCount data sample = .ok count
  count : ∀ latest ∈ (calls events).getLast?, sampleCount data latest = .ok service.count

theorem Explains.handle {events : List (Event D)} {service after : Service}
    {event : Event D} {outputs : List Output} (h : Explains data events service)
    (hok : handle data platform service event = .ok (after, outputs)) :
    Explains data (events ++ [event]) after := by
  cases event with
  | checkFamiliarity gpsSample applicationStateSample minClock maxClock =>
      obtain ⟨count, hcount, rfl⟩ := checkFamiliarity_ok hok
      have hcalls : calls (events ++ [.checkFamiliarity gpsSample applicationStateSample
          minClock maxClock]) = calls events ++ [applicationStateSample] := by
        simp [calls]
      refine ⟨?_, ?_, ?_, ?_⟩
      · simp [hcalls, h.sent]
      · intro request hrequest
        rcases List.mem_append.mp hrequest with hearlier | hlast
        · exact Nat.lt_succ_of_lt (h.pending request hearlier)
        · rw [List.mem_singleton.mp hlast]
          exact Nat.lt_succ_self service.sent
      · rw [hcalls]
        intro sample hsample
        rcases List.mem_append.mp hsample with hearlier | hlast
        · exact h.counted sample hearlier
        · rw [List.mem_singleton.mp hlast]
          exact ⟨count, hcount⟩
      · rw [hcalls, List.getLast?_concat]
        rintro latest ⟨⟩
        exact hcount
  | reply request pok =>
      have hcalls : calls (events ++ [.reply request pok]) = calls events := by
        simp [calls]
      have hafter : after.count = service.count ∧ after.sent = service.sent ∧
          ∀ other ∈ after.pending, other ∈ service.pending := by
        obtain rfl := congrArg Prod.fst (Except.ok.inj hok)
        unfold onReply
        split
        · exact ⟨rfl, rfl, fun other => List.mem_of_mem_erase⟩
        · exact ⟨rfl, rfl, fun other => id⟩
      obtain ⟨hcount, hsent, hpending⟩ := hafter
      refine ⟨?_, ?_, ?_, ?_⟩
      · rw [hsent, hcalls, h.sent]
      · intro other hother
        rw [hsent]
        exact h.pending other (hpending other hother)
      · rw [hcalls]
        exact h.counted
      · rw [hcalls, hcount]
        exact h.count

theorem run_explained {events : List (Event D)} {service : Service}
    (h : (machine data platform).run events = .ok service) : Explains data events service := by
  refine Machine.ofHandler_history_of_ok
    ⟨rfl, by simp [Service.fresh], by simp [calls], by simp [calls]⟩ ?_ events h
  intro before service event after outputs hexplains hok
  exact hexplains.handle hok

def ShowsFiveKnown (data : Sample D → Except RuntimeException (Option (SensorData D)))
    (applicationStateSample : Sample D) : Prop :=
  ∃ appData appForegrounds,
    data applicationStateSample = .ok (some (.applicationStates appData)) ∧
      appData.appForegrounds = some appForegrounds ∧ 5 ≤ knownIn appForegrounds

theorem deref_eq_ok {A : Type} {reference : Option A} {value : A}
    (h : deref reference = .ok value) : reference = some value := by
  cases reference with
  | none => cases h
  | some other => rw [Except.ok.inj h]

theorem castApplicationStateData_eq_ok {loaded : Option (SensorData D)}
    {appData : ApplicationStateData}
    (h : castApplicationStateData loaded = .ok (some appData)) :
    loaded = some (.applicationStates appData) := by
  cases loaded with
  | none => cases h
  | some object =>
      cases object with
      | applicationStates states => rw [Option.some.inj (Except.ok.inj h)]
      | gps _ => cases h
      | accelerometer _ => cases h
      | bluetooth _ => cases h
      | communication _ => cases h

theorem sampleCount_ok {sample : Sample D} {count : ℕ} (h : sampleCount data sample = .ok count) :
    ∃ appData appForegrounds, data sample = .ok (some (.applicationStates appData)) ∧
      appData.appForegrounds = some appForegrounds ∧ count = countKnown appForegrounds := by
  unfold sampleCount at h
  obtain ⟨loaded, hdata, h⟩ := bind_eq_ok_iff.mp h
  obtain ⟨appData, hcast, h⟩ := bind_eq_ok_iff.mp h
  obtain ⟨states, hstates, h⟩ := bind_eq_ok_iff.mp h
  obtain ⟨appForegrounds, hforegrounds, h⟩ := bind_eq_ok_iff.mp h
  rw [deref_eq_ok hstates] at hcast
  rw [castApplicationStateData_eq_ok hcast] at hdata
  exact ⟨states, appForegrounds, hdata, deref_eq_ok hforegrounds, (Except.ok.inj h).symm⟩

open Classical in
theorem sampleCount_eq {sample : Sample D} {count : ℕ} (h : sampleCount data sample = .ok count) :
    count = if ShowsFiveKnown data sample then 1 else 0 := by
  obtain ⟨appData, appForegrounds, hdata, hforegrounds, rfl⟩ := sampleCount_ok h
  have hshows : ShowsFiveKnown data sample ↔ 5 ≤ knownIn appForegrounds := by
    constructor
    · rintro ⟨other, otherForegrounds, hother, hotherForegrounds, hfive⟩
      rw [hdata] at hother
      obtain rfl := SensorData.applicationStates.inj (Option.some.inj (Except.ok.inj hother))
      rw [hforegrounds] at hotherForegrounds
      rwa [Option.some.inj hotherForegrounds]
    · intro hfive
      exact ⟨appData, appForegrounds, hdata, hforegrounds, hfive⟩
  rw [countKnown_eq]
  simp only [hshows]

theorem contextSample_injective (pok : ℚ≥0) : Function.Injective (contextSample pok) := by
  intro a b h
  have hfamiliarity : ((pok : ℚ) + a) / 2 = (pok + b) / 2 := congrArg ContextSample.familiarity h
  have hcast : (a : ℚ) = b := by linarith
  exact Nat.cast_injective hcast

/-- Each sample for a reply is computed from the `pok` of the reply and the application
states of the call that sent the request. -/
def UsesOwnCall (data : Sample D → Except RuntimeException (Option (SensorData D)))
    (platform : Platform D ℚ) : List (Event D) → Prop :=
  AtEachEvent fun before event => ∀ request pok, event = .reply request pok →
    ∀ sample, .onNext request sample ∈ (machine data platform).emitAfter before event →
      ∃ own ∈ (calls before)[request]?, ∃ count,
        sampleCount data own = .ok count ∧ sample = contextSample pok count

theorem emitAfter_reply {events : List (Event D)} {service : Service}
    (h : (machine data platform).run events = .ok service) (request : ℕ) (pok : ℚ≥0) :
    (machine data platform).emitAfter events (.reply request pok) =
      if request ∈ service.pending then [.onNext request (contextSample pok service.count)]
      else [] := by
  have hreply : handle data platform service (.reply request pok) =
      .ok ((onReply request pok service).1, (onReply request pok service).2) := rfl
  rw [machine, Machine.ofHandler_emitAfter h hreply]
  unfold onReply
  split
  · rfl
  · rfl

/-- The sample for a pending request is right exactly when the call that sent the request
and the latest call agree. -/
theorem sample_eq_iff {events : List (Event D)} {service : Service}
    (h : (machine data platform).run events = .ok service) {request : ℕ} (pok : ℚ≥0)
    (hpending : request ∈ service.pending) :
    (∃ own ∈ (calls events)[request]?, ∃ count, sampleCount data own = .ok count ∧
        contextSample pok service.count = contextSample pok count) ↔
      ∀ own ∈ (calls events)[request]?, ∀ latest ∈ (calls events).getLast?,
        (ShowsFiveKnown data own ↔ ShowsFiveKnown data latest) := by
  have hexplains := run_explained h
  have hlength : request < (calls events).length :=
    hexplains.sent ▸ hexplains.pending request hpending
  obtain ⟨own, hown⟩ : ∃ own, (calls events)[request]? = some own :=
    ⟨_, List.getElem?_eq_getElem hlength⟩
  obtain ⟨latest, hlatest⟩ : ∃ latest, (calls events).getLast? = some latest :=
    ⟨_, List.getLast?_eq_some_getLast (List.ne_nil_of_length_pos (by omega))⟩
  obtain ⟨count, hcount⟩ := hexplains.counted own (List.mem_of_getElem? hown)
  have hservice := sampleCount_eq (hexplains.count latest hlatest)
  have howned := sampleCount_eq hcount
  have hsame : service.count = count ↔
      (ShowsFiveKnown data own ↔ ShowsFiveKnown data latest) := by
    rw [hservice, howned]
    by_cases hshows : ShowsFiveKnown data own
    · simp [hshows]
    · simp [hshows]
  constructor
  · rintro ⟨other, hother, otherCount, hotherCount, hsample⟩ first hfirst last hlast
    obtain rfl := Option.some.inj (hown.symm.trans hother)
    obtain rfl := Option.some.inj (hown.symm.trans hfirst)
    obtain rfl := Option.some.inj (hlatest.symm.trans hlast)
    obtain rfl := Except.ok.inj (hcount.symm.trans hotherCount)
    exact hsame.mp (contextSample_injective pok hsample)
  · intro hagree
    exact ⟨own, hown, count, hcount,
      congrArg (contextSample pok) (hsame.mpr (hagree own hown latest hlatest))⟩

/-- The samples are right exactly when, at each reply, the latest call showed five known
applications if and only if the call that sent the request did. -/
theorem uses_own_call_iff (data : Sample D → Except RuntimeException (Option (SensorData D)))
    (platform : Platform D ℚ) (events : List (Event D)) :
    UsesOwnCall data platform events ↔
      AtEachEvent (fun before event => ∀ request pok, event = .reply request pok →
        ∀ service, (machine data platform).run before = .ok service →
          request ∈ service.pending →
            ∀ own ∈ (calls before)[request]?, ∀ latest ∈ (calls before).getLast?,
              (ShowsFiveKnown data own ↔ ShowsFiveKnown data latest)) events := by
  refine atEachEvent_iff ?_ events
  intro before event
  constructor
  · rintro hown request pok rfl service hrun hpending
    refine (sample_eq_iff hrun pok hpending).mp (hown request pok rfl _ ?_)
    rw [emitAfter_reply hrun, if_pos hpending]
    exact List.mem_singleton_self _
  · rintro hagree request pok rfl sample hsample
    rcases hrun : (machine data platform).run before with failure | service
    · rw [Machine.emitAfter, hrun] at hsample
      cases hsample
    · rw [emitAfter_reply hrun] at hsample
      split at hsample
      · rename_i hpending
        obtain ⟨-, rfl⟩ := Output.onNext.inj (List.mem_singleton.mp hsample)
        exact (sample_eq_iff hrun pok hpending).mpr
          (hagree request pok rfl service hrun hpending)
      · cases hsample

def parkedGps : Sample ℚ := ⟨1, some "gps", some parkedFixJson⟩

def fiveSnapchats : Sample ℚ :=
  ⟨1, some "applicationStates",
    some ("\x7b\"appForegrounds\":[\"com.snapchat\",\"com.snapchat\"," ++
      "\"com.snapchat\",\"com.snapchat\",\"com.snapchat\"]\x7d")⟩

def nothingOpen : Sample ℚ :=
  ⟨1, some "applicationStates", some "\x7b\"appForegrounds\":[]\x7d"⟩

/-- What `data()` should return for the three samples. -/
def phoneData (sample : Sample ℚ) : Except RuntimeException (Option (SensorData ℚ)) :=
  if sample = parkedGps then .ok (some parkedFix)
  else if sample = fiveSnapchats then
    .ok (some (.applicationStates ⟨0, some (List.replicate 5 (some "com.snapchat")), none, none⟩))
  else if sample = nothingOpen then .ok (some (.applicationStates ⟨0, some [], none, none⟩))
  else .error .jsonSyntax

def overlappingCalls : List (Event ℚ) :=
  [.checkFamiliarity parkedGps fiveSnapchats 1449000000000 1449000000000,
    .checkFamiliarity parkedGps nothingOpen 1449000001000 1449000001000]

/-- The reply to the first request is combined with what the second call counted. -/
theorem first_reply_uses_second_call :
    ¬ UsesOwnCall phoneData exactPlatform (overlappingCalls ++ [.reply 0 (1 / 2)]) := by
  intro hown
  have hrun : (machine phoneData exactPlatform).run overlappingCalls = .ok ⟨0, 2, [0, 1]⟩ := rfl
  have hemit : .onNext 0 (contextSample (1 / 2) 0) ∈
      (machine phoneData exactPlatform).emitAfter overlappingCalls (.reply 0 (1 / 2)) := by
    rw [emitAfter_reply hrun]
    simp
  obtain ⟨own, howned, count, hcount, hsample⟩ :=
    hown overlappingCalls _ [] rfl 0 (1 / 2) rfl _ hemit
  obtain rfl := Option.some.inj howned
  have hone : sampleCount phoneData fiveSnapchats = .ok 1 := rfl
  obtain rfl := Except.ok.inj (hone.symm.trans hcount)
  exact absurd (contextSample_injective (1 / 2) hsample) Nat.zero_ne_one

/-- `new SensorSample(sample).data()`. -/
def loadedData (runtime : Runtime D) (sample : Sample D) :
    Except RuntimeException (Option (SensorData D)) :=
  (SensorSample.getData runtime (.ofSample sample)).map Prod.fst

theorem loadedData_sensor {runtime : Runtime D}
    (hgson : ∀ json object, runtime.fromJson .gps json = .ok (some object) →
      object.sensor = .gps)
    {sample : Sample D} {object : SensorData D}
    (h : loadedData runtime sample = .ok (some object)) : object.sensor = .gps := by
  obtain ⟨accuracy, - | type, jsonData⟩ := sample
  · cases h
  rcases eq_or_ne type Sensor.gps.name with rfl | htype
  · cases jsonData with
    | none => cases h
    | some json =>
        rcases hjson : runtime.fromJson .gps json with failure | decoded
        · simp [loadedData, SensorSample.getData, SensorSample.ofSample, SensorSample.loadData,
            hjson, bind, Except.bind, Except.map] at h
        · simp only [loadedData, SensorSample.getData, SensorSample.ofSample,
            SensorSample.loadData, hjson, bind, Except.bind, Except.map] at h
          obtain rfl : decoded = some object := Except.ok.inj h
          exact hgson json object hjson
  · rw [loadedData, getData_unknown_type runtime rfl htype] at h
    cases h

/-- Gson builds objects of the class it is asked for, so until `loadData` decodes
application states no call of `checkFamiliarity` gets as far as its request. -/
theorem checkFamiliarity_loadedData (runtime : Runtime D)
    (hgson : ∀ json object, runtime.fromJson .gps json = .ok (some object) →
      object.sensor = .gps)
    (gpsSample applicationStateSample : Sample D) (minClock maxClock : ℤ) (service : Service) :
    ∃ failure, checkFamiliarity (loadedData runtime) platform gpsSample applicationStateSample
      minClock maxClock service = .error failure := by
  rcases hresult : checkFamiliarity (loadedData runtime) platform gpsSample
      applicationStateSample minClock maxClock service with failure | ⟨after, outputs⟩
  · exact ⟨failure, rfl⟩
  · obtain ⟨count, hcount, -⟩ := checkFamiliarity_ok hresult
    obtain ⟨appData, -, hdata, -, -⟩ := sampleCount_ok hcount
    cases loadedData_sensor hgson hdata

end LSTAndroid.Familiarity
