import LSTAndroid.AbstractLocation

namespace LSTAndroid.Activity

open LSTAndroid.Library.EventMachine
open LSTAndroid.Samples
open LSTAndroid.ContextSamples
open LSTAndroid.Familiarity (castGpsData deref)
open LSTAndroid.AbstractLocation (placeJson placeLibraries placeSample)

/-- The functions of `Math`; the arc cosine of a number beyond one is not a number. -/
structure JavaMath where
  cos : ℚ → ℚ
  sin : ℚ → ℚ
  acos : ℚ → Option ℚ

def gps2m (math : JavaMath) (lat_a lng_a lat_b lng_b : ℚ) : Option ℚ :=
  let pk := 180 / (314169 / 100000)
  let a1 := lat_a / pk
  let a2 := lng_a / pk
  let b1 := lat_b / pk
  let b2 := lng_b / pk
  let t1 := math.cos a1 * math.cos a2 * math.cos b1 * math.cos b2
  let t2 := math.cos a1 * math.sin a2 * math.cos b1 * math.sin b2
  let t3 := math.sin a1 * math.sin b1
  (math.acos (t1 + t2 + t3)).map fun tt => 6366000 * tt

structure Data where
  value : String
  deriving DecidableEq

def Data.STILL : String := "STILL"

def Data.WALKING : String := "WALKING"

def Data.DRIVING : String := "DRIVING"

def Data.UNKNOWN : String := "UNKNOWN"

def ID : String := "com.ut.mpc.contextengine.cabs.activity"

structure Service where
  lastLat : ℚ
  lastLong : ℚ
  deriving DecidableEq

def Service.fresh : Service := ⟨0, 0⟩

structure Call where
  abstractLocSample : Sample ℚ
  gpsSample : Sample ℚ
  accelSample : Sample ℚ

def castAccelerometerData :
    Option (SensorData ℚ) → Except RuntimeException (Option (AccelerometerData ℚ))
  | none => .ok none
  | some (.accelerometer data) => .ok (some data)
  | some _ => .error .classCast

/-- The comparison is false of what is not a number. -/
def moving (distance : Option ℚ) : Emission Data :=
  if distance.any fun meters => meters > 100 then ⟨9 / 10, ID, ⟨Data.WALKING⟩⟩
  else ⟨8 / 10, ID, ⟨Data.DRIVING⟩⟩

section Handlers

variable (libs : JsonLibraries ℚ)
-- `data` stands for the method `data()` of the sensor samples.
variable (data : Sample ℚ → Except RuntimeException (Option (SensorData ℚ)))
variable (math : JavaMath)

def checkActivity (service : Service) (call : Call) :
    Except RuntimeException (Service × List (Emission Data)) := do
  let abstractLocData ← wrapperOf libs call.abstractLocSample
  let gpsData ← castGpsData (← data call.gpsSample)
  let _ ← castAccelerometerData (← data call.accelSample)
  let location ← (← deref abstractLocData).getString "name"
  if location = some AbstractLocation.Data.HOME then
    return (service, [⟨8 / 10, ID, ⟨Data.STILL⟩⟩])
  else if service.lastLat = 0 then
    return (service, [⟨0, ID, ⟨Data.UNKNOWN⟩⟩])
  else
    let gpsData ← deref gpsData
    return (service, [moving
      (gps2m math gpsData.latitude gpsData.longitude service.lastLat service.lastLong)])

def machine : Machine (Except RuntimeException Service) Call (Emission Data) :=
  .ofHandler .fresh (checkActivity libs data math)

/-- The three samples of a call can be read, the first two with these results. -/
structure Decodes (call : Call) (location : Option String) (fix : GpsData ℚ) : Prop where
  abstractLoc : ∃ wrapper, wrapperOf libs call.abstractLocSample = .ok (some wrapper) ∧
    wrapper.getString "name" = .ok location
  gps : data call.gpsSample = .ok (some (.gps fix))
  accel : ∃ values, data call.accelSample = .ok (some (.accelerometer values))

/-- Each call leaves its position in the fields, and from the second call on what a call
away from home sends is told by the distance to the position of the call before. -/
def TracksFix : List Call → Prop :=
  AtEachEvent fun before call => ∀ location fix, Decodes libs data call location fix →
    (∃ service, (machine libs data math).run (before ++ [call]) = .ok service ∧
      service.lastLat = fix.latitude ∧ service.lastLong = fix.longitude) ∧
    ∀ previous ∈ before.getLast?, ∀ locationBefore fixBefore,
      Decodes libs data previous locationBefore fixBefore →
      location ≠ some AbstractLocation.Data.HOME →
        (machine libs data math).emitAfter before call =
          [moving (gps2m math fix.latitude fix.longitude fixBefore.latitude fixBefore.longitude)]

/-- Every position is the one that a new service starts with, and every call but the first
is made at home. -/
def StaysAtStart : List Call → Prop :=
  AtEachEvent fun before call => ∀ location fix, Decodes libs data call location fix →
    (fix.latitude = 0 ∧ fix.longitude = 0) ∧
      (before ≠ [] → location = some AbstractLocation.Data.HOME)

end Handlers

variable {libs : JsonLibraries ℚ}
variable {data : Sample ℚ → Except RuntimeException (Option (SensorData ℚ))}
variable {math : JavaMath}

theorem Decodes.unique {call : Call} {location location' : Option String} {fix fix' : GpsData ℚ}
    (h : Decodes libs data call location fix) (h' : Decodes libs data call location' fix') :
    location = location' ∧ fix = fix' := by
  obtain ⟨wrapper, hwrapper, hlocation⟩ := h.abstractLoc
  obtain ⟨wrapper', hwrapper', hlocation'⟩ := h'.abstractLoc
  constructor
  · rw [hwrapper] at hwrapper'
    obtain rfl := Option.some.inj (Except.ok.inj hwrapper')
    exact Except.ok.inj (hlocation.symm.trans hlocation')
  · exact SensorData.gps.inj (Option.some.inj (Except.ok.inj (h.gps.symm.trans h'.gps)))

theorem moving_ne_unknown (distance : Option ℚ) : (moving distance).data.value ≠ Data.UNKNOWN := by
  unfold moving
  split
  · exact (by decide : Data.WALKING ≠ Data.UNKNOWN)
  · exact (by decide : Data.DRIVING ≠ Data.UNKNOWN)

theorem checkActivity_fresh {call : Call} {location : Option String} {fix : GpsData ℚ}
    (h : Decodes libs data call location fix) :
    checkActivity libs data math .fresh call =
      .ok (.fresh, [if location = some AbstractLocation.Data.HOME then
        ⟨8 / 10, ID, ⟨Data.STILL⟩⟩ else ⟨0, ID, ⟨Data.UNKNOWN⟩⟩]) := by
  obtain ⟨wrapper, hwrapper, hlocation⟩ := h.abstractLoc
  obtain ⟨values, haccel⟩ := h.accel
  have hlat : Service.fresh.lastLat = 0 := rfl
  simp only [checkActivity, hwrapper, h.gps, haccel, castGpsData, castAccelerometerData, deref,
    hlocation, bind, Except.bind, pure, Except.pure, hlat]
  split
  · rfl
  · rfl

theorem run_fresh {events : List Call}
    (hdecodes : ∀ call ∈ events, ∃ location fix, Decodes libs data call location fix) :
    (machine libs data math).run events = .ok .fresh := by
  have hrun : ∃ service, (machine libs data math).run events = .ok service ∧
      service = .fresh := by
    refine Machine.ofHandler_history_of_forall (R := fun _ service => service = Service.fresh)
      rfl ?_ hdecodes
    rintro before _ call - rfl ⟨location, fix, hcall⟩
    exact ⟨.fresh, _, checkActivity_fresh hcall, rfl⟩
  obtain ⟨service, hrun, rfl⟩ := hrun
  exact hrun

theorem emitAfter_eq {before : List Call}
    (hdecodes : ∀ call ∈ before, ∃ location fix, Decodes libs data call location fix)
    {call : Call} {location : Option String} {fix : GpsData ℚ}
    (hcall : Decodes libs data call location fix) :
    (machine libs data math).emitAfter before call =
      [if location = some AbstractLocation.Data.HOME then
        ⟨8 / 10, ID, ⟨Data.STILL⟩⟩ else ⟨0, ID, ⟨Data.UNKNOWN⟩⟩] :=
  Machine.ofHandler_emitAfter (run_fresh hdecodes) (checkActivity_fresh hcall)

/-- The position before is kept only where it never differs from the one a new service
starts with. -/
theorem tracks_fix_iff (math : JavaMath) {events : List Call}
    (hdecodes : ∀ call ∈ events, ∃ location fix, Decodes libs data call location fix) :
    TracksFix libs data math events ↔ StaysAtStart libs data events := by
  refine atEachEvent_congr ?_
  rintro before call after rfl
  have hbefore : ∀ other ∈ before, ∃ location fix, Decodes libs data other location fix :=
    fun other hother => hdecodes other (List.mem_append_left _ hother)
  have hcalls : ∀ other ∈ before ++ [call],
      ∃ location fix, Decodes libs data other location fix :=
    fun other hother => hdecodes other (by
      rw [List.append_cons]
      exact List.mem_append_left _ hother)
  refine forall₃_congr fun location fix hcall => and_congr ?_ ?_
  · rw [run_fresh hcalls]
    constructor
    · rintro ⟨service, hservice, hlat, hlong⟩
      obtain rfl := Except.ok.inj hservice
      exact ⟨hlat.symm, hlong.symm⟩
    · rintro ⟨hlat, hlong⟩
      exact ⟨.fresh, rfl, hlat.symm, hlong.symm⟩
  · rw [emitAfter_eq hbefore hcall]
    constructor
    · intro htold hne
      by_contra haway
      obtain ⟨previous, hprevious⟩ : ∃ previous, before.getLast? = some previous :=
        ⟨_, List.getLast?_eq_some_getLast hne⟩
      obtain ⟨locationBefore, fixBefore, hdecoded⟩ :=
        hbefore previous (List.mem_of_getLast? hprevious)
      have hsent := htold previous hprevious locationBefore fixBefore hdecoded haway
      rw [if_neg haway] at hsent
      exact moving_ne_unknown _ (congrArg (fun sent => sent.data.value)
        (List.singleton_inj.mp hsent)).symm
    · intro hhome previous hprevious locationBefore fixBefore _ haway
      refine absurd (hhome ?_) haway
      rintro rfl
      cases hprevious

def gulfOfGuinea : Sample ℚ :=
  ⟨1, some "gps", some ("\x7b\"timestamp\":0,\"latitude\":0.0,\"longitude\":0.0," ++
    "\"bearing\":0.0,\"speed\":0.0,\"altitude\":0.0\x7d")⟩

def onTable : Sample ℚ := ⟨1, some "accelerometer", some phoneOnTableJson⟩

def phoneData (sample : Sample ℚ) : Except RuntimeException (Option (SensorData ℚ)) :=
  if sample = gulfOfGuinea then .ok (some (.gps ⟨0, 0, 0, 0, 0, 0, none⟩))
  else if sample = onTable then .ok (some phoneOnTable)
  else Familiarity.phoneData sample

/-- The functions of `Math` at the numbers that the origin needs. -/
def mathAtOrigin : JavaMath where
  cos _ := 1
  sin _ := 0
  acos x := if x = 1 then some 0 else none

def homeAtOrigin : Call :=
  ⟨placeSample AbstractLocation.Data.HOME, gulfOfGuinea, onTable⟩

def parkedAtWork : Call :=
  ⟨placeSample AbstractLocation.Data.WORK, Familiarity.parkedGps, onTable⟩

theorem decodes_placeSample {name : String} {gpsSample : Sample ℚ} {fix : GpsData ℚ}
    (hparse : placeLibraries.parse (placeJson name) = some (.object (stringField "name" name)))
    (hgps : phoneData gpsSample = .ok (some (.gps fix))) :
    Decodes placeLibraries phoneData ⟨placeSample name, gpsSample, onTable⟩ (some name) fix := by
  have hwrapper := AbstractLocation.wrapperOf_placeSample hparse
  exact ⟨⟨_, hwrapper, getString_stringField "name" name⟩, hgps, ⟨_, rfl⟩⟩

theorem decodes_homeAtOrigin :
    Decodes placeLibraries phoneData homeAtOrigin (some AbstractLocation.Data.HOME)
      ⟨0, 0, 0, 0, 0, 0, none⟩ :=
  decodes_placeSample rfl rfl

theorem tracks_fix_at_origin :
    TracksFix placeLibraries phoneData mathAtOrigin [homeAtOrigin, homeAtOrigin] := by
  refine (tracks_fix_iff mathAtOrigin ?_).mpr ?_
  · simp only [List.forall_mem_cons]
    exact ⟨⟨_, _, decodes_homeAtOrigin⟩, ⟨_, _, decodes_homeAtOrigin⟩, by simp⟩
  · rintro before call after hsplit location fix hcall
    have hsame : call = homeAtOrigin := by
      have hmem : call ∈ [homeAtOrigin, homeAtOrigin] := by simp [hsplit]
      simpa using hmem
    obtain ⟨rfl, rfl⟩ := decodes_homeAtOrigin.unique (hsame ▸ hcall)
    exact ⟨⟨rfl, rfl⟩, fun _ => rfl⟩

/-- The first call at work leaves zero in the fields, and the second knows no position. -/
theorem forgets_fix :
    ¬ ∃ math, TracksFix placeLibraries phoneData math [parkedAtWork, parkedAtWork] := by
  rintro ⟨math, htracks⟩
  have hcall : Decodes placeLibraries phoneData parkedAtWork (some AbstractLocation.Data.WORK)
      ⟨1449000000, 30, -97, 0, 0, 150, some "gps"⟩ :=
    decodes_placeSample rfl rfl
  obtain ⟨⟨service, hrun, hlat, -⟩, -⟩ := htracks [] parkedAtWork [parkedAtWork] rfl _ _ hcall
  rw [run_fresh (by simpa using ⟨_, _, hcall⟩)] at hrun
  obtain rfl := Except.ok.inj hrun
  norm_num [Service.fresh] at hlat

end LSTAndroid.Activity
