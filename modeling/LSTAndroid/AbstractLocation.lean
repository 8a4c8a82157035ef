import LSTAndroid.ContextSamples
import LSTAndroid.Familiarity
import Mathlib.Algebra.Order.Ring.Abs
import Mathlib.Tactic.Linarith
import Mathlib.Tactic.NormNum

namespace LSTAndroid.AbstractLocation

open LSTAndroid.Library.EventMachine
open LSTAndroid.Library.HashTable
open LSTAndroid.Samples
open LSTAndroid.ContextSamples
open LSTAndroid.Familiarity (castGpsData deref)

structure GeoRegion where
  minLong : ℚ
  maxLong : ℚ
  minLat : ℚ
  maxLat : ℚ

def GeoRegion.Contains (region : GeoRegion) (longitude latitude : ℚ) : Prop :=
  longitude > region.minLong ∧ longitude < region.maxLong ∧
    latitude > region.minLat ∧ latitude < region.maxLat

instance (region : GeoRegion) (longitude latitude : ℚ) :
    Decidable (region.Contains longitude latitude) :=
  inferInstanceAs (Decidable (_ ∧ _))

def longTol : ℚ := 108 / 1000

def latTol : ℚ := 34 / 100

abbrev LocationTable := Table String GeoRegion

structure SetLoc where
  longitude : ℚ
  latitude : ℚ
  name : String

def SetLoc.region (call : SetLoc) : GeoRegion :=
  ⟨call.longitude - longTol, call.longitude + longTol,
    call.latitude - latTol, call.latitude + longTol⟩

def setLoc (call : SetLoc) (table : LocationTable) : LocationTable :=
  table.insert call.name call.region

def getLoc (order : IterationOrder String GeoRegion) (longitude latitude : ℚ)
    (table : LocationTable) : Option String :=
  firstKey order (fun region => region.Contains longitude latitude) table

def tableOf (calls : List SetLoc) : LocationTable :=
  calls.foldl (fun table call => setLoc call table) ∅

/-- The call has registered a location that no later call has moved. -/
def Registered (calls : List SetLoc) (call : SetLoc) : Prop :=
  LastPut SetLoc.name calls call

/-- The point lies within the two tolerances around the centre of a location. -/
def SetLoc.Near (call : SetLoc) (longitude latitude : ℚ) : Prop :=
  |longitude - call.longitude| < longTol ∧ |latitude - call.latitude| < latTol

theorem lookup_tableOf (calls : List SetLoc) (name : String) (region : GeoRegion) :
    (tableOf calls).lookup name = some region ↔
      ∃ call, Registered calls call ∧ call.name = name ∧ call.region = region :=
  lookup_putAll_iff calls name region

/-- A region is the part of the neighbourhood of its centre up to `longTol` north of it. -/
theorem contains_iff (call : SetLoc) (longitude latitude : ℚ) :
    call.region.Contains longitude latitude ↔
      call.Near longitude latitude ∧ latitude - call.latitude < longTol := by
  have htol : longTol < latTol := by norm_num [longTol, latTol]
  simp only [GeoRegion.Contains, SetLoc.region, SetLoc.Near, abs_lt]
  constructor
  · rintro ⟨hwest, heast, hsouth, hnorth⟩
    exact ⟨⟨⟨by linarith, by linarith⟩, by linarith, by linarith⟩, by linarith⟩
  · rintro ⟨⟨⟨hwest, heast⟩, hsouth, -⟩, hnorth⟩
    exact ⟨by linarith, by linarith, by linarith, by linarith⟩

variable {order : IterationOrder String GeoRegion}

theorem getLoc_isSome_iff (calls : List SetLoc) (longitude latitude : ℚ) :
    getLoc order longitude latitude (tableOf calls) ≠ none ↔
      ∃ call, Registered calls call ∧ call.region.Contains longitude latitude := by
  rw [Ne, getLoc, firstKey_eq_none_iff]
  push Not
  constructor
  · rintro ⟨name, region, hlookup, htest⟩
    obtain ⟨call, hcall, -, rfl⟩ := (lookup_tableOf calls name region).mp hlookup
    exact ⟨call, hcall, by simpa using htest⟩
  · rintro ⟨call, hcall, htest⟩
    exact ⟨call.name, call.region, (lookup_tableOf calls _ _).mpr ⟨call, hcall, rfl, rfl⟩,
      by simpa using htest⟩

theorem getLoc_eq_some {calls : List SetLoc} {longitude latitude : ℚ} {name : String}
    (h : getLoc order longitude latitude (tableOf calls) = some name) :
    ∃ call, Registered calls call ∧ call.name = name ∧
      call.region.Contains longitude latitude := by
  obtain ⟨region, hlookup, htest⟩ := firstKey_eq_some h
  obtain ⟨call, hcall, hname, rfl⟩ := (lookup_tableOf calls name region).mp hlookup
  exact ⟨call, hcall, hname, of_decide_eq_true htest⟩

/-- `getLoc` finds a name exactly when a registered centre is near, and then the name of
such a centre. -/
structure FindsNear (order : IterationOrder String GeoRegion) (calls : List SetLoc)
    (longitude latitude : ℚ) : Prop where
  found : getLoc order longitude latitude (tableOf calls) ≠ none ↔
    ∃ call, Registered calls call ∧ call.Near longitude latitude
  named : ∀ name, getLoc order longitude latitude (tableOf calls) = some name →
    ∃ call, Registered calls call ∧ call.name = name ∧ call.Near longitude latitude

/-- The lookup is right unless the point lies in the northern band of some neighbourhoods
and in no other part of any. -/
theorem finds_near_iff (order : IterationOrder String GeoRegion) (calls : List SetLoc)
    (longitude latitude : ℚ) :
    FindsNear order calls longitude latitude ↔
      (∀ call, Registered calls call → ¬ call.Near longitude latitude) ∨
        ∃ call, Registered calls call ∧ call.Near longitude latitude ∧
          latitude - call.latitude < longTol := by
  have hfound : getLoc order longitude latitude (tableOf calls) ≠ none ↔
      ∃ call, Registered calls call ∧ call.Near longitude latitude ∧
        latitude - call.latitude < longTol := by
    rw [getLoc_isSome_iff]
    exact exists_congr fun call => and_congr_right' (contains_iff call longitude latitude)
  constructor
  · intro h
    by_cases hnear : ∃ call, Registered calls call ∧ call.Near longitude latitude
    · exact .inr (hfound.mp (h.found.mpr hnear))
    · exact .inl fun call hcall hclose => hnear ⟨call, hcall, hclose⟩
  · intro h
    refine ⟨⟨fun hsome => ?_, fun hnear => hfound.mpr ?_⟩, fun name hname => ?_⟩
    · obtain ⟨call, hcall, hclose, -⟩ := hfound.mp hsome
      exact ⟨call, hcall, hclose⟩
    · rcases h with hnone | hsouth
      · obtain ⟨call, hcall, hclose⟩ := hnear
        exact absurd hclose (hnone call hcall)
      · exact hsouth
    · obtain ⟨call, hcall, hsame, hinside⟩ := getLoc_eq_some hname
      exact ⟨call, hcall, hsame, ((contains_iff call longitude latitude).mp hinside).1⟩

/-- A fifth of a degree north of its centre a location is not found. -/
theorem misses_northern_band :
    ¬ FindsNear (storedOrder String GeoRegion) [⟨0, 0, "HOME"⟩] 0 (1 / 5) := by
  intro h
  have hnone : getLoc (storedOrder String GeoRegion) 0 (1 / 5) (tableOf [⟨0, 0, "HOME"⟩]) =
      none := by
    decide +kernel
  refine h.found.mpr ⟨⟨0, 0, "HOME"⟩, ⟨[], [], rfl, by simp⟩, ?_⟩ hnone
  norm_num [SetLoc.Near, longTol, latTol, abs_of_pos]

structure Data where
  name : String
  deriving DecidableEq

def Data.WORK : String := "WORK"

def Data.HOME : String := "HOME"

def Data.SCHOOL : String := "SCHOOL"

def Data.UNKNOWN : String := "UNKNOWN"

def Data.toJson {D : Type} (data : Data) : JSONObject D :=
  stringField "name" data.name

structure Service where
  locTable : LocationTable
  lastLocName : String

def Service.fresh : Service := ⟨∅, ""⟩

def ID : String := "com.ut.mpc.contextengine.cabs.abstractlocation"

inductive Event where
  | setLoc (call : SetLoc)
  | checkLoc (sample : Sample ℚ)

section Handlers

-- `data` stands for the method `data()` of the sensor samples.
variable (order : IterationOrder String GeoRegion)
variable (data : Sample ℚ → Except RuntimeException (Option (SensorData ℚ)))

def checkLoc (sample : Sample ℚ) (service : Service) :
    Except RuntimeException (Service × List (Emission Data)) := do
  let gps ← deref (← castGpsData (← data sample))
  match getLoc order gps.longitude gps.latitude service.locTable with
  | some name =>
      if service.lastLocName ≠ name then
        return (service, [⟨sample.accuracy, ID, ⟨name⟩⟩])
      else return (service, [⟨9 / 10, ID, ⟨Data.WORK⟩⟩])
  | none => return (service, [⟨9 / 10, ID, ⟨Data.WORK⟩⟩])

def handle (service : Service) :
    Event → Except RuntimeException (Service × List (Emission Data))
  | .setLoc call => .ok ({ service with locTable := setLoc call service.locTable }, [])
  | .checkLoc sample => checkLoc order data sample service

def machine : Machine (Except RuntimeException Service) Event (Emission Data) :=
  .ofHandler .fresh (handle order data)

def calls (events : List Event) : List SetLoc :=
  events.filterMap fun
    | .setLoc call => some call
    | .checkLoc _ => none

/-- The fix lies in a region of this name, or in none and the name says so. -/
def Names (table : LocationTable) (gps : GpsData ℚ) (name : String) : Prop :=
  (∃ region, table.lookup name = some region ∧ region.Contains gps.longitude gps.latitude) ∨
    name = Data.UNKNOWN ∧ ∀ other region, table.lookup other = some region →
      ¬ region.Contains gps.longitude gps.latitude

def lastEmitted (events : List Event) : Option String :=
  ((machine order data).outputs events).getLast?.map fun emission => emission.data.name

/-- Every fix has a name, which is sent exactly when it differs from the one sent last. -/
def TracksLocation : List Event → Prop :=
  AtEachEvent fun before event => ∀ sample, event = .checkLoc sample →
    ∀ gps, data sample = .ok (some (.gps gps)) →
      ∃ name, Names (tableOf (calls before)) gps name ∧
        ((machine order data).emitAfter before event).map (fun emission => emission.data.name) =
          if lastEmitted order data before = some name then [] else [name]

/-- What the lookup of a fix comes to: a place without a name, and no place at all, are
both taken for work. -/
def reported (found : Option String) : String :=
  match found with
  | some name => if name = "" then Data.WORK else name
  | none => Data.WORK

/-- The table, and what the lookup of the latest fix in it came to. -/
def lookUp (state : LocationTable × Option String) : Event → LocationTable × Option String
  | .setLoc call => (setLoc call state.1, state.2)
  | .checkLoc sample =>
      match data sample with
      | .ok (some (.gps gps)) =>
          (state.1, some (reported (getLoc order gps.longitude gps.latitude state.1)))
      | _ => state

def lastReported (events : List Event) : Option String :=
  (events.foldl (lookUp order data) (∅, none)).2

/-- The lookup names a place for every fix, the nameless place only where the region of work
is too, and never the place of the fix before. -/
def LooksUpNewPlace : List Event → Prop :=
  AtEachEvent fun before event => ∀ sample, event = .checkLoc sample →
    ∀ gps, data sample = .ok (some (.gps gps)) →
      (∃ name, getLoc order gps.longitude gps.latitude (tableOf (calls before)) = some name ∧
        (name = "" → ∃ region, (tableOf (calls before)).lookup Data.WORK = some region ∧
          region.Contains gps.longitude gps.latitude)) ∧
      lastReported order data before ≠
        some (reported (getLoc order gps.longitude gps.latitude (tableOf (calls before))))

end Handlers

variable {data : Sample ℚ → Except RuntimeException (Option (SensorData ℚ))}

theorem tableOf_concat (events : List Event) (call : SetLoc) :
    tableOf (calls (events ++ [.setLoc call])) = setLoc call (tableOf (calls events)) := by
  simp [calls, tableOf]

theorem calls_concat_checkLoc (events : List Event) (sample : Sample ℚ) :
    calls (events ++ [.checkLoc sample]) = calls events := by
  simp [calls]

theorem foldl_lookUp_fst (events : List Event) :
    (events.foldl (lookUp order data) (∅, none)).1 = tableOf (calls events) := by
  induction events using List.reverseRecOn with
  | nil => rfl
  | append_singleton events event ih =>
      rw [List.foldl_append, List.foldl_cons, List.foldl_nil]
      cases event with
      | setLoc call => rw [lookUp, ih, tableOf_concat]
      | checkLoc sample =>
          rw [calls_concat_checkLoc, ← ih, lookUp]
          split
          · rfl
          · rfl

theorem lastReported_setLoc (events : List Event) (call : SetLoc) :
    lastReported order data (events ++ [.setLoc call]) = lastReported order data events := by
  simp [lastReported, lookUp]

theorem lastReported_checkLoc (events : List Event) {sample : Sample ℚ} {gps : GpsData ℚ}
    (hdata : data sample = .ok (some (.gps gps))) :
    lastReported order data (events ++ [.checkLoc sample]) =
      some (reported (getLoc order gps.longitude gps.latitude (tableOf (calls events)))) := by
  rw [lastReported, List.foldl_append, List.foldl_cons, List.foldl_nil, lookUp, hdata,
    foldl_lookUp_fst]

/-- As long as no name has been recorded, every fix is answered by what its lookup comes to. -/
theorem handle_checkLoc (order : IterationOrder String GeoRegion) {service : Service}
    (hlast : service.lastLocName = "") {sample : Sample ℚ} {gps : GpsData ℚ}
    (hdata : data sample = .ok (some (.gps gps))) :
    ∃ accuracy, handle order data service (.checkLoc sample) = .ok (service, [⟨accuracy, ID,
      ⟨reported (getLoc order gps.longitude gps.latitude service.locTable)⟩⟩]) := by
  simp only [handle, checkLoc, hdata, castGpsData, deref, bind, Except.bind, hlast]
  rcases getLoc order gps.longitude gps.latitude service.locTable with - | name
  · exact ⟨9 / 10, rfl⟩
  · rcases eq_or_ne name "" with rfl | hname
    · exact ⟨9 / 10, rfl⟩
    · refine ⟨sample.accuracy, ?_⟩
      simp [reported, hname, hname.symm, pure, Except.pure]

structure Explains (order : IterationOrder String GeoRegion)
    (data : Sample ℚ → Except RuntimeException (Option (SensorData ℚ)))
    (events : List Event) (service : Service) : Prop where
  locTable : service.locTable = tableOf (calls events)
  lastLocName : service.lastLocName = ""
  lastEmitted : lastEmitted order data events = lastReported order data events

def OnlyFixes (data : Sample ℚ → Except RuntimeException (Option (SensorData ℚ)))
    (events : List Event) : Prop :=
  ∀ sample, .checkLoc sample ∈ events → ∃ gps, data sample = .ok (some (.gps gps))

theorem run_explained (order : IterationOrder String GeoRegion) {events : List Event}
    (hfixes : OnlyFixes data events) :
    ∃ service, (machine order data).run events = .ok service ∧
      Explains order data events service := by
  refine Machine.ofHandler_history_of_forall
    (P := fun event => ∀ sample, .checkLoc sample = event →
      ∃ gps, data sample = .ok (some (.gps gps)))
    (R := Explains order data) ⟨rfl, rfl, rfl⟩ ?_ ?_
  · intro before service event hrun hexplains hfix
    cases event with
    | setLoc call =>
        have hok : handle order data service (.setLoc call) =
            .ok ({ service with locTable := setLoc call service.locTable }, []) := rfl
        refine ⟨_, _, hok, ?_, hexplains.lastLocName, ?_⟩
        · rw [tableOf_concat, ← hexplains.locTable]
        · rw [lastEmitted, Machine.outputs_concat, machine,
            Machine.ofHandler_emitAfter hrun hok, List.append_nil, lastReported_setLoc]
          exact hexplains.lastEmitted
    | checkLoc sample =>
        obtain ⟨gps, hdata⟩ := hfix sample rfl
        obtain ⟨accuracy, hok⟩ := handle_checkLoc order hexplains.lastLocName hdata
        refine ⟨_, _, hok, ?_, hexplains.lastLocName, ?_⟩
        · rw [calls_concat_checkLoc, hexplains.locTable]
        · have hemit := Machine.ofHandler_emitAfter hrun hok
          rw [lastEmitted, Machine.outputs_concat, machine, hemit, List.getLast?_concat,
            lastReported_checkLoc before hdata, hexplains.locTable]
          rfl
  · rintro event hevent sample rfl
    exact hfixes sample hevent

theorem emitAfter_checkLoc {before : List Event} (hfixes : OnlyFixes data before)
    {sample : Sample ℚ} {gps : GpsData ℚ} (hdata : data sample = .ok (some (.gps gps))) :
    ((machine order data).emitAfter before (.checkLoc sample)).map
        (fun emission => emission.data.name) =
      [reported (getLoc order gps.longitude gps.latitude (tableOf (calls before)))] := by
  obtain ⟨service, hrun, hexplains⟩ := run_explained order hfixes
  obtain ⟨accuracy, hok⟩ := handle_checkLoc order hexplains.lastLocName hdata
  have hemit := Machine.ofHandler_emitAfter hrun hok
  rw [machine, hemit, hexplains.locTable]
  rfl

theorem names_reported_iff (table : LocationTable) (gps : GpsData ℚ) :
    Names table gps (reported (getLoc order gps.longitude gps.latitude table)) ↔
      ∃ name, getLoc order gps.longitude gps.latitude table = some name ∧
        (name = "" → ∃ region, table.lookup Data.WORK = some region ∧
          region.Contains gps.longitude gps.latitude) := by
  have hwork : Names table gps Data.WORK ↔ ∃ region, table.lookup Data.WORK = some region ∧
      region.Contains gps.longitude gps.latitude := by
    rw [Names, or_iff_left]
    rintro ⟨hunknown, -⟩
    exact absurd hunknown (by decide)
  rcases hfound : getLoc order gps.longitude gps.latitude table with - | name
  · rw [reported, hwork]
    refine iff_of_false ?_ (by simp)
    rintro ⟨region, hlookup, hinside⟩
    have houtside := firstKey_eq_none_iff.mp hfound Data.WORK region hlookup
    simp [hinside] at houtside
  · rcases eq_or_ne name "" with rfl | hname
    · simp [reported, hwork]
    · obtain ⟨region, hlookup, hinside⟩ := firstKey_eq_some hfound
      refine iff_of_true ?_ ⟨name, rfl, fun hempty => absurd hempty hname⟩
      rw [reported, if_neg hname]
      exact .inl ⟨region, hlookup, of_decide_eq_true hinside⟩

/-- The names follow the fixes only where each lookup gives a place other than the one
before: the cab answers every fix and takes the lack of a place for work. -/
theorem tracks_location_iff (order : IterationOrder String GeoRegion) {events : List Event}
    (hfixes : OnlyFixes data events) :
    TracksLocation order data events ↔ LooksUpNewPlace order data events := by
  refine atEachEvent_congr ?_
  rintro before event after rfl
  refine forall₂_congr fun sample hevent => forall₂_congr fun gps hdata => ?_
  obtain rfl := hevent
  have hbefore : OnlyFixes data before :=
    fun other hother => hfixes other (List.mem_append_left _ hother)
  obtain ⟨service, -, hexplains⟩ := run_explained order hbefore
  rw [emitAfter_checkLoc hbefore hdata, hexplains.lastEmitted, ← names_reported_iff]
  constructor
  · rintro ⟨name, hnames, hsent⟩
    split at hsent
    · cases hsent
    · rename_i hother
      obtain rfl := List.singleton_inj.mp hsent
      exact ⟨hnames, hother⟩
  · rintro ⟨hnames, hother⟩
    exact ⟨_, hnames, (if_neg hother).symm⟩

def homeRegistered : Event := .setLoc ⟨-97, 30, Data.HOME⟩

theorem onlyFixes_parked {events : List Event}
    (hparked : ∀ event ∈ events, event = homeRegistered ∨ event = .checkLoc Familiarity.parkedGps) :
    OnlyFixes Familiarity.phoneData events := by
  intro sample hsample
  rcases hparked _ hsample with hother | hsame
  · cases hother
  · obtain rfl := Event.checkLoc.inj hsame
    exact ⟨_, rfl⟩

theorem tracks_first_fix :
    TracksLocation (storedOrder String GeoRegion) Familiarity.phoneData
        [homeRegistered, .checkLoc Familiarity.parkedGps] ↔
      LooksUpNewPlace (storedOrder String GeoRegion) Familiarity.phoneData
        [homeRegistered, .checkLoc Familiarity.parkedGps] :=
  tracks_location_iff _ (onlyFixes_parked (by simp))

/-- The second fix at home is answered by `HOME` again. -/
theorem repeats_home :
    ¬ TracksLocation (storedOrder String GeoRegion) Familiarity.phoneData
      [homeRegistered, .checkLoc Familiarity.parkedGps, .checkLoc Familiarity.parkedGps] := by
  intro h
  obtain ⟨name, -, hsent⟩ := h [homeRegistered, .checkLoc Familiarity.parkedGps]
    (.checkLoc Familiarity.parkedGps) [] rfl _ rfl _ rfl
  have hemitted : ((machine (storedOrder String GeoRegion) Familiarity.phoneData).emitAfter
      [homeRegistered, .checkLoc Familiarity.parkedGps] (.checkLoc Familiarity.parkedGps)).map
        (fun emission => emission.data.name) = [Data.HOME] := by
    decide +kernel
  have hlast : lastEmitted (storedOrder String GeoRegion) Familiarity.phoneData
      [homeRegistered, .checkLoc Familiarity.parkedGps] = some Data.HOME := by
    decide +kernel
  rw [hemitted, hlast] at hsent
  split at hsent
  · cases hsent
  · rename_i hother
    exact hother (congrArg some (List.singleton_inj.mp hsent))

def placeJson (name : String) : String := "\x7b\"name\":\"" ++ name ++ "\"\x7d"

/-- What Gson and json-simple do with the objects of the places that have a name. -/
def placeLibraries : JsonLibraries ℚ where
  toJson obj :=
    match obj.lookup "name" with
    | some (.string name) => placeJson name
    | _ => "\x7b\x7d"
  parse json :=
    ([Data.HOME, Data.WORK, Data.SCHOOL].find? fun name => placeJson name = json).map
      fun name => .object (stringField "name" name)

def placeSample (name : String) : Sample ℚ :=
  (ContextSample.build placeLibraries 1 ID (Data.toJson ⟨name⟩)).toSample

theorem wrapperOf_placeSample {name : String}
    (hparse : placeLibraries.parse (placeJson name) = some (.object (stringField "name" name))) :
    wrapperOf placeLibraries (placeSample name) = .ok (some ⟨some (stringField "name" name)⟩) := by
  apply wrapperOf_build
  simpa [placeLibraries, Data.toJson, stringField, ← AList.insert_empty] using hparse

end LSTAndroid.AbstractLocation
