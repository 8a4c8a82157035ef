import LSTAndroid.Familiarity
import Mathlib.Algebra.Order.Ring.Rat
import Mathlib.Tactic.NormNum

namespace LSTAndroid.IndexWindow

open LSTAndroid.Library.EventMachine
open LSTAndroid.SpaceTime
open LSTAndroid.TableStore
open LSTAndroid.LocationPoll
open LSTAndroid.Samples
open LSTAndroid.Familiarity

inductive Writer where
  | locationPoll
  | indexReceiver
  deriving DecidableEq

/-- The time column of a fix taken at wall-clock time `now` in milliseconds. -/
def Writer.stamp : Writer → ℤ → ℤ
  | .locationPoll, now => now
  | .indexReceiver, now => now.tdiv 1000

/-- The point that a writer records for a fix: `LocationPoll` in rtree mode, whatever
its smart insert keeps, or the receiver for an insert without a timestamp. -/
inductive Recorded (location : Location ℚ) (now : ℤ) : Writer → FullPoint ℚ → Prop
  | locationPoll {smartInsert : List (FullPoint ℚ) → FullPoint ℚ → Bool}
      {service after : LocationPoll.Service ℚ} {effects : List (Effect ℚ)} {point : FullPoint ℚ}
      (rtree : service.lstFilter = some (.onStructure (SQLiteRTree "RTreeMain") true))
      (handled : onLocationChanged { exactPlatform with smartInsert } location now service =
        .ok (after, effects))
      (inserted : .inserted "RTreeMain" point ∈ effects) :
      Recorded location now .locationPoll point
  | indexReceiver {extras : IndexExtras ℚ} {point : FullPoint ℚ}
      (longitude : extras.floats.lookup "longitude" = some location.longitude)
      (latitude : extras.floats.lookup "latitude" = some location.latitude)
      (timestamp : extras.floats.lookup "timestamp" = none)
      (insert : extras.command exactPlatform now = .insert point) :
      Recorded location now .indexReceiver point

/-- The intents that a check whose two samples are decoded sends at the time `now`. -/
inductive Requested (gpsData : GpsData ℚ) (now : ℤ) : IndexExtras ℚ → Prop
  | checkFamiliarity {data : Sample ℚ → Except RuntimeException (Option (SensorData ℚ))}
      {gpsSample applicationStateSample : Sample ℚ} {service after : Familiarity.Service}
      {outputs : List Output} {request : ℕ} {intent : IndexExtras ℚ}
      (gps : data gpsSample = .ok (some (.gps gpsData)))
      (checked : checkFamiliarity data exactPlatform gpsSample applicationStateSample now now
        service = .ok (after, outputs))
      (sent : .sendOrderedBroadcast request intent ∈ outputs) :
      Requested gpsData now intent

/-- At most an hour, and the margins of the cab, lie between a fix and a GPS sample. -/
structure Near (location : Location ℚ) (now : ℤ) (gpsData : GpsData ℚ) (clock : ℤ) : Prop where
  time : |clock - now| ≤ 3600 * 1000
  longitude : |gpsData.longitude - location.longitude| ≤ LONG_KM_EST * km_border
  latitude : |gpsData.latitude - location.latitude| ≤ LAT_KM_EST * km_border

/-- The region built for the request holds the recorded point exactly when it is near. -/
def Agrees (writer : Writer) (location : Location ℚ) (now : ℤ) (gpsData : GpsData ℚ)
    (clock : ℤ) : Prop :=
  ∀ point, Recorded location now writer point → ∀ intent, Requested gpsData clock intent →
    ∀ received region, intent.command exactPlatform received = .windowPoK region →
      (region.Contains point ↔ Near location now gpsData clock)

theorem recorded_eq {writer : Writer} {location : Location ℚ} {now : ℤ} {point : FullPoint ℚ}
    (h : Recorded location now writer point) :
    point = ⟨location.longitude, location.latitude, (writer.stamp now : ℚ)⟩ := by
  cases h with
  | locationPoll rtree handled inserted => exact onLocationChanged_inserted handled inserted
  | indexReceiver longitude latitude timestamp insert =>
      unfold IndexExtras.command at insert
      split at insert
      · rw [← IndexCommand.insert.inj insert]
        simp [IndexExtras.getFloat, longitude, latitude, timestamp, exactPlatform, Writer.stamp]
      split at insert
      · cases insert
      split at insert
      · cases insert
      · cases insert

theorem requested_eq {gpsData : GpsData ℚ} {now : ℤ} {intent : IndexExtras ℚ}
    (h : Requested gpsData now intent) : intent = windowIntent exactPlatform gpsData now now := by
  obtain ⟨gps, checked, sent⟩ := h
  unfold checkFamiliarity at checked
  obtain ⟨loaded, hloaded, checked⟩ := bind_eq_ok_iff.mp checked
  obtain ⟨cast, hcast, checked⟩ := bind_eq_ok_iff.mp checked
  obtain ⟨count, -, checked⟩ := bind_eq_ok_iff.mp checked
  obtain ⟨fix, hfix, checked⟩ := bind_eq_ok_iff.mp checked
  obtain ⟨-, rfl⟩ := Prod.mk.inj (Except.ok.inj checked)
  obtain rfl := Except.ok.inj (gps.symm.trans hloaded)
  obtain rfl := Except.ok.inj hcast
  obtain rfl := Except.ok.inj hfix
  exact (Output.sendOrderedBroadcast.inj (List.mem_singleton.mp sent)).2

def windowRegion (gpsData : GpsData ℚ) (clock : ℤ) : STRegion ℚ :=
  .box
    ⟨gpsData.longitude - LONG_KM_EST * km_border, gpsData.latitude - LAT_KM_EST * km_border,
      clock - time_border⟩
    ⟨gpsData.longitude + LONG_KM_EST * km_border, gpsData.latitude + LONG_KM_EST * km_border,
      clock + time_border⟩

theorem windowIntent_command (gpsData : GpsData ℚ) (clock received : ℤ) :
    (windowIntent exactPlatform gpsData clock clock).command exactPlatform received =
      .windowPoK (windowRegion gpsData clock) := by
  rfl

/-- An hour is 3600 in the window, and the latitude has the margin of the longitude to
the north. -/
theorem windowRegion_contains_iff (gpsData : GpsData ℚ) (location : Location ℚ)
    (clock stamp : ℤ) :
    (windowRegion gpsData clock).Contains ⟨location.longitude, location.latitude, stamp⟩ ↔
      |clock - stamp| ≤ 3600 ∧
        |gpsData.longitude - location.longitude| ≤ LONG_KM_EST * km_border ∧
        gpsData.latitude - location.latitude ≤ LAT_KM_EST * km_border ∧
        location.latitude - gpsData.latitude ≤ LONG_KM_EST * km_border := by
  have htime : |clock - stamp| ≤ 3600 ↔
      (clock : ℚ) - time_border ≤ stamp ∧ (stamp : ℚ) ≤ clock + time_border := by
    have hcast : |(clock : ℚ) - stamp| ≤ 3600 ↔ |clock - stamp| ≤ 3600 := by
      exact_mod_cast Iff.rfl
    rw [← hcast, abs_le, time_border]
    constructor
    · rintro ⟨hlate, hearly⟩
      constructor <;> linarith
    · rintro ⟨hearly, hlate⟩
      constructor <;> linarith
  rw [htime, abs_le, windowRegion, STRegion.box_contains_iff]
  constructor
  · intro hcontains
    obtain ⟨hwest, heast⟩ := hcontains .x
    obtain ⟨hsouth, hnorth⟩ := hcontains .y
    simp only [FullPoint.coord] at hwest heast hsouth hnorth
    refine ⟨hcontains .t, ⟨?_, ?_⟩, ?_, ?_⟩ <;> linarith
  · rintro ⟨htime, ⟨heast, hwest⟩, hsouth, hnorth⟩ d
    cases d with
    | x => constructor <;> simp only [FullPoint.coord] <;> linarith
    | y => constructor <;> simp only [FullPoint.coord] <;> linarith
    | t => exact htime

/-- The service after `rtreeonload` on a fresh installation. -/
def rtreeMode : LocationPoll.Service ℚ :=
  match (machine exactPlatform).run [.onStartCommand "rtreeonload"] with
  | .ok service => service
  | .error _ => .fresh

theorem recorded_exists (writer : Writer) (location : Location ℚ) (now : ℤ) :
    Recorded location now writer
      ⟨location.longitude, location.latitude, (writer.stamp now : ℚ)⟩ := by
  cases writer with
  | locationPoll =>
      have hhandled : ∃ after, onLocationChanged exactPlatform location now rtreeMode =
          .ok (after, [.inserted "RTreeMain" (locationPoint exactPlatform location now)]) :=
        ⟨_, rfl⟩
      obtain ⟨after, hhandled⟩ := hhandled
      exact @Recorded.locationPoll location now exactPlatform.smartInsert rtreeMode after _ _ rfl
        hhandled (List.mem_singleton_self _)
  | indexReceiver =>
      exact @Recorded.indexReceiver location now ⟨"insert",
        [("longitude", location.longitude), ("latitude", location.latitude)]⟩ _ rfl rfl rfl rfl

theorem requested_exists (gpsData : GpsData ℚ) (now : ℤ) :
    Requested gpsData now (windowIntent exactPlatform gpsData now now) := by
  have hchecked : ∃ after, checkFamiliarity
      (fun sample => if sample.type = some "gps" then .ok (some (.gps gpsData))
        else .ok (some (.applicationStates ⟨now, some [], none, none⟩)))
      exactPlatform ⟨1, some "gps", none⟩ ⟨1, some "applicationStates", none⟩ now now
      Familiarity.Service.fresh =
        .ok (after, [.sendOrderedBroadcast 0 (windowIntent exactPlatform gpsData now now)]) :=
    ⟨_, rfl⟩
  obtain ⟨after, hchecked⟩ := hchecked
  exact .checkFamiliarity rfl hchecked (List.mem_singleton_self _)

theorem agrees_iff_contains (writer : Writer) (location : Location ℚ) (now : ℤ)
    (gpsData : GpsData ℚ) (clock : ℤ) :
    Agrees writer location now gpsData clock ↔
      ((windowRegion gpsData clock).Contains
          ⟨location.longitude, location.latitude, (writer.stamp now : ℚ)⟩ ↔
        Near location now gpsData clock) := by
  constructor
  · intro hagrees
    exact hagrees _ (recorded_exists writer location now) _ (requested_exists gpsData clock)
      clock _ (windowIntent_command gpsData clock clock)
  · intro hcontains point hpoint intent hintent received region hregion
    rw [requested_eq hintent, windowIntent_command] at hregion
    rw [recorded_eq hpoint, ← IndexCommand.windowPoK.inj hregion]
    exact hcontains

/-- Where writer and reader agree: no near fix has a stamp that the window, with its
hour of 3600, leaves out, and no fix whose stamp is inside is too far north or, taken in
seconds, too far away in time. -/
theorem agrees_iff (writer : Writer) (location : Location ℚ) (now : ℤ)
    (gpsData : GpsData ℚ) (clock : ℤ) :
    Agrees writer location now gpsData clock ↔
      (Near location now gpsData clock → |clock - writer.stamp now| ≤ 3600) ∧
      (|clock - writer.stamp now| ≤ 3600 →
        |gpsData.longitude - location.longitude| ≤ LONG_KM_EST * km_border →
          ¬ (LAT_KM_EST * km_border < location.latitude - gpsData.latitude ∧
            location.latitude - gpsData.latitude ≤ LONG_KM_EST * km_border)) ∧
      (|clock - writer.stamp now| ≤ 3600 →
        |gpsData.longitude - location.longitude| ≤ LONG_KM_EST * km_border →
          |gpsData.latitude - location.latitude| ≤ LAT_KM_EST * km_border →
            |clock - now| ≤ 3600 * 1000) := by
  have hmargins : LAT_KM_EST * km_border ≤ LONG_KM_EST * km_border := by
    norm_num [LAT_KM_EST, LONG_KM_EST, km_border]
  rw [agrees_iff_contains, windowRegion_contains_iff]
  constructor
  · intro hagrees
    refine ⟨fun hnear => (hagrees.mpr hnear).1, ?_, ?_⟩
    · rintro hstamp hlongitude ⟨hmargin, hnorth⟩
      have hsouth : gpsData.latitude - location.latitude ≤ LAT_KM_EST * km_border := by
        linarith [show (0 : ℚ) ≤ LAT_KM_EST * km_border by norm_num [LAT_KM_EST, km_border]]
      have hnear := hagrees.mp ⟨hstamp, hlongitude, hsouth, hnorth⟩
      have hlatitude := (abs_le.mp hnear.latitude).1
      linarith
    · intro hstamp hlongitude hlatitude
      obtain ⟨hnorth, hsouth⟩ := abs_le.mp hlatitude
      exact (hagrees.mp ⟨hstamp, hlongitude, hsouth, by linarith⟩).time
  · rintro ⟨hseconds, hlatitude, hhour⟩
    constructor
    · rintro ⟨hstamp, hlongitude, hsouth, hnorth⟩
      have hmargin : location.latitude - gpsData.latitude ≤ LAT_KM_EST * km_border := by
        by_contra hfar
        exact hlatitude hstamp hlongitude ⟨not_le.mp hfar, hnorth⟩
      have hclose : |gpsData.latitude - location.latitude| ≤ LAT_KM_EST * km_border :=
        abs_le.mpr ⟨by linarith, hsouth⟩
      exact ⟨hhour hstamp hlongitude hclose, hlongitude, hclose⟩
    · intro hnear
      obtain ⟨hnorth, hsouth⟩ := abs_le.mp hnear.latitude
      exact ⟨hseconds hnear, hnear.longitude, hsouth, by linarith⟩

/-- A fix, and the GPS sample of a check at the same place half an hour later. The two
times stay far apart when they are rounded to floats. -/
theorem fix_of_half_hour_missed :
    Near ⟨-97, 30⟩ 1449000000000 ⟨1449001800, 30, -97, 0, 0, 150, some "gps"⟩ 1449001800000 ∧
      ¬ Agrees .locationPoll ⟨-97, 30⟩ 1449000000000
        ⟨1449001800, 30, -97, 0, 0, 150, some "gps"⟩ 1449001800000 := by
  have hnear : Near ⟨-97, 30⟩ 1449000000000
      ⟨1449001800, 30, -97, 0, 0, 150, some "gps"⟩ 1449001800000 := by
    refine ⟨by decide, ?_, ?_⟩ <;> norm_num [LONG_KM_EST, LAT_KM_EST, km_border]
  refine ⟨hnear, ?_⟩
  rw [agrees_iff_contains, windowRegion_contains_iff]
  intro hagrees
  exact absurd (hagrees.mpr hnear).1 (by decide)

end LSTAndroid.IndexWindow
