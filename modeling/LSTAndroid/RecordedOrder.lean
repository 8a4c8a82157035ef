import LSTAndroid.Library.SignificantBits
import LSTAndroid.LocationPoll
import Mathlib.Algebra.Order.Ring.Rat

namespace LSTAndroid.RecordedOrder

open LSTAndroid.Library.EventMachine
open LSTAndroid.Library.SignificantBits
open LSTAndroid.SpaceTime
open LSTAndroid.TableStore
open LSTAndroid.LocationPoll

variable {D : Type}

/-- The bits of the mantissa of a Java `float`, the leading one counted. -/
def floatBits : ℕ := 24

/-- The implicit conversion of a `long` to a `float`. -/
def floatOfLong (milliseconds : ℤ) : ℤ :=
  round floatBits milliseconds

def floatClock (platform : Platform D ℚ) : Platform D ℚ :=
  { platform with ofLong := fun milliseconds => (floatOfLong milliseconds : ℚ) }

/-- The time at which the event calls `onLocationChanged`, of the current instance or of a
destroyed one. -/
def Event.locationTime : Event D ℚ → Option ℤ
  | .callback (.onLocationChanged _ now) => some now
  | .ofDestroyed _ (.onLocationChanged _ now) => some now
  | _ => none

/-- The service has inserted `point` for a location that it handled at the time `now`. -/
def Records (platform : Platform D ℚ) (events : List (Event D ℚ)) (now : ℤ)
    (point : FullPoint ℚ) : Prop :=
  AtSomeEvent (fun before event => Event.locationTime event = some now ∧
    ∃ table, .inserted table point ∈ (machine platform).emitAfter before event) events

/-- Of two locations handled at least the requested interval apart, the earlier one gets
the earlier time. -/
def KeepsOrder (platform : Platform D ℚ) (events : List (Event D ℚ)) : Prop :=
  ∀ now later p q, Records platform events now p → Records platform events later q →
    now + 1000 ≤ later → p.t < q.t

theorem onDestroyed_inserted {platform : Platform D ℚ} {index : ℕ} {location : Location D}
    {now : ℤ} {service after : Service ℚ} {effects : List (Effect ℚ)} {table : String}
    {point : FullPoint ℚ}
    (h : onDestroyed index (onLocationChanged platform location now) service =
      .ok (after, effects))
    (hinserted : .inserted table point ∈ effects) :
    point = locationPoint platform location now := by
  unfold onDestroyed at h
  split at h
  · obtain ⟨-, rfl⟩ := Prod.mk.inj (Except.ok.inj h)
    cases hinserted
  · obtain ⟨⟨moved, sent⟩, hcall, h⟩ := bind_eq_ok_iff.mp h
    obtain ⟨-, rfl⟩ := Prod.mk.inj (Except.ok.inj h)
    exact onLocationChanged_inserted hcall hinserted

theorem handle_timestamp {platform : Platform D ℚ} {event : Event D ℚ} {now : ℤ}
    {service after : Service ℚ} {effects : List (Effect ℚ)} {table : String}
    {point : FullPoint ℚ} (htime : Event.locationTime event = some now)
    (h : handle platform event service = .ok (after, effects))
    (hinserted : .inserted table point ∈ effects) : point.t = platform.ofLong now := by
  unfold Event.locationTime at htime
  split at htime
  · rw [onLocationChanged_inserted h hinserted, Option.some.inj htime]
    rfl
  · rw [onDestroyed_inserted h hinserted, Option.some.inj htime]
    rfl
  · cases htime

theorem Records.timestamp {platform : Platform D ℚ} {events : List (Event D ℚ)} {now : ℤ}
    {point : FullPoint ℚ} (h : Records platform events now point) :
    point.t = platform.ofLong now := by
  obtain ⟨before, event, rest, -, htime, table, hemitted⟩ := h
  obtain ⟨service, hrun, hsound, -⟩ := run_sound platform before
  obtain ⟨after, effects, hok, -⟩ := handle_sound platform event hsound
  rw [machine, Machine.ofHandler_emitAfter hrun hok] at hemitted
  exact handle_timestamp htime hok hemitted

/-- Two stored times are in order exactly when a middle between two neighbouring floats
lies between the times of the clock. -/
theorem keeps_order_iff (platform : Platform D ℚ) (events : List (Event D ℚ)) :
    KeepsOrder (floatClock platform) events ↔
      ∀ now later, (∃ p, Records (floatClock platform) events now p) →
        (∃ q, Records (floatClock platform) events later q) → now + 1000 ≤ later →
          Separated floatBits now later := by
  have hstored : ∀ {now later : ℤ} {p q : FullPoint ℚ},
      Records (floatClock platform) events now p →
      Records (floatClock platform) events later q →
        (p.t < q.t ↔ Separated floatBits now later) := by
    intro now later p q hp hq
    rw [hp.timestamp, hq.timestamp, ← round_lt_iff (by decide)]
    exact Int.cast_lt
  constructor
  · rintro h now later ⟨p, hp⟩ ⟨q, hq⟩ hapart
    exact (hstored hp hq).mp (h now later p q hp hq hapart)
  · intro h now later p q hp hq hapart
    exact (hstored hp hq).mpr (h now later ⟨p, hp⟩ ⟨q, hq⟩ hapart)

def twoFixes : List (Event ℚ ℚ) :=
  [.onStartCommand "stdtableonload", .callback (.onLocationChanged ⟨-97, 30⟩ 1449000000000),
    .callback (.onLocationChanged ⟨-97, 30⟩ 1449000010000)]

theorem fixes_share_timestamp : ¬ KeepsOrder (floatClock exactPlatform) twoFixes := by
  intro horder
  have hfirst : Records (floatClock exactPlatform) twoFixes 1449000000000
      ⟨-97, 30, (floatOfLong 1449000000000 : ℤ)⟩ :=
    ⟨[.onStartCommand "stdtableonload"], _, [_], rfl, rfl, "SpatialTableMain",
      List.mem_singleton.mpr rfl⟩
  have hsecond : Records (floatClock exactPlatform) twoFixes 1449000010000
      ⟨-97, 30, (floatOfLong 1449000010000 : ℤ)⟩ :=
    ⟨[.onStartCommand "stdtableonload", .callback (.onLocationChanged ⟨-97, 30⟩ 1449000000000)], _,
      [], rfl, rfl, "SpatialTableMain", List.mem_singleton.mpr rfl⟩
  have hlt : ((floatOfLong 1449000000000 : ℤ) : ℚ) < (floatOfLong 1449000010000 : ℤ) :=
    horder 1449000000000 1449000010000 _ _ hfirst hsecond (by norm_num)
  exact absurd (Int.cast_lt.mp hlt) (by decide +kernel)

end LSTAndroid.RecordedOrder
