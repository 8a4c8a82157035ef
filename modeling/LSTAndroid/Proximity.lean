import LSTAndroid.ContextSamples
import LSTAndroid.Familiarity
import Mathlib.Data.List.Forall2
import Mathlib.Data.List.MinMax

namespace LSTAndroid.Proximity

open LSTAndroid.Library.EventMachine
open LSTAndroid.Library.HashTable
open LSTAndroid.Samples
open LSTAndroid.ContextSamples (Emission)
open LSTAndroid.Familiarity (deref deref_eq_ok)

structure Data where
  value : String
  deriving DecidableEq

def Data.FRIENDS : String := "FRIENDS"

def Data.FAMILY : String := "FAMILY"

def Data.COWORKERS : String := "COWORKERS"

def ID : String := "com.ut.mpc.contextengine.cabs.proximity"

/-- Keys and values may be null. -/
abbrev DeviceHistory := Table (Option String) (Option String)

def knownDevices : List (String × String) :=
  [("923jlkaj093jglkaj", Data.FRIENDS), ("9355vcv23jl3glaaf", Data.FRIENDS),
    ("alkjv903jaklj903j", Data.FAMILY), ("a320029fj09j90jff", Data.COWORKERS)]

def putKnownDevices (history : DeviceHistory) : DeviceHistory :=
  knownDevices.foldl (fun history device => history.insert (some device.1) (some device.2)) history

/-- The field is null until someone assigns it. -/
def init (deviceHistory : Option DeviceHistory) : Except RuntimeException DeviceHistory := do
  return putKnownDevices (← deref deviceHistory)

variable {D : Type}

def castBluetoothData :
    Option (SensorData D) → Except RuntimeException (Option BluetoothData)
  | none => .ok none
  | some (.bluetooth data) => .ok (some data)
  | some _ => .error .classCast

structure Counts where
  friendsCount : ℕ
  familyCount : ℕ
  coworkersCount : ℕ

def Counts.zero : Counts := ⟨0, 0, 0⟩

def Counts.add (counts : Counts) (value : String) : Counts where
  friendsCount := counts.friendsCount + if value = Data.FRIENDS then 1 else 0
  familyCount := counts.familyCount + if value = Data.FAMILY then 1 else 0
  coworkersCount := counts.coworkersCount + if value = Data.COWORKERS then 1 else 0

def Counts.category (counts : Counts) : String :=
  if counts.familyCount ≥ counts.friendsCount ∧ counts.familyCount ≥ counts.coworkersCount then
    Data.FAMILY
  else if counts.friendsCount ≥ counts.familyCount ∧
      counts.friendsCount ≥ counts.coworkersCount then
    Data.FRIENDS
  else Data.COWORKERS

section Handlers

-- `data` stands for the method `data()` of the sensor samples.
variable (data : Sample D → Except RuntimeException (Option (SensorData D)))
variable (deviceHistory : Option DeviceHistory)

/-- One round of the loop; `value.equals` fails on the null of an unknown device. -/
def countSample (counts : Counts) (sample : Sample D) : Except RuntimeException Counts := do
  let bluetoothData ← deref (← castBluetoothData (← data sample))
  let value ← deref ((← deref deviceHistory).lookup bluetoothData.bt_address).join
  return counts.add value

def checkProximity (bluetoothSamples : List (Sample D)) :
    Except RuntimeException (List (Emission Data)) := do
  let counts ← bluetoothSamples.foldlM (countSample data deviceHistory) .zero
  return [⟨1, ID, ⟨counts.category⟩⟩]

end Handlers

/-- Strongest first. -/
def categories : List String := [Data.FAMILY, Data.FRIENDS, Data.COWORKERS]

/-- The first category of those with the most devices, unless none has any. -/
def strongest (count : String → ℕ) : Option String :=
  (categories.argmax count).filter fun category => 0 < count category

theorem strongest_eq_some_iff {count : String → ℕ} {category : String} :
    strongest count = some category ↔
      category ∈ categories ∧ 0 < count category ∧
        (∀ other ∈ categories, count other ≤ count category) ∧
        ∀ other ∈ categories, count category ≤ count other →
          categories.idxOf category ≤ categories.idxOf other := by
  rw [strongest, Option.filter_eq_some_iff, List.argmax_eq_some_iff, decide_eq_true_eq]
  tauto

theorem strongest_eq_none_iff {count : String → ℕ} :
    strongest count = none ↔ ∀ category ∈ categories, count category = 0 := by
  rw [strongest, Option.filter_eq_none_iff]
  constructor
  · intro hnone category hcategory
    obtain ⟨first, hfirst⟩ := Option.ne_none_iff_exists'.mp
      (mt List.argmax_eq_none.mp (List.ne_nil_of_mem hcategory) : categories.argmax count ≠ none)
    have hle := List.le_of_mem_argmax hcategory hfirst
    have hzero := hnone first hfirst
    rw [decide_eq_true_eq] at hzero
    omega
  · intro hzero category hcategory
    rw [hzero category (List.argmax_mem hcategory)]
    decide

theorem argmax_three {A : Type} (count : A → ℕ) (a b c : A) :
    [a, b, c].argmax count = some
      (if count a ≥ count b ∧ count a ≥ count c then a
      else if count b ≥ count a ∧ count b ≥ count c then b
      else c) := by
  simp only [List.argmax, List.foldl_cons, List.foldl_nil, List.argAux]
  rcases lt_or_ge (count a) (count b) with hab | hba
  · rw [if_pos hab, if_neg (by omega)]
    rcases lt_or_ge (count b) (count c) with hbc | hcb
    · rw [if_neg (by omega)]
      simp [hbc]
    · rw [if_pos (by omega)]
      simp [hcb]
  · rw [if_neg (by omega)]
    rcases lt_or_ge (count a) (count c) with hac | hca
    · rw [if_neg (by omega), if_neg (by omega)]
      simp [hac]
    · rw [if_pos (by omega)]
      simp [hca]

def Decodes (data : Sample D → Except RuntimeException (Option (SensorData D)))
    (samples : List (Sample D)) (addresses : List (Option String)) : Prop :=
  List.Forall₂ (fun sample address => data sample = .ok (some (.bluetooth ⟨address⟩)))
    samples addresses

def countOf (history : DeviceHistory) (addresses : List (Option String)) (category : String) : ℕ :=
  addresses.countP fun address => history.lookup address = some (some category)

def Known (history : DeviceHistory) (address : Option String) : Prop :=
  ∃ value, history.lookup address = some (some value)

def Counts.addAll (counts : Counts) (count : String → ℕ) : Counts where
  friendsCount := counts.friendsCount + count Data.FRIENDS
  familyCount := counts.familyCount + count Data.FAMILY
  coworkersCount := counts.coworkersCount + count Data.COWORKERS

variable {data : Sample D → Except RuntimeException (Option (SensorData D))}
variable {history : DeviceHistory} {samples : List (Sample D)} {addresses : List (Option String)}

theorem countSample_eq {sample : Sample D} {address : Option String}
    (hdata : data sample = .ok (some (.bluetooth ⟨address⟩))) (counts : Counts) :
    countSample data (some history) counts sample =
      (deref (history.lookup address).join).map counts.add := by
  simp only [countSample, hdata, castBluetoothData, deref, bind, Except.bind]
  rcases (history.lookup address).join with - | value
  · rfl
  · rfl

theorem countOf_cons {address : Option String} {value : String}
    (hvalue : history.lookup address = some (some value)) (category : String) :
    countOf history (address :: addresses) category =
      (if value = category then 1 else 0) + countOf history addresses category := by
  simp [countOf, List.countP_cons, hvalue, add_comm]

theorem addAll_countOf_cons {address : Option String} {value : String}
    (hvalue : history.lookup address = some (some value)) (counts : Counts) :
    (counts.add value).addAll (countOf history addresses) =
      counts.addAll (countOf history (address :: addresses)) := by
  simp only [Counts.addAll, Counts.add, countOf_cons hvalue, add_assoc]

/-- The loop goes through exactly when all devices are known, and then it has counted
them. -/
theorem foldlM_countSample_iff (hdecodes : Decodes data samples addresses)
    (counts result : Counts) :
    samples.foldlM (countSample data (some history)) counts = .ok result ↔
      (∀ address ∈ addresses, Known history address) ∧
        result = counts.addAll (countOf history addresses) := by
  induction hdecodes generalizing counts with
  | nil =>
      have hnil : counts.addAll (countOf history []) = counts := rfl
      simp [hnil, pure, Except.pure, eq_comm]
  | @cons sample address samples addresses hdata hdecodes ih =>
      rw [List.foldlM_cons, bind_eq_ok_iff, countSample_eq hdata, List.forall_mem_cons]
      constructor
      · rintro ⟨next, hnext, hrest⟩
        obtain ⟨value, hderef, rfl⟩ := map_eq_ok_iff.mp hnext
        have hvalue := Option.join_eq_some_iff.mp (deref_eq_ok hderef)
        obtain ⟨hknown, rfl⟩ := (ih _).mp hrest
        exact ⟨⟨⟨value, hvalue⟩, hknown⟩, addAll_countOf_cons hvalue counts⟩
      · rintro ⟨⟨⟨value, hvalue⟩, hknown⟩, rfl⟩
        refine ⟨counts.add value, ?_,
          (ih _).mpr ⟨hknown, (addAll_countOf_cons hvalue counts).symm⟩⟩
        rw [hvalue]
        rfl

theorem argmax_eq_category (count : String → ℕ) :
    categories.argmax count = some (Counts.zero.addAll count).category := by
  simp only [categories, argmax_three, Counts.category, Counts.addAll, Counts.zero, zero_add]

theorem countOf_pos_iff {category : String} :
    0 < countOf history addresses category ↔
      ∃ address ∈ addresses, history.lookup address = some (some category) := by
  simp [countOf, List.countP_pos_iff]

/-- The cab sends the strongest category and, where there is none, nothing. -/
def ReportsStrongest (data : Sample D → Except RuntimeException (Option (SensorData D)))
    (history : DeviceHistory) (samples : List (Sample D)) (addresses : List (Option String)) :
    Prop :=
  ∃ sent, checkProximity data (some history) samples = .ok sent ∧
    sent.map (fun emission => emission.data.value) =
      (strongest (countOf history addresses)).toList

/-- The category is right exactly when all devices are known and some of them has one. -/
theorem reports_strongest_iff (history : DeviceHistory)
    (hdecodes : Decodes data samples addresses) :
    ReportsStrongest data history samples addresses ↔
      (∀ address ∈ addresses, Known history address) ∧
        ∃ address ∈ addresses, ∃ category ∈ categories,
          history.lookup address = some (some category) := by
  constructor
  · rintro ⟨sent, hsent, hvalues⟩
    obtain ⟨counts, hcounts, hsample⟩ := bind_eq_ok_iff.mp hsent
    obtain ⟨hknown, rfl⟩ := (foldlM_countSample_iff hdecodes _ _).mp hcounts
    obtain rfl := Except.ok.inj hsample
    refine ⟨hknown, ?_⟩
    by_contra hnone
    have hzero : strongest (countOf history addresses) = none := by
      rw [strongest_eq_none_iff]
      intro category hcategory
      by_contra hpos
      obtain ⟨address, haddress, hlookup⟩ := countOf_pos_iff.mp (Nat.pos_of_ne_zero hpos)
      exact hnone ⟨address, haddress, category, hcategory, hlookup⟩
    rw [hzero] at hvalues
    cases hvalues
  · rintro ⟨hknown, address, haddress, category, hcategory, hlookup⟩
    have hcounts := (foldlM_countSample_iff hdecodes .zero _).mpr ⟨hknown, rfl⟩
    refine ⟨_, bind_eq_ok_iff.mpr ⟨_, hcounts, rfl⟩, ?_⟩
    have hsome : strongest (countOf history addresses) ≠ none := by
      rw [Ne, strongest_eq_none_iff]
      intro hzero
      exact (countOf_pos_iff.mpr ⟨address, haddress, hlookup⟩).ne' (hzero category hcategory)
    obtain ⟨best, hbest⟩ := Option.ne_none_iff_exists'.mp hsome
    have hsame := (Option.filter_eq_some_iff.mp hbest).1
    rw [argmax_eq_category] at hsame
    rw [hbest, ← hsame]
    rfl

def bluetoothSample (json : String) : Sample ℚ := ⟨1, some "bluetooth", some json⟩

def friendSample : Sample ℚ := bluetoothSample "\x7b\"bt_address\":\"923jlkaj093jglkaj\"\x7d"

def strangerSample : Sample ℚ := bluetoothSample "\x7b\"bt_address\":\"stranger\"\x7d"

def nearbyData (sample : Sample ℚ) : Except RuntimeException (Option (SensorData ℚ)) :=
  if sample = friendSample then .ok (some (.bluetooth ⟨some "923jlkaj093jglkaj"⟩))
  else if sample = strangerSample then .ok (some (.bluetooth ⟨some "stranger"⟩))
  else .error .jsonSyntax

/-- The history that `init()` would build in an empty map. -/
def initialHistory : DeviceHistory := putKnownDevices ∅

theorem reports_friends :
    ReportsStrongest nearbyData initialHistory [friendSample, friendSample]
      [some "923jlkaj093jglkaj", some "923jlkaj093jglkaj"] := by
  have hlookup : initialHistory.lookup (some "923jlkaj093jglkaj") = some (some Data.FRIENDS) := by
    decide
  refine (reports_strongest_iff initialHistory (.cons rfl (.cons rfl .nil))).mpr ⟨?_, ?_⟩
  · simp only [List.forall_mem_cons]
    exact ⟨⟨_, hlookup⟩, ⟨_, hlookup⟩, by simp⟩
  · exact ⟨_, List.mem_cons_self, Data.FRIENDS, by decide, hlookup⟩

/-- A stranger among friends is an exception. -/
theorem fails_on_stranger :
    ¬ ReportsStrongest nearbyData initialHistory [friendSample, strangerSample]
      [some "923jlkaj093jglkaj", some "stranger"] := by
  have herror : checkProximity nearbyData (some initialHistory) [friendSample, strangerSample] =
      .error .nullPointer := by
    decide
  rintro ⟨sent, hsent, -⟩
  rw [herror] at hsent
  cases hsent

end LSTAndroid.Proximity
