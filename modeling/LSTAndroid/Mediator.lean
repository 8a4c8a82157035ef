import Mathlib.Data.Rat.Defs
import LSTAndroid.Samples

namespace LSTAndroid.Mediator

open LSTAndroid.Samples

inductive Extra (S : Type) where
  | string (value : Option String)
  | int (value : ℤ)
  | sample (value : Option S)
  deriving DecidableEq

/-- An intent with samples of type `S` among its extras, the latest put first. -/
structure Intent (S : Type) where
  action : Option String
  extras : List (String × Extra S)
  deriving DecidableEq

variable {S : Type}

namespace Intent

def ofAction (action : Option String) : Intent S :=
  ⟨action, []⟩

def putExtra (key : String) (extra : Extra S) (intent : Intent S) : Intent S :=
  { intent with extras := (key, extra) :: intent.extras }

def getStringExtra (intent : Intent S) (key : String) : Option String :=
  match intent.extras.lookup key with
  | some (.string value) => value
  | _ => none

def getIntExtra (intent : Intent S) (key : String) (default : ℤ) : ℤ :=
  match intent.extras.lookup key with
  | some (.int value) => value
  | _ => default

def getParcelableExtra (intent : Intent S) (key : String) : Option S :=
  match intent.extras.lookup key with
  | some (.sample value) => value
  | _ => none

@[simp] theorem action_putExtra (key : String) (extra : Extra S) (intent : Intent S) :
    (intent.putExtra key extra).action = intent.action := rfl

@[simp] theorem lookup_putExtra (key other : String) (extra : Extra S) (intent : Intent S) :
    (intent.putExtra key extra).extras.lookup other =
      if other = key then some extra else intent.extras.lookup other := by
  rcases eq_or_ne other key with rfl | h
  · simp [putExtra]
  · simp [putExtra, List.lookup_cons, h, beq_eq_false_iff_ne.mpr h]

end Intent

def CONTEXT_ENGINE : String := "com.ut.mpc.contextengine.CONTEXT_ENGINE"

namespace Actions

def CabPacoReg : String := "CabPacoReg"

def CabCabReg : String := "CabCabReg"

def PacoUpdate : String := "PacoUpdate"

def CabUpdate : String := "CabUpdate"

end Actions

inductive MediatorStream where
  | sensor (sensor : Sensor)
  | cab (filterTag : String)
  deriving DecidableEq

def MediatorStream.filterTag : MediatorStream → String
  | .sensor kind => kind.name
  | .cab tag => tag

structure PacoMediator where
  sensorSubs : List String
  cabSubs : List String
  deriving DecidableEq

namespace PacoMediator

def new : PacoMediator := ⟨[], []⟩

def sensorStream (sensor : Sensor) (mediator : PacoMediator) : PacoMediator :=
  { mediator with sensorSubs := mediator.sensorSubs ++ [sensor.name] }

def applicationStates : PacoMediator → PacoMediator := sensorStream .applicationStates

def gps : PacoMediator → PacoMediator := sensorStream .gps

def accelerometer : PacoMediator → PacoMediator := sensorStream .accelerometer

def bluetooth : PacoMediator → PacoMediator := sensorStream .bluetooth

def communication : PacoMediator → PacoMediator := sensorStream .communication

def cab (filterTag : String) (mediator : PacoMediator) : PacoMediator :=
  { mediator with cabSubs := mediator.cabSubs ++ [filterTag] }

def take : MediatorStream → PacoMediator → PacoMediator
  | .sensor .applicationStates => applicationStates
  | .sensor .gps => gps
  | .sensor .accelerometer => accelerometer
  | .sensor .bluetooth => bluetooth
  | .sensor .communication => communication
  | .cab filterTag => cab filterTag

theorem take_sensor (sensor : Sensor) : take (.sensor sensor) = sensorStream sensor := by
  cases sensor <;> rfl

def sensorKey (count : ℕ) : String := "sensor" ++ toString count

/-- One round of the loop of `submit` over `sensorSubs`, with its counter. -/
def putSensor (progress : Intent S × ℕ) (sens : String) : Intent S × ℕ :=
  (progress.1.putExtra (sensorKey progress.2) (.string (some sens)), progress.2 + 1)

def regHeader (cabId displayName : String) (mediator : PacoMediator) : Intent S :=
  (Intent.ofAction (some CONTEXT_ENGINE))
    |>.putExtra "action" (.string (some Actions.CabPacoReg))
    |>.putExtra "cabId" (.string (some cabId))
    |>.putExtra "displayName" (.string (some displayName))
    |>.putExtra "numSensors" (.int mediator.sensorSubs.length)

def regIntent (cabId displayName : String) (mediator : PacoMediator) : Intent S :=
  (mediator.sensorSubs.foldl putSensor (mediator.regHeader cabId displayName, 1)).1

def cabRegIntent (cabId displayName : String) (cab : String) : Intent S :=
  (Intent.ofAction (some cab))
    |>.putExtra "action" (.string (some Actions.CabCabReg))
    |>.putExtra "cabId" (.string (some cabId))
    |>.putExtra "displayName" (.string (some displayName))

/-- The broadcasts of `submit()`, in the order in which they are sent. -/
def submit (cabId displayName : String) (mediator : PacoMediator) : List (Intent S) :=
  mediator.regIntent cabId displayName ::
    mediator.cabSubs.map (cabRegIntent cabId displayName)

theorem sensorKey_injective : Function.Injective sensorKey := by
  intro a b h
  have hdigits : Nat.toDigits 10 a = Nat.toDigits 10 b := by
    rw [← Nat.toList_repr, ← Nat.toList_repr]
    exact congrArg String.toList ((String.append_right_inj "sensor").mp h)
  rw [← Nat.ofDigitChars_ten_toDigits (n := a), hdigits, Nat.ofDigitChars_ten_toDigits]

theorem ne_sensorKey {key : String} (h : key.toList.head? ≠ some 's') (count : ℕ) :
    key ≠ sensorKey count := by
  rintro rfl
  exact h (by simp [sensorKey])

theorem action_foldl_putSensor (sens : List String) (progress : Intent S × ℕ) :
    (sens.foldl putSensor progress).1.action = progress.1.action := by
  induction sens generalizing progress with
  | nil => rfl
  | cons first sens ih =>
      rw [List.foldl_cons, ih]
      rfl

theorem lookup_foldl_putSensor (sens : List String) (progress : Intent S × ℕ) (key : String)
    (h : ∀ i < sens.length, key ≠ sensorKey (progress.2 + i)) :
    (sens.foldl putSensor progress).1.extras.lookup key = progress.1.extras.lookup key := by
  induction sens generalizing progress with
  | nil => rfl
  | cons first sens ih =>
      have hfirst : key ≠ sensorKey progress.2 := h 0 (by simp)
      rw [List.foldl_cons, ih]
      · simp [putSensor, hfirst]
      · intro i hi
        rw [putSensor, Nat.add_assoc, Nat.add_comm 1 i]
        exact h (i + 1) (by simpa using hi)

theorem lookup_sensorKey_foldl_putSensor (sens : List String) (progress : Intent S × ℕ)
    (i : ℕ) (h : i < sens.length) :
    (sens.foldl putSensor progress).1.extras.lookup (sensorKey (progress.2 + i)) =
      some (.string (some sens[i])) := by
  induction sens generalizing progress i with
  | nil => simp at h
  | cons first sens ih =>
      rw [List.foldl_cons]
      cases i with
      | zero =>
          rw [lookup_foldl_putSensor]
          · simp [putSensor]
          · intro i _ heq
            have hcount := sensorKey_injective heq
            simp only [putSensor] at hcount
            omega
      | succ i =>
          have hnext := ih (putSensor progress first) i (by simpa using h)
          simpa [putSensor, Nat.add_assoc, Nat.add_comm 1 i] using hnext

section Fields

variable (cabId displayName : String) (mediator : PacoMediator)

theorem lookup_regIntent {key : String} (h : key.toList.head? ≠ some 's') :
    (mediator.regIntent cabId displayName : Intent S).extras.lookup key =
      if key = "numSensors" then some (.int mediator.sensorSubs.length)
      else if key = "displayName" then some (.string (some displayName))
      else if key = "cabId" then some (.string (some cabId))
      else if key = "action" then some (.string (some Actions.CabPacoReg))
      else none := by
  rw [regIntent, lookup_foldl_putSensor _ _ _ fun i _ => ne_sensorKey h _]
  simp [regHeader, Intent.ofAction]

@[simp] theorem regIntent_action :
    (mediator.regIntent cabId displayName : Intent S).action = some CONTEXT_ENGINE := by
  rw [regIntent, action_foldl_putSensor]
  rfl

@[simp] theorem regIntent_kind :
    (mediator.regIntent cabId displayName : Intent S).getStringExtra "action" =
      some Actions.CabPacoReg := by
  rw [Intent.getStringExtra, lookup_regIntent cabId displayName mediator (by decide)]
  simp

@[simp] theorem regIntent_cabId :
    (mediator.regIntent cabId displayName : Intent S).getStringExtra "cabId" = some cabId := by
  rw [Intent.getStringExtra, lookup_regIntent cabId displayName mediator (by decide)]
  simp

@[simp] theorem regIntent_displayName :
    (mediator.regIntent cabId displayName : Intent S).getStringExtra "displayName" =
      some displayName := by
  rw [Intent.getStringExtra, lookup_regIntent cabId displayName mediator (by decide)]
  simp

@[simp] theorem regIntent_numSensors :
    (mediator.regIntent cabId displayName : Intent S).getIntExtra "numSensors" 0 =
      mediator.sensorSubs.length := by
  rw [Intent.getIntExtra, lookup_regIntent cabId displayName mediator (by decide)]
  simp

theorem regIntent_sensor (i : ℕ) (h : i < mediator.sensorSubs.length) :
    (mediator.regIntent cabId displayName : Intent S).getStringExtra (sensorKey (i + 1)) =
      some mediator.sensorSubs[i] := by
  have hlookup := lookup_sensorKey_foldl_putSensor mediator.sensorSubs
    ((mediator.regHeader cabId displayName : Intent S), 1) i h
  rw [Intent.getStringExtra, regIntent, Nat.add_comm i 1, hlookup]

@[simp] theorem cabRegIntent_kind (cab : String) :
    (cabRegIntent cabId displayName cab : Intent S).getStringExtra "action" =
      some Actions.CabCabReg := by
  simp [cabRegIntent, Intent.getStringExtra]

@[simp] theorem cabRegIntent_cabId (cab : String) :
    (cabRegIntent cabId displayName cab : Intent S).getStringExtra "cabId" =
      some cabId := by
  simp [cabRegIntent, Intent.getStringExtra]

end Fields

end PacoMediator

end LSTAndroid.Mediator
