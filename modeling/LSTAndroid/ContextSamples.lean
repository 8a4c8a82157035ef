import LSTAndroid.Library.HashTable
import LSTAndroid.Samples
import Mathlib.Algebra.Order.Ring.Rat

namespace LSTAndroid.ContextSamples

open LSTAndroid.Library.HashTable
open LSTAndroid.Samples

variable {D : Type}

/-- A value of a JSON object; the data classes of the cabs have strings and doubles. -/
inductive JsonValue (D : Type) where
  | string (value : String)
  | double (value : D)
  | other
  deriving DecidableEq

/-- A key whose value is `null` reads like one that is absent. -/
abbrev JSONObject (D : Type) := Table String (JsonValue D)

inductive Parsed (D : Type) where
  | null
  | object (fields : JSONObject D)
  | other

/-- Gson and json-simple; `parse` gives no result for a `ParseException`. -/
structure JsonLibraries (D : Type) where
  toJson : JSONObject D → String
  parse : String → Option (Parsed D)

structure JsonWrapper (D : Type) where
  data : Option (JSONObject D)

/-- A `Double`: where the object lies and the double in it. -/
structure BoxedDouble (D : Type) where
  address : ℕ
  value : D

namespace JsonWrapper

/-- The exception of a missing object is caught and answered by `null`. -/
def getWrap (wrapper : JsonWrapper D) (key : String) : Option (JsonValue D) :=
  wrapper.data.bind fun fields => fields.lookup key

def getString (wrapper : JsonWrapper D) (key : String) :
    Except RuntimeException (Option String) :=
  match wrapper.getWrap key with
  | none => .ok none
  | some (.string value) => .ok (some value)
  | some _ => .error .classCast

/-- `keyEquals` for a string. -/
def keyEquals (wrapper : JsonWrapper D) (key value : String) : Except RuntimeException Bool :=
  match wrapper.getWrap key with
  | none => .error .nullPointer
  | some (.string own) => .ok (own == value)
  | some _ => .ok false

/-- `keyEquals` for a string that may be `null`, which is equal to no field. -/
def keyEqualsString (wrapper : JsonWrapper D) (key : String) :
    Option String → Except RuntimeException Bool
  | some value => wrapper.keyEquals key value
  | none =>
      match wrapper.getWrap key with
      | none => .error .nullPointer
      | some _ => .ok false

def getDouble (wrapper : JsonWrapper D) (key : String) : Except RuntimeException D :=
  match wrapper.getWrap key with
  | none => .error .nullPointer
  | some (.double value) => .ok value
  | some _ => .error .classCast

/-- `keyEquals` for a `Double`, a comparison of references. -/
def keyEqualsDouble (wrapper : JsonWrapper D) (addressOf : String → ℕ) (key : String)
    (value : Option (BoxedDouble D)) : Except RuntimeException Bool :=
  .ok ((wrapper.getWrap key).map (fun _ => addressOf key) == value.map BoxedDouble.address)

end JsonWrapper

def stringField (key value : String) : JSONObject D :=
  AList.singleton key (.string value)

@[simp] theorem getWrap_stringField (key value : String) :
    (⟨some (stringField key value)⟩ : JsonWrapper D).getWrap key = some (.string value) := by
  simp [JsonWrapper.getWrap, stringField, ← AList.insert_empty]

@[simp] theorem getString_stringField (key value : String) :
    (⟨some (stringField key value)⟩ : JsonWrapper D).getString key = .ok (some value) := by
  simp [JsonWrapper.getString]

@[simp] theorem keyEquals_stringField (key value other : String) :
    (⟨some (stringField key value)⟩ : JsonWrapper D).keyEquals key other =
      .ok (value == other) := by
  simp [JsonWrapper.keyEquals]

structure ContextSample (D : Type) extends Sample D where
  data : Option (JsonWrapper D)
  isLoaded : Bool

namespace ContextSample

/-- `new ContextSample(accuracy, type, obj)`. -/
def build (libs : JsonLibraries D) (accuracy : D) (type : String) (obj : JSONObject D) :
    ContextSample D :=
  ⟨⟨accuracy, some type, some (libs.toJson obj)⟩, none, false⟩

/-- `new ContextSample(sample)`. -/
def ofSample (sample : Sample D) : ContextSample D :=
  ⟨sample, none, false⟩

/-- A `ParseException` leaves the sample as it was. -/
def loadData (libs : JsonLibraries D) (sample : ContextSample D) :
    Except RuntimeException (ContextSample D) :=
  match sample.jsonData with
  | none => .error .nullPointer
  | some json =>
      match libs.parse json with
      | none => .ok sample
      | some .null => .ok { sample with data := some ⟨none⟩, isLoaded := true }
      | some (.object fields) => .ok { sample with data := some ⟨some fields⟩, isLoaded := true }
      | some .other => .error .classCast

/-- The wrapper, with the sample as `dataJson` leaves it. -/
def dataJson (libs : JsonLibraries D) (sample : ContextSample D) :
    Except RuntimeException (Option (JsonWrapper D) × ContextSample D) := do
  let sample ← if sample.isLoaded then .ok sample else sample.loadData libs
  return (sample.data, sample)

end ContextSample

/-- `new ContextSample(sample).dataJson()`. -/
def wrapperOf (libs : JsonLibraries D) (sample : Sample D) :
    Except RuntimeException (Option (JsonWrapper D)) :=
  ((ContextSample.ofSample sample).dataJson libs).map Prod.fst

/-- A context sample whose JSON can be read back gives its fields to the cab that gets it. -/
theorem wrapperOf_build (libs : JsonLibraries D) (accuracy : D) (type : String)
    {obj : JSONObject D} (hparse : libs.parse (libs.toJson obj) = some (.object obj)) :
    wrapperOf libs (ContextSample.build libs accuracy type obj).toSample =
      .ok (some ⟨some obj⟩) := by
  simp [wrapperOf, ContextSample.dataJson, ContextSample.ofSample, ContextSample.build,
    ContextSample.loadData, hparse, bind, Except.bind, pure, Except.pure, Except.map]

/-- `new ContextSample(accuracy, type, obj)` is sent as a sample, and its receiver wraps
it again. -/
def receivedWrapper (runtime : Runtime D) (libs : JsonLibraries D) (accuracy : D)
    (type : String) (obj : JSONObject D) :
    Except RuntimeException (Option (JsonWrapper D)) := do
  let sent := (ContextSample.build libs accuracy type obj).toSample
  let received ← Sample.ofParcel runtime (sent.writeToParcel runtime)
  wrapperOf libs received

/-- It returns, with the answer whether `P`. -/
def Answers (answer : Except RuntimeException Bool) (P : Prop) : Prop :=
  ∃ result, answer = .ok result ∧ (result = true ↔ P)

def HasString (obj : JSONObject D) (key : String) (value : Option String) : Prop :=
  ∃ v ∈ value, obj.lookup key = some (.string v)

def HasDouble (obj : JSONObject D) (key : String) (value : Option (BoxedDouble D)) : Prop :=
  ∃ v ∈ value, obj.lookup key = some (.double v.value)

/-- The parser has put no field into the object that `value` refers to. -/
def FreshlyBoxed (addressOf : String → ℕ) (value : Option (BoxedDouble D)) : Prop :=
  ∀ key, ∀ v ∈ value, addressOf key ≠ v.address

section Received

variable (runtime : Runtime D) (libs : JsonLibraries D) {accuracy : D} {obj : JSONObject D}

theorem receivedWrapper_eq (type : String)
    (hjson : libs.parse (libs.toJson obj) = some (.object obj))
    (hdouble : runtime.parseDouble (runtime.valueOfDouble accuracy) = .ok accuracy) :
    receivedWrapper runtime libs accuracy type obj = .ok (some ⟨some obj⟩) := by
  rw [receivedWrapper, ofParcel_writeToParcel runtime _ hdouble]
  exact wrapperOf_build libs accuracy type hjson

theorem answers_ok_iff (result : Bool) (P : Prop) :
    Answers (.ok result) P ↔ (result = true ↔ P) := by
  simp [Answers]

theorem not_answers_error (exception : RuntimeException) (P : Prop) :
    ¬ Answers (.error exception) P := by
  simp [Answers]

@[simp] theorem getWrap_obj (obj : JSONObject D) (key : String) :
    (⟨some obj⟩ : JsonWrapper D).getWrap key = obj.lookup key :=
  rfl

theorem keyEqualsString_answers_iff (obj : JSONObject D) (key : String)
    (value : Option String) :
    Answers ((⟨some obj⟩ : JsonWrapper D).keyEqualsString key value) (HasString obj key value) ↔
      obj.lookup key ≠ none := by
  rcases hlookup : obj.lookup key with - | field
  · cases value with
    | none => simp [JsonWrapper.keyEqualsString, hlookup, not_answers_error]
    | some v => simp [JsonWrapper.keyEqualsString, JsonWrapper.keyEquals, hlookup,
        not_answers_error]
  · refine iff_of_true ?_ (Option.some_ne_none field)
    cases value with
    | none => simp [JsonWrapper.keyEqualsString, hlookup, answers_ok_iff, HasString]
    | some v =>
        cases field <;>
          simp [JsonWrapper.keyEqualsString, JsonWrapper.keyEquals, hlookup, answers_ok_iff,
            HasString]

theorem keyEqualsDouble_eq {addressOf : String → ℕ} {value : Option (BoxedDouble D)}
    (hfresh : FreshlyBoxed addressOf value) (obj : JSONObject D) (key : String) :
    (⟨some obj⟩ : JsonWrapper D).keyEqualsDouble addressOf key value =
      .ok ((obj.lookup key).isNone && value.isNone) := by
  rcases hlookup : obj.lookup key with - | field
  · cases value <;> simp [JsonWrapper.keyEqualsDouble, hlookup]
  · cases value with
    | none => simp [JsonWrapper.keyEqualsDouble, hlookup]
    | some v => simp [JsonWrapper.keyEqualsDouble, hlookup, hfresh key v rfl]

theorem keyEqualsDouble_answers_iff {addressOf : String → ℕ} {value : Option (BoxedDouble D)}
    (hfresh : FreshlyBoxed addressOf value) (obj : JSONObject D) (key : String) :
    Answers ((⟨some obj⟩ : JsonWrapper D).keyEqualsDouble addressOf key value)
        (HasDouble obj key value) ↔
      ¬ HasDouble obj key value ∧ (obj.lookup key ≠ none ∨ value ≠ none) := by
  rw [keyEqualsDouble_eq hfresh, answers_ok_iff]
  have hnull : ((obj.lookup key).isNone && value.isNone) = true ↔
      ¬ (obj.lookup key ≠ none ∨ value ≠ none) := by
    simp
  rw [hnull]
  constructor
  · intro hanswer
    have hsome : obj.lookup key ≠ none ∨ value ≠ none := by
      by_contra hnone
      obtain ⟨v, hv, -⟩ := hanswer.mp hnone
      exact hnone (.inr (Option.ne_none_iff_exists'.mpr ⟨v, hv⟩))
    exact ⟨fun hdouble => hanswer.mpr hdouble hsome, hsome⟩
  · rintro ⟨hdouble, hsome⟩
    exact iff_of_false (not_not.mpr hsome) hdouble

theorem getString_obj {key value : String} (h : obj.lookup key = some (.string value)) :
    (⟨some obj⟩ : JsonWrapper D).getString key = .ok (some value) := by
  simp [JsonWrapper.getString, h]

theorem getDouble_obj {key : String} {value : D} (h : obj.lookup key = some (.double value)) :
    (⟨some obj⟩ : JsonWrapper D).getDouble key = .ok value := by
  simp [JsonWrapper.getDouble, h]

/-- The string overload is right where the object has the field. The overload for doubles
is right except for a double that the field does equal, and for `null` where there is no
field. -/
theorem keyEquals_answers_iff (type : String)
    (hjson : libs.parse (libs.toJson obj) = some (.object obj))
    (hdouble : runtime.parseDouble (runtime.valueOfDouble accuracy) = .ok accuracy) :
    ∃ wrapper, receivedWrapper runtime libs accuracy type obj = .ok (some wrapper) ∧ ∀ key,
      (∀ value, Answers (wrapper.keyEqualsString key value) (HasString obj key value) ↔
        obj.lookup key ≠ none) ∧
      (∀ addressOf value, FreshlyBoxed addressOf value →
        (Answers (wrapper.keyEqualsDouble addressOf key value) (HasDouble obj key value) ↔
          ¬ HasDouble obj key value ∧ (obj.lookup key ≠ none ∨ value ≠ none))) ∧
      (∀ value, obj.lookup key = some (.string value) →
        wrapper.getString key = .ok (some value)) ∧
      (∀ value, obj.lookup key = some (.double value) → wrapper.getDouble key = .ok value) :=
  ⟨⟨some obj⟩, receivedWrapper_eq runtime libs type hjson hdouble, fun key =>
    ⟨keyEqualsString_answers_iff obj key,
      fun _ _ hfresh => keyEqualsDouble_answers_iff hfresh obj key,
      fun _ hstring => getString_obj hstring, fun _ hdouble => getDouble_obj hdouble⟩⟩

end Received

/-- The data of a familiarity sample, `new Familiarity.Data(0.75)`. -/
def familiarity : JSONObject ℚ :=
  AList.singleton "familiarity" (.double (3 / 4))

theorem lookup_familiarity (key : String) :
    familiarity.lookup key = if key = "familiarity" then some (.double (3 / 4)) else none := by
  by_cases hkey : key = "familiarity"
  · rw [familiarity, ← AList.insert_empty, hkey, AList.lookup_insert, if_pos rfl]
  · rw [familiarity, ← AList.insert_empty, AList.lookup_insert_ne hkey, if_neg hkey]
    rfl

def familiarityJson : String :=
  "\x7b\"familiarity\":0.75\x7d"

def familiarityLibraries : JsonLibraries ℚ where
  toJson _ := familiarityJson
  parse text := if text = familiarityJson then some (.object familiarity) else none

theorem parse_familiarity :
    familiarityLibraries.parse (familiarityLibraries.toJson familiarity) =
      some (.object familiarity) := by
  simp [familiarityLibraries]

/-- Where the parser puts the one value, when the objects below are taken. -/
def firstFree (_ : String) : ℕ := 1

theorem freshlyBoxed_firstFree (value : ℚ) : FreshlyBoxed firstFree (some ⟨0, value⟩) := by
  simp [FreshlyBoxed, firstFree]

theorem phoneRuntime_accuracy :
    phoneRuntime.parseDouble (phoneRuntime.valueOfDouble (4 / 5)) = .ok (4 / 5) := by
  simp [phoneRuntime]

theorem familiarity_answers :
    ∃ wrapper, receivedWrapper phoneRuntime familiarityLibraries (4 / 5) "familiarity"
        familiarity = .ok (some wrapper) ∧
      wrapper.getDouble "familiarity" = .ok (3 / 4) ∧
      Answers (wrapper.keyEqualsString "familiarity" (some "high"))
        (HasString familiarity "familiarity" (some "high")) ∧
      Answers (wrapper.keyEqualsDouble firstFree "familiarity" (some ⟨0, 0⟩))
        (HasDouble familiarity "familiarity" (some ⟨0, 0⟩)) := by
  obtain ⟨wrapper, hwrapper, hkeys⟩ :=
    keyEquals_answers_iff phoneRuntime familiarityLibraries "familiarity" parse_familiarity
      phoneRuntime_accuracy
  obtain ⟨hstring, hdouble, -, hgetDouble⟩ := hkeys "familiarity"
  refine ⟨wrapper, hwrapper, hgetDouble _ (by simp [lookup_familiarity]),
    (hstring _).mpr (by simp [lookup_familiarity]),
    (hdouble _ _ (freshlyBoxed_firstFree _)).mpr ⟨?_, .inr (Option.some_ne_none _)⟩⟩
  simp [HasDouble, lookup_familiarity]

/-- Asked for a field that it does not have, the wrapper throws; asked for its own double,
it says no. -/
theorem familiarity_answers_wrong :
    familiarityLibraries.parse (familiarityLibraries.toJson familiarity) =
        some (.object familiarity) ∧
      phoneRuntime.parseDouble (phoneRuntime.valueOfDouble (4 / 5)) = .ok (4 / 5) ∧
      FreshlyBoxed firstFree (some (⟨0, 3 / 4⟩ : BoxedDouble ℚ)) ∧
      ∃ wrapper, receivedWrapper phoneRuntime familiarityLibraries (4 / 5) "familiarity"
          familiarity = .ok (some wrapper) ∧
        wrapper.keyEqualsString "value" (some "Family") = .error .nullPointer ∧
        wrapper.keyEqualsDouble firstFree "familiarity" (some ⟨0, 3 / 4⟩) = .ok false ∧
        HasDouble familiarity "familiarity" (some ⟨0, 3 / 4⟩) := by
  refine ⟨parse_familiarity, phoneRuntime_accuracy, freshlyBoxed_firstFree _,
    ⟨some familiarity⟩, receivedWrapper_eq phoneRuntime familiarityLibraries "familiarity"
      parse_familiarity phoneRuntime_accuracy, ?_, ?_, ?_⟩
  · simp [JsonWrapper.keyEqualsString, JsonWrapper.keyEquals, lookup_familiarity]
  · rw [keyEqualsDouble_eq (freshlyBoxed_firstFree _)]
    simp
  · simp [HasDouble, lookup_familiarity]

/-- A sample that a cab passes to `onNext`, with the object of its class `Data`. -/
structure Emission (Data : Type) where
  accuracy : ℚ
  type : String
  data : Data
  deriving DecidableEq

end LSTAndroid.ContextSamples
