import Mathlib.Data.Rat.Defs

/-!
Sensor samples: the data classes of the sensors, and the way a sample takes from
the service that builds it through a `Parcel` to the cab that reads its data.
-/

namespace LSTAndroid.Samples

/-- The constants of `PacoConsts.Sensors`. -/
inductive Sensor where
  | gps
  | accelerometer
  | bluetooth
  | communication
  | applicationStates
  deriving DecidableEq

def Sensor.name : Sensor → String
  | .gps => "gps"
  | .accelerometer => "accelerometer"
  | .bluetooth => "bluetooth"
  | .communication => "communication"
  | .applicationStates => "applicationStates"

theorem Sensor.name_injective : Function.Injective Sensor.name := by
  intro a b h
  cases a <;> cases b <;> first | rfl | exact absurd h (by decide)

section Classes

/-- `D` stands for the finite doubles. -/
structure GpsData (D : Type) where
  timestamp : ℤ
  latitude : D
  longitude : D
  bearing : D
  speed : D
  altitude : D
  provider : Option String
  deriving DecidableEq

structure AccelerometerData (D : Type) where
  timestamp : ℤ
  xaxis : D
  yaxis : D
  zaxis : D
  deriving DecidableEq

structure BluetoothData where
  bt_address : Option String
  deriving DecidableEq

structure CommData where
  callTimestamps : Option (List (Option ℤ))
  callDurations : Option (List (Option ℤ))
  callTypes : Option (List (Option ℤ))
  messageTimestamps : Option (List (Option ℤ))
  messageTypes : Option (List (Option ℤ))
  deriving DecidableEq

structure ApplicationStateData where
  timestamp : ℤ
  appForegrounds : Option (List (Option String))
  appHistory : Option (List (Option String))
  appCrashes : Option (List (Option String))
  deriving DecidableEq

inductive SensorData (D : Type) where
  | gps (data : GpsData D)
  | accelerometer (data : AccelerometerData D)
  | bluetooth (data : BluetoothData)
  | communication (data : CommData)
  | applicationStates (data : ApplicationStateData)
  deriving DecidableEq

end Classes

variable {D : Type}

def SensorData.sensor : SensorData D → Sensor
  | .gps _ => .gps
  | .accelerometer _ => .accelerometer
  | .bluetooth _ => .bluetooth
  | .communication _ => .communication
  | .applicationStates _ => .applicationStates

inductive RuntimeException where
  | unknownSensorSampleType
  | nullPointer
  | numberFormat
  | badArrayLengths
  | jsonSyntax
  | classCast
  deriving DecidableEq

/-- Gson on the data classes, the class of `fromJson` being that of a sensor, and
the text of a double.  A JSON `null` is read as a null reference. -/
structure Runtime (D : Type) where
  toJson : SensorData D → Except RuntimeException String
  fromJson : Sensor → String → Except RuntimeException (Option (SensorData D))
  valueOfDouble : D → String
  parseDouble : String → Except RuntimeException D

structure Sample (D : Type) where
  accuracy : D
  type : Option String
  jsonData : Option String
  deriving DecidableEq

def Sample.isType (sample : Sample D) (type : String) : Except RuntimeException Bool :=
  match sample.type with
  | none => .error .nullPointer
  | some own => .ok (own == type)

/-- A `Parcel` that carries one string array. -/
abbrev Parcel := List (Option String)

def Sample.writeToParcel (runtime : Runtime D) (sample : Sample D) : Parcel :=
  [some (runtime.valueOfDouble sample.accuracy), sample.type, sample.jsonData]

/-- `Sample(Parcel)`, which reads into an array of length three. -/
def Sample.ofParcel (runtime : Runtime D) : Parcel → Except RuntimeException (Sample D)
  | [some accuracy, type, jsonData] => do
      return ⟨← runtime.parseDouble accuracy, type, jsonData⟩
  | [none, _, _] => .error .nullPointer
  | _ => .error .badArrayLengths

structure SensorSample (D : Type) extends Sample D where
  data : Option (SensorData D)
  isLoaded : Bool

namespace SensorSample

/-- `new SensorSample(accuracy, type, data)`. -/
def build (runtime : Runtime D) (accuracy : D) (type : String) (data : SensorData D) :
    Except RuntimeException (SensorSample D) := do
  let json ← runtime.toJson data
  return ⟨⟨accuracy, some type, some json⟩, none, false⟩

/-- `new SensorSample(sample)`. -/
def ofSample (sample : Sample D) : SensorSample D :=
  ⟨sample, none, false⟩

def loadData (runtime : Runtime D) (sample : SensorSample D) :
    Except RuntimeException (SensorSample D) :=
  match sample.type with
  | none => .error .nullPointer
  | some type =>
      if type = Sensor.gps.name then do
        let data ← match sample.jsonData with
          | none => .ok none
          | some json => runtime.fromJson .gps json
        return { sample with data, isLoaded := true }
      else .error .unknownSensorSampleType

/-- The method `data()`, with the sample as it leaves it. -/
def getData (runtime : Runtime D) (sample : SensorSample D) :
    Except RuntimeException (Option (SensorData D) × SensorSample D) := do
  let sample ← if sample.isLoaded then .ok sample else sample.loadData runtime
  return (sample.data, sample)

end SensorSample

def transport (runtime : Runtime D) (accuracy : D) (type : String) (data : SensorData D) :
    Except RuntimeException (SensorSample D) := do
  let sent ← SensorSample.build runtime accuracy type data
  let received ← Sample.ofParcel runtime (sent.writeToParcel runtime)
  return .ofSample received

/-- The receiver reads the accuracy, the type and an equal object. -/
def RoundTrips (runtime : Runtime D) (accuracy : D) (data : SensorData D) : Prop :=
  ∃ sample, transport runtime accuracy data.sensor.name data = .ok sample ∧
    sample.accuracy = accuracy ∧ sample.type = some data.sensor.name ∧
      ∃ after, sample.getData runtime = .ok (some data, after)

theorem ofParcel_writeToParcel (runtime : Runtime D) (sample : Sample D)
    (h : runtime.parseDouble (runtime.valueOfDouble sample.accuracy) = .ok sample.accuracy) :
    Sample.ofParcel runtime (sample.writeToParcel runtime) = .ok sample := by
  simp only [Sample.writeToParcel, Sample.ofParcel, h]
  rfl

theorem transport_eq_ok (runtime : Runtime D) {accuracy : D} (type : String)
    {data : SensorData D} {json : String} (hjson : runtime.toJson data = .ok json)
    (hdouble : runtime.parseDouble (runtime.valueOfDouble accuracy) = .ok accuracy) :
    transport runtime accuracy type data =
      .ok (.ofSample ⟨accuracy, some type, some json⟩) := by
  have hbuild : SensorSample.build runtime accuracy type data =
      .ok ⟨⟨accuracy, some type, some json⟩, none, false⟩ := by
    rw [SensorSample.build, hjson]
    rfl
  simp only [transport, hbuild, bind, Except.bind]
  rw [ofParcel_writeToParcel runtime _ hdouble]
  rfl

theorem getData_unknown_type (runtime : Runtime D) {sample : Sample D} {type : String}
    (htype : sample.type = some type) (hgps : type ≠ Sensor.gps.name) :
    (SensorSample.ofSample sample).getData runtime = .error .unknownSensorSampleType := by
  simp [SensorSample.getData, SensorSample.ofSample, SensorSample.loadData, htype, hgps,
    bind, Except.bind]

theorem not_roundTrips_of_ne_gps (runtime : Runtime D) {accuracy : D} {data : SensorData D}
    {json : String} (hjson : runtime.toJson data = .ok json)
    (hdouble : runtime.parseDouble (runtime.valueOfDouble accuracy) = .ok accuracy)
    (hgps : data.sensor ≠ .gps) : ¬ RoundTrips runtime accuracy data := by
  rintro ⟨sample, hsample, -, -, after, hdata⟩
  rw [transport_eq_ok runtime data.sensor.name hjson hdouble] at hsample
  obtain rfl := Except.ok.inj hsample
  rw [getData_unknown_type runtime rfl (Sensor.name_injective.ne hgps)] at hdata
  cases hdata

/-- Only GPS data comes back, although every cab reads its sensor's data this way. -/
theorem roundTrips_iff (runtime : Runtime D) (accuracy : D) (data : SensorData D)
    (hjson : ∃ json, runtime.toJson data = .ok json ∧
      runtime.fromJson data.sensor json = .ok (some data))
    (hdouble : runtime.parseDouble (runtime.valueOfDouble accuracy) = .ok accuracy) :
    RoundTrips runtime accuracy data ↔ data.sensor = .gps := by
  obtain ⟨json, hencode, hdecode⟩ := hjson
  constructor
  · intro hroundTrips
    by_contra hgps
    exact not_roundTrips_of_ne_gps runtime hencode hdouble hgps hroundTrips
  · intro hgps
    refine ⟨_, transport_eq_ok runtime data.sensor.name hencode hdouble, rfl, rfl,
      ⟨⟨accuracy, some data.sensor.name, some json⟩, some data, true⟩, ?_⟩
    rw [hgps] at hdecode
    simp [SensorSample.getData, SensorSample.ofSample, SensorSample.loadData, hgps, hdecode,
      bind, Except.bind, pure, Except.pure]

def parkedFix : SensorData ℚ :=
  .gps ⟨1449000000, 30, -97, 0, 0, 150, some "gps"⟩

def parkedFixJson : String :=
  "\x7b\"timestamp\":1449000000,\"latitude\":30.0,\"longitude\":-97.0," ++
    "\"bearing\":0.0,\"speed\":0.0,\"altitude\":150.0,\"provider\":\"gps\"\x7d"

def phoneOnTable : SensorData ℚ :=
  .accelerometer ⟨1449000000, 0, 0, 9⟩

def phoneOnTableJson : String :=
  "\x7b\"timestamp\":1449000000,\"xaxis\":0.0,\"yaxis\":0.0,\"zaxis\":9.0\x7d"

def phoneRuntime : Runtime ℚ where
  toJson data :=
    if data = parkedFix then .ok parkedFixJson
    else if data = phoneOnTable then .ok phoneOnTableJson
    else .error .jsonSyntax
  fromJson sensor json :=
    if sensor = .gps ∧ json = parkedFixJson then .ok (some parkedFix)
    else if sensor = .accelerometer ∧ json = phoneOnTableJson then .ok (some phoneOnTable)
    else .error .jsonSyntax
  valueOfDouble accuracy := if accuracy = 4 / 5 then "0.8" else "0.0"
  parseDouble text :=
    if text = "0.8" then .ok (4 / 5) else if text = "0.0" then .ok 0 else .error .numberFormat

theorem roundTrips_parkedFix : RoundTrips phoneRuntime (4 / 5) parkedFix :=
  (roundTrips_iff phoneRuntime (4 / 5) parkedFix ⟨parkedFixJson, rfl, rfl⟩
    (by simp [phoneRuntime])).mpr rfl

/-- An accelerometer sample arrives, and `data()` throws on it. -/
theorem accelerometer_not_roundTrips :
    (∃ json, phoneRuntime.toJson phoneOnTable = .ok json ∧
      phoneRuntime.fromJson phoneOnTable.sensor json = .ok (some phoneOnTable)) ∧
    phoneRuntime.parseDouble (phoneRuntime.valueOfDouble (4 / 5)) = .ok (4 / 5) ∧
    ¬ RoundTrips phoneRuntime (4 / 5) phoneOnTable := by
  have hencode : phoneRuntime.toJson phoneOnTable = .ok phoneOnTableJson := rfl
  have hdouble : phoneRuntime.parseDouble (phoneRuntime.valueOfDouble (4 / 5)) =
      .ok (4 / 5) := by
    simp [phoneRuntime]
  exact ⟨⟨phoneOnTableJson, hencode, rfl⟩, hdouble,
    not_roundTrips_of_ne_gps phoneRuntime hencode hdouble (by decide)⟩

end LSTAndroid.Samples
