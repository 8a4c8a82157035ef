import LSTAndroid.Library.EventMachine
import LSTAndroid.Registration

/-!
The service `PacoEngine`, which forwards sensor samples to the registered cabs.

Every start registers a new set of receivers and none is unregistered, and the
subscriptions tell two display names of one cab apart.  A sample is therefore
forwarded to a cab once for each start and each of its display names.
-/

namespace LSTAndroid.Engine

open LSTAndroid.Library.EventMachine
open LSTAndroid.Library.FirstOccurrences
open LSTAndroid.Samples
open LSTAndroid.Mediator
open LSTAndroid.Registration

variable {S : Type}

def sensorAction : Sensor → String
  | .gps => "sensors.gps"
  | .applicationStates => "sensors.appstate"
  | .accelerometer => "sensors.accel"
  | .bluetooth => "sensors.bluetooth"
  | .communication => "sensors.comm"

inductive EngineReceiver where
  | pacoReceiver
  | sensorReceiver (identifier : Sensor)
  deriving DecidableEq

/-- The engine with the receivers registered so far and their filter actions. -/
structure PacoEngine where
  cabSubs : CabSubscriptions
  receivers : List (String × EngineReceiver)

def PacoEngine.fresh : PacoEngine :=
  ⟨.empty, []⟩

def startReceivers : List (String × EngineReceiver) :=
  [(CONTEXT_ENGINE, .pacoReceiver),
    (sensorAction .gps, .sensorReceiver .gps),
    (sensorAction .applicationStates, .sensorReceiver .applicationStates),
    (sensorAction .accelerometer, .sensorReceiver .accelerometer),
    (sensorAction .bluetooth, .sensorReceiver .bluetooth),
    (sensorAction .communication, .sensorReceiver .communication)]

def onStartCommand (engine : PacoEngine) : PacoEngine :=
  { engine with receivers := engine.receivers ++ startReceivers }

def updateIntent (intent : Intent S) (cabIdentifier : CabIdentifier) : Intent S :=
  (Intent.ofAction cabIdentifier.cabId)
    |>.putExtra "action" (.string (some Actions.PacoUpdate))
    |>.putExtra "sample" (.sample (intent.getParcelableExtra "sample"))

/-- `onReceive` of either class of receivers, with the broadcasts it sends. -/
def EngineReceiver.onReceive (intent : Intent S) (engine : PacoEngine) :
    EngineReceiver → Except RuntimeException (PacoEngine × List (Intent S))
  | .pacoReceiver => do
      let cabSubs ← Registration.onReceive intent engine.cabSubs
      return ({ engine with cabSubs }, [])
  | .sensorReceiver identifier =>
      .ok (engine, (engine.cabSubs.get (some identifier.name)).map (updateIntent intent))

def PacoEngine.receiversOf (engine : PacoEngine) (action : Option String) :
    List EngineReceiver :=
  (engine.receivers.filter fun receiver => some receiver.1 = action).map Prod.snd

/-- The receivers of a broadcast handle it one after the other. -/
def deliverTo (intent : Intent S) (receivers : List EngineReceiver) (engine : PacoEngine) :
    Except RuntimeException (PacoEngine × List (Intent S)) :=
  Machine.handleAll (fun engine receiver => receiver.onReceive intent engine) receivers engine

def broadcast (intent : Intent S) (engine : PacoEngine) :
    Except RuntimeException (PacoEngine × List (Intent S)) :=
  deliverTo intent (engine.receiversOf intent.action) engine

inductive Event (S : Type) where
  | onStartCommand
  | cabPacoReg (submission : Submission)
  | sensorSample (sensor : Sensor) (sample : S)
  deriving DecidableEq

def sampleIntent (sensor : Sensor) (sample : S) : Intent S :=
  (Intent.ofAction (some (sensorAction sensor))).putExtra "sample" (.sample (some sample))

def handle (engine : PacoEngine) :
    Event S → Except RuntimeException (PacoEngine × List (Intent S))
  | .onStartCommand => .ok (onStartCommand engine, [])
  | .cabPacoReg submission =>
      broadcast (submission.mediator.regIntent submission.cabId submission.displayName) engine
  | .sensorSample sensor sample => broadcast (sampleIntent sensor sample) engine

def machine : Machine (Except RuntimeException PacoEngine) (Event S) (Intent S) :=
  .ofHandler .fresh handle

theorem receiversOf_starts (n : ℕ) (subs : CabSubscriptions) :
    (∀ sensor, (PacoEngine.mk subs (List.replicate n startReceivers).flatten).receiversOf
        (some (sensorAction sensor)) = List.replicate n (.sensorReceiver sensor)) ∧
      (PacoEngine.mk subs (List.replicate n startReceivers).flatten).receiversOf
        (some CONTEXT_ENGINE) = List.replicate n .pacoReceiver := by
  induction n with
  | zero => exact ⟨fun _ => rfl, rfl⟩
  | succ n ih =>
      obtain ⟨hsensor, hengine⟩ := ih
      simp only [PacoEngine.receiversOf] at hsensor hengine
      constructor
      · intro sensor
        rw [List.replicate_succ, List.flatten_cons, PacoEngine.receiversOf,
          List.filter_append, List.map_append, hsensor, List.replicate_succ]
        cases sensor <;> rfl
      · rw [List.replicate_succ, List.flatten_cons, PacoEngine.receiversOf,
          List.filter_append, List.map_append, hengine, List.replicate_succ]
        rfl

theorem deliverTo_sensorReceivers (intent : Intent S) (engine : PacoEngine) (sensor : Sensor)
    (n : ℕ) :
    deliverTo intent (List.replicate n (.sensorReceiver sensor)) engine =
      .ok (engine, (List.replicate n
        ((engine.cabSubs.get (some sensor.name)).map (updateIntent intent))).flatten) := by
  induction n with
  | zero => rfl
  | succ n ih => exact Machine.handleAll_cons_iff.mpr ⟨_, _, _, rfl, ih, rfl⟩

theorem deliverTo_pacoReceivers {intent : Intent S} (hintent : WellFormed intent)
    {engine : PacoEngine} {requests : List Request} (h : Records engine.cabSubs requests)
    (n : ℕ) :
    ∃ cabSubs, deliverTo intent (List.replicate n .pacoReceiver) engine =
        .ok ({ engine with cabSubs }, []) ∧
      Records cabSubs (if n = 0 then requests else requests ++ requestsOf intent) := by
  induction n generalizing engine requests with
  | zero => exact ⟨engine.cabSubs, rfl, by simpa using h⟩
  | succ n ih =>
      obtain ⟨next, hreceive, hnext⟩ := onReceive_records hintent h
      have hnext' : Records ({ engine with cabSubs := next } : PacoEngine).cabSubs
          (requests ++ requestsOf intent) := hnext
      obtain ⟨cabSubs, hrest, hafter⟩ := ih hnext'
      refine ⟨cabSubs, ?_, ?_⟩
      · have hfirst : EngineReceiver.onReceive intent engine .pacoReceiver =
            .ok ({ engine with cabSubs := next }, []) := by
          simp [EngineReceiver.onReceive, hreceive, bind, Except.bind, pure, Except.pure]
        exact Machine.handleAll_cons_iff.mpr ⟨_, _, _, hfirst, hrest, rfl⟩
      · rw [if_neg (Nat.succ_ne_zero n)]
        split at hafter
        · exact hafter
        · exact hafter.of_repeated fun request hrequest => List.mem_append_right _ hrequest

def Event.isStart : Event S → Bool
  | .onStartCommand => true
  | _ => false

def Event.submission : Event S → Option Submission
  | .cabPacoReg submission => some submission
  | _ => none

def starts (events : List (Event S)) : ℕ :=
  events.countP Event.isStart

/-- The registrations since the engine was first started; nobody receives an
earlier one. -/
def registrations : List (Event S) → List Submission
  | [] => []
  | .onStartCommand :: events => events.filterMap Event.submission
  | _ :: events => registrations events

def registeredFor (events : List (Event S)) (sensor : Sensor) : List Submission :=
  (registrations events).filter fun submission =>
    sensor.name ∈ submission.mediator.sensorSubs

@[simp] theorem starts_concat (events : List (Event S)) (event : Event S) :
    starts (events ++ [event]) = starts events + if event.isStart then 1 else 0 := by
  rw [starts, List.countP_append, List.countP_singleton, starts]

theorem registrations_concat (events : List (Event S)) (event : Event S) :
    registrations (events ++ [event]) =
      registrations events ++ if starts events = 0 then [] else event.submission.toList := by
  induction events with
  | nil => cases event <;> rfl
  | cons first events ih =>
      cases first with
      | onStartCommand =>
          have hstarts : starts (.onStartCommand :: events) ≠ 0 := by
            simp [starts, Event.isStart]
          rw [if_neg hstarts]
          simp only [List.cons_append, registrations, List.filterMap_append]
          cases event <;> rfl
      | cabPacoReg submission => exact ih
      | sensorSample sensor sample => exact ih

structure Explains (events : List (Event S)) (engine : PacoEngine) : Prop where
  receivers : engine.receivers = (List.replicate (starts events) startReceivers).flatten
  records : Records engine.cabSubs ((registrations events).flatMap Submission.requests)

theorem Explains.receiversOf_sensor {events : List (Event S)} {engine : PacoEngine}
    (h : Explains events engine) (sensor : Sensor) :
    engine.receiversOf (some (sensorAction sensor)) =
      List.replicate (starts events) (.sensorReceiver sensor) := by
  rcases engine with ⟨cabSubs, receivers⟩
  obtain rfl : receivers = _ := h.receivers
  exact (receiversOf_starts (starts events) cabSubs).1 sensor

theorem Explains.receiversOf_engine {events : List (Event S)} {engine : PacoEngine}
    (h : Explains events engine) :
    engine.receiversOf (some CONTEXT_ENGINE) =
      List.replicate (starts events) .pacoReceiver := by
  rcases engine with ⟨cabSubs, receivers⟩
  obtain rfl : receivers = _ := h.receivers
  exact (receiversOf_starts (starts events) cabSubs).2

theorem Explains.get_sensor {events : List (Event S)} {engine : PacoEngine}
    (h : Explains events engine) (sensor : Sensor) :
    engine.cabSubs.get (some sensor.name) =
      ((registeredFor events sensor).map Submission.identifier).eraseDups := by
  rw [h.records.get_eq, eraseDups_requests]
  rfl

theorem Explains.handle_sample {events : List (Event S)} {engine : PacoEngine}
    (h : Explains events engine) (sensor : Sensor) (sample : S) :
    handle engine (.sensorSample sensor sample) =
      .ok (engine, (List.replicate (starts events)
        (((registeredFor events sensor).map Submission.identifier).eraseDups.map
          (updateIntent (sampleIntent sensor sample)))).flatten) := by
  have hreceivers : engine.receiversOf (sampleIntent sensor sample : Intent S).action =
      List.replicate (starts events) (.sensorReceiver sensor) := h.receiversOf_sensor sensor
  rw [handle, broadcast, hreceivers, deliverTo_sensorReceivers, h.get_sensor]

theorem Explains.handle {events : List (Event S)} {engine : PacoEngine}
    (h : Explains events engine) (event : Event S) :
    ∃ after sent, handle engine event = .ok (after, sent) ∧
      Explains (events ++ [event]) after := by
  cases event with
  | onStartCommand =>
      refine ⟨onStartCommand engine, [], rfl, ?_, ?_⟩
      · rw [onStartCommand, h.receivers, starts_concat]
        simp [Event.isStart, List.replicate_succ']
      · rw [registrations_concat]
        simpa [Event.submission, onStartCommand] using h.records
  | cabPacoReg submission =>
      have hwell := submission.wellFormed_regIntent (S := S)
      obtain ⟨cabSubs, hdeliver, hrecords⟩ :=
        deliverTo_pacoReceivers hwell h.records (starts events)
      refine ⟨{ engine with cabSubs }, [], ?_, ?_, ?_⟩
      · rw [Engine.handle, broadcast, PacoMediator.regIntent_action, h.receiversOf_engine,
          hdeliver]
      · rw [starts_concat]
        exact h.receivers
      · rw [registrations_concat]
        by_cases hstarts : starts events = 0
        · simpa [hstarts] using hrecords
        · simpa [hstarts, Event.submission, Submission.requestsOf_regIntent] using hrecords
  | sensorSample sensor sample =>
      refine ⟨engine, _, h.handle_sample sensor sample, ?_, ?_⟩
      · rw [starts_concat]
        exact h.receivers
      · rw [registrations_concat]
        simpa [Event.submission] using h.records

theorem run_explained (events : List (Event S)) :
    ∃ engine, machine.run events = .ok engine ∧ Explains events engine := by
  refine Machine.ofHandler_history ⟨rfl, records_empty⟩ ?_ events
  intro before engine event h
  exact h.handle event

theorem emitAfter_sample (events : List (Event S)) (sensor : Sensor) (sample : S) :
    machine.emitAfter events (.sensorSample sensor sample) =
      (List.replicate (starts events)
        (((registeredFor events sensor).map Submission.identifier).eraseDups.map
          (updateIntent (sampleIntent sensor sample)))).flatten := by
  obtain ⟨engine, hrun, hexplains⟩ := run_explained events
  exact Machine.ofHandler_emitAfter hrun (hexplains.handle_sample sensor sample)

/-- One update to each cab registered for the sensor, and none to any other. -/
structure ForwardedOnce (events : List (Event S)) (sensor : Sensor) (sample : S)
    (sent : List (Intent S)) : Prop where
  copies : ∀ cabId : Option String,
    (sent.filter fun intent => intent.action = cabId).length =
      if cabId ∈ (registeredFor events sensor).map (some ·.cabId) then 1 else 0
  content : ∀ intent ∈ sent, intent.getStringExtra "action" = some Actions.PacoUpdate ∧
    intent.getParcelableExtra "sample" = some sample

def ForwardsExactlyOnce : List (Event S) → Prop :=
  AtEachEvent fun before event => ∀ sensor sample, event = .sensorSample sensor sample →
    ForwardedOnce before sensor sample (machine.emitAfter before event)

theorem length_filter_flatten_replicate {α : Type} (p : α → Bool) (items : List α) (n : ℕ) :
    ((List.replicate n items).flatten.filter p).length = n * (items.filter p).length := by
  induction n with
  | zero => simp
  | succ n ih =>
      rw [List.replicate_succ, List.flatten_cons, List.filter_append, List.length_append, ih,
        Nat.succ_mul, Nat.add_comm]

/-- A cab gets one copy for each start and each display name under which it
registered. -/
theorem copies_eq (events : List (Event S)) (sensor : Sensor) (sample : S)
    (cabId : Option String) :
    ((machine.emitAfter events (.sensorSample sensor sample)).filter
        fun intent => intent.action = cabId).length =
      starts events *
        (((registeredFor events sensor).map Submission.identifier).eraseDups.filter
          fun identifier => identifier.cabId = cabId).length := by
  rw [emitAfter_sample, length_filter_flatten_replicate, List.filter_map, List.length_map]
  rfl

theorem identifiers_eq_one_iff (events : List (Event S)) (sensor : Sensor) {first : Submission}
    (hfirst : first ∈ registeredFor events sensor) :
    (((registeredFor events sensor).map Submission.identifier).eraseDups.filter
        fun identifier => identifier.cabId = some first.cabId).length = 1 ↔
      ∀ second ∈ registeredFor events sensor,
        first.cabId = second.cabId → first.displayName = second.displayName := by
  have hnodup := nodup_eraseDups ((registeredFor events sensor).map Submission.identifier)
  have hmem : ∀ submission ∈ registeredFor events sensor, submission.identifier ∈
      ((registeredFor events sensor).map Submission.identifier).eraseDups := by
    intro submission hsubmission
    exact List.mem_eraseDups.mpr (List.mem_map_of_mem hsubmission)
  constructor
  · intro hone second hsecond hid
    have hunique :=
      (length_filter_le_one_iff CabIdentifier.cabId hnodup (some first.cabId)).mp hone.le
    have heq := hunique _ (hmem first hfirst) _ (hmem second hsecond) rfl
      (congrArg some hid.symm)
    simpa [Submission.identifier, CabIdentifier.ofNames, hid] using heq
  · intro hnames
    apply le_antisymm
    · rw [length_filter_le_one_iff CabIdentifier.cabId hnodup]
      intro a ha b hb hida hidb
      obtain ⟨one, hone, rfl⟩ := List.mem_map.mp (List.mem_eraseDups.mp ha)
      obtain ⟨two, htwo, rfl⟩ := List.mem_map.mp (List.mem_eraseDups.mp hb)
      have hidOne : first.cabId = one.cabId := (Option.some.inj hida).symm
      have hidTwo : first.cabId = two.cabId := (Option.some.inj hidb).symm
      simp only [Submission.identifier]
      rw [← hidOne, ← hidTwo, ← hnames one hone hidOne, ← hnames two htwo hidTwo]
    · apply List.length_pos_of_mem (a := first.identifier)
      exact List.mem_filter.mpr ⟨hmem first hfirst, by simp [Submission.identifier,
        CabIdentifier.ofNames]⟩

theorem forwardedOnce_iff (events : List (Event S)) (sensor : Sensor) (sample : S) :
    ForwardedOnce events sensor sample
        (machine.emitAfter events (.sensorSample sensor sample)) ↔
      ∀ first ∈ registeredFor events sensor, starts events = 1 ∧
        ∀ second ∈ registeredFor events sensor,
          first.cabId = second.cabId → first.displayName = second.displayName := by
  constructor
  · rintro ⟨hcopies, -⟩ first hfirst
    have hone := hcopies (some first.cabId)
    rw [copies_eq, if_pos (List.mem_map.mpr ⟨first, hfirst, rfl⟩)] at hone
    exact ⟨Nat.eq_one_of_mul_eq_one_right hone,
      (identifiers_eq_one_iff events sensor hfirst).mp (Nat.eq_one_of_mul_eq_one_left hone)⟩
  · intro hplain
    refine ⟨?_, ?_⟩
    · intro cabId
      rw [copies_eq]
      split
      · rename_i hregistered
        obtain ⟨first, hfirst, rfl⟩ := List.mem_map.mp hregistered
        obtain ⟨hstarts, hnames⟩ := hplain first hfirst
        rw [hstarts, Nat.one_mul]
        exact (identifiers_eq_one_iff events sensor hfirst).mpr hnames
      · rename_i hunregistered
        rw [List.filter_eq_nil_iff.mpr, List.length_nil, Nat.mul_zero]
        intro identifier hidentifier
        obtain ⟨one, hone, rfl⟩ := List.mem_map.mp (List.mem_eraseDups.mp hidentifier)
        simp only [decide_eq_true_eq]
        intro hid
        exact hunregistered (List.mem_map.mpr ⟨one, hone, hid⟩)
    · intro intent hintent
      rw [emitAfter_sample] at hintent
      obtain ⟨copy, hcopy, hintent⟩ := List.mem_flatten.mp hintent
      rw [List.eq_of_mem_replicate hcopy] at hintent
      obtain ⟨identifier, -, rfl⟩ := List.mem_map.mp hintent
      simp [updateIntent, sampleIntent, Intent.getStringExtra, Intent.getParcelableExtra]

/-- Samples are forwarded exactly once exactly when, at each sample, nobody who is
registered for its sensor has seen a second start or used a second display name. -/
theorem forwards_exactly_once_iff (events : List (Event S)) :
    ForwardsExactlyOnce events ↔
      AtEachEvent (fun before event => ∀ sensor sample, event = .sensorSample sensor sample →
        ∀ first ∈ registeredFor before sensor, starts before = 1 ∧
          ∀ second ∈ registeredFor before sensor,
            first.cabId = second.cabId → first.displayName = second.displayName) events := by
  refine atEachEvent_iff ?_ events
  intro before event
  constructor
  · rintro hforwarded sensor sample rfl
    exact (forwardedOnce_iff before sensor sample).mp (hforwarded sensor sample rfl)
  · rintro hplain sensor sample rfl
    exact (forwardedOnce_iff before sensor sample).mpr (hplain sensor sample rfl)

/-- The engine is started twice, and the sample goes to the cab twice. -/
theorem second_start_forwards_twice :
    ¬ ForwardsExactlyOnce [.onStartCommand, .onStartCommand,
      .cabPacoReg ⟨"com.ut.mpc.cab.activity", "Activity", ⟨["gps"], []⟩⟩,
      .sensorSample .gps ()] := by
  intro hforwards
  have honce := hforwards [.onStartCommand, .onStartCommand,
    .cabPacoReg ⟨"com.ut.mpc.cab.activity", "Activity", ⟨["gps"], []⟩⟩]
    (.sensorSample .gps ()) [] rfl .gps () rfl
  have hcopies := honce.copies (some "com.ut.mpc.cab.activity")
  rw [copies_eq] at hcopies
  exact absurd hcopies (by decide)

end LSTAndroid.Engine
