import Mathlib.Data.List.Perm.Basic
import LSTAndroid.Cabs
import LSTAndroid.Engine

namespace LSTAndroid.StartOrder

open LSTAndroid.Library.EventMachine
open LSTAndroid.Samples
open LSTAndroid.Mediator
open LSTAndroid.Registration
open LSTAndroid.Engine (PacoEngine EngineReceiver)
open LSTAndroid.Cabs (Cab CabService InitStep)

/-- A cab whose `init()` ends by calling `submit()`. -/
structure SubmittingCab extends Cab where
  steps : List InitStep
  deriving DecidableEq

def SubmittingCab.init (cab : SubmittingCab) : List InitStep :=
  cab.steps ++ [.submit]

def SubmittingCab.identifier (cab : SubmittingCab) : CabIdentifier :=
  .ofNames cab.getId cab.getDisplayName

inductive Receiver (n : ℕ) where
  | engineReceiver (receiver : EngineReceiver)
  | cabReceiver (i : Fin n) (stream : MediatorStream)
  deriving DecidableEq

/-- The engine, the cabs, and the broadcasts on their way, each to one receiver. -/
structure Network (D : Type) (n : ℕ) where
  engine : PacoEngine
  cabs : Fin n → CabService
  inFlight : List (Intent (Sample D) × Receiver n)

variable {D : Type} {n : ℕ}

def Network.fresh : Network D n :=
  ⟨.fresh, fun _ => .fresh, []⟩

variable (cab : Fin n → SubmittingCab)

def Network.receiversOf (action : Option String) (network : Network D n) : List (Receiver n) :=
  (network.engine.receiversOf action).map .engineReceiver ++
    (List.finRange n).flatMap fun i =>
      if action = some (cab i).getId then (network.cabs i).mediatorReceivers.map (.cabReceiver i)
      else []

def Network.sendBroadcast (network : Network D n) (intent : Intent (Sample D)) :
    Network D n :=
  { network with
    inFlight := network.inFlight ++
      (network.receiversOf cab intent.action).map fun receiver => (intent, receiver) }

def runStep (i : Fin n) (progress : PacoMediator × Network D n) (step : InitStep) :
    PacoMediator × Network D n :=
  let (mediator, service, sent) := step.run (cab i).toCab progress.1 (progress.2.cabs i)
  (mediator, sent.foldl (Network.sendBroadcast cab)
    { progress.2 with cabs := Function.update progress.2.cabs i service })

def startCab (i : Fin n) (network : Network D n) : Network D n :=
  ((cab i).init.foldl (runStep cab i) (.new, network)).2

inductive Event (n : ℕ) where
  | startEngine
  | startCab (i : Fin n)
  | deliver (k : ℕ)
  deriving DecidableEq

/-- The receiver handles the intent; the streams of a cab go to its own code. -/
def Receiver.onReceive (intent : Intent (Sample D)) (network : Network D n) :
    Receiver n → Except RuntimeException (Network D n)
  | .engineReceiver receiver => do
      let (engine, sent) ← receiver.onReceive intent network.engine
      return sent.foldl (Network.sendBroadcast cab) { network with engine }
  | .cabReceiver i stream => do
      let (service, _) ← Cabs.onReceive stream intent (network.cabs i)
      return { network with cabs := Function.update network.cabs i service }

def handle (network : Network D n) : Event n → Except RuntimeException (Network D n × List Empty)
  | .startEngine => .ok ({ network with engine := Engine.onStartCommand network.engine }, [])
  | .startCab i => .ok (startCab cab i network, [])
  | .deliver k =>
      match network.inFlight[k]? with
      | none => .ok (network, [])
      | some (intent, receiver) => do
          let network := { network with inFlight := network.inFlight.eraseIdx k }
          return (← receiver.onReceive cab intent network, [])

def machine : Machine (Except RuntimeException (Network D n)) (Event n) Empty :=
  .ofHandler .fresh (handle cab)

def Requested (events : List (Event n)) (request : Request) : Prop :=
  AtSomeEvent (fun before event => ∃ i, event = .startCab i ∧ .startEngine ∈ before ∧
    ∃ sensor, .take (.sensor sensor) ∈ (cab i).steps ∧
      request = (some sensor.name, (cab i).identifier)) events

/-- A cab took the stream of cab `j` when `j` had subscribed a stream of its own. -/
def Subscribed (events : List (Event n)) (j : Fin n) (cabId : Option String) : Prop :=
  AtSomeEvent (fun before event => ∃ i, event = .startCab i ∧ (.startCab j ∈ before ∨ i = j) ∧
    (∃ stream, .subscribe stream ∈ (cab j).steps) ∧
      .take (.cab (cab j).getId) ∈ (cab i).steps ∧ cabId = some (cab i).getId) events

def sender (intent : Intent (Sample D)) : Option (Option String) :=
  if intent.getStringExtra "action" = some Actions.CabCabReg then
    some (intent.getStringExtra "cabId")
  else none

def Network.Asks (network : Network D n) (request : Request) : Prop :=
  ∃ intent, (intent, .engineReceiver .pacoReceiver) ∈ network.inFlight ∧ request ∈ requestsOf intent

def Network.Registers (network : Network D n) (j : Fin n) (cabId : Option String) : Prop :=
  ∃ intent stream, (intent, .cabReceiver j stream) ∈ network.inFlight ∧ sender intent = some cabId

theorem mem_receiversOf_engine (network : Network D n) (action : Option String) :
    .engineReceiver .pacoReceiver ∈ network.receiversOf cab action ↔
      .pacoReceiver ∈ network.engine.receiversOf action := by
  simp [Network.receiversOf]

theorem mem_receiversOf_cab (network : Network D n) (action : Option String) (j : Fin n)
    (stream : MediatorStream) :
    .cabReceiver j stream ∈ network.receiversOf cab action ↔
      action = some (cab j).getId ∧ stream ∈ (network.cabs j).mediatorReceivers := by
  simp only [Network.receiversOf, List.mem_append, List.mem_map, reduceCtorEq, and_false,
    exists_false, false_or, List.mem_flatMap, List.mem_finRange, true_and]
  constructor
  · rintro ⟨i, hi⟩
    split at hi
    · rename_i haction
      obtain ⟨other, hother, heq⟩ := List.mem_map.mp hi
      obtain ⟨rfl, rfl⟩ := Receiver.cabReceiver.inj heq
      exact ⟨haction, hother⟩
    · simp at hi
  · rintro ⟨rfl, hstream⟩
    exact ⟨j, by simpa using hstream⟩

theorem asks_sendBroadcast (network : Network D n) (intent : Intent (Sample D))
    (request : Request) :
    (network.sendBroadcast cab intent).Asks request ↔ network.Asks request ∨
      .pacoReceiver ∈ network.engine.receiversOf intent.action ∧
        request ∈ requestsOf intent := by
  simp only [Network.Asks, Network.sendBroadcast, List.mem_append, List.mem_map,
    Prod.mk.injEq]
  constructor
  · rintro ⟨other, hold | ⟨receiver, hreceiver, rfl, rfl⟩, hrequest⟩
    · exact .inl ⟨other, hold, hrequest⟩
    · exact .inr ⟨(mem_receiversOf_engine cab network _).mp hreceiver, hrequest⟩
  · rintro (⟨other, hold, hrequest⟩ | ⟨hreceiver, hrequest⟩)
    · exact ⟨other, .inl hold, hrequest⟩
    · exact ⟨intent, .inr ⟨_, (mem_receiversOf_engine cab network _).mpr hreceiver, rfl, rfl⟩,
        hrequest⟩

theorem registers_sendBroadcast (network : Network D n) (intent : Intent (Sample D))
    (j : Fin n) (cabId : Option String) :
    (network.sendBroadcast cab intent).Registers j cabId ↔ network.Registers j cabId ∨
      intent.action = some (cab j).getId ∧ (network.cabs j).mediatorReceivers ≠ [] ∧
        sender intent = some cabId := by
  simp only [Network.Registers, Network.sendBroadcast, List.mem_append, List.mem_map,
    Prod.mk.injEq]
  constructor
  · rintro ⟨other, stream, hold | ⟨receiver, hreceiver, rfl, rfl⟩, hsender⟩
    · exact .inl ⟨other, stream, hold, hsender⟩
    · obtain ⟨haction, hstream⟩ := (mem_receiversOf_cab cab network _ j stream).mp hreceiver
      exact .inr ⟨haction, List.ne_nil_of_mem hstream, hsender⟩
  · rintro (⟨other, stream, hold, hsender⟩ | ⟨haction, hstreams, hsender⟩)
    · exact ⟨other, stream, .inl hold, hsender⟩
    · obtain ⟨stream, hstream⟩ := List.exists_mem_of_ne_nil _ hstreams
      exact ⟨intent, stream, .inr ⟨_, (mem_receiversOf_cab cab network _ j stream).mpr
        ⟨haction, hstream⟩, rfl, rfl⟩, hsender⟩

theorem foldl_sendBroadcast (sent : List (Intent (Sample D))) (network : Network D n) :
    (sent.foldl (Network.sendBroadcast cab) network).engine = network.engine ∧
    (sent.foldl (Network.sendBroadcast cab) network).cabs = network.cabs ∧
    (∀ request, (sent.foldl (Network.sendBroadcast cab) network).Asks request ↔
      network.Asks request ∨ ∃ intent ∈ sent,
        .pacoReceiver ∈ network.engine.receiversOf intent.action ∧
          request ∈ requestsOf intent) ∧
    (∀ j cabId, (sent.foldl (Network.sendBroadcast cab) network).Registers j cabId ↔
      network.Registers j cabId ∨ ∃ intent ∈ sent,
        intent.action = some (cab j).getId ∧ (network.cabs j).mediatorReceivers ≠ [] ∧
          sender intent = some cabId) ∧
    ((∀ intent ∈ sent, WellFormed intent) → (∀ item ∈ network.inFlight, WellFormed item.1) →
      ∀ item ∈ (sent.foldl (Network.sendBroadcast cab) network).inFlight,
        WellFormed item.1) := by
  induction sent generalizing network with
  | nil => simp
  | cons intent sent ih =>
      obtain ⟨hengine, hcabs, hasks, hregisters, hwell⟩ := ih (network.sendBroadcast cab intent)
      refine ⟨hengine, hcabs, ?_, ?_, ?_⟩
      · intro request
        rw [List.foldl_cons, hasks, asks_sendBroadcast, List.exists_mem_cons_iff, or_assoc]
        rfl
      · intro j cabId
        rw [List.foldl_cons, hregisters, registers_sendBroadcast, List.exists_mem_cons_iff,
          or_assoc]
        rfl
      · intro hsent hinFlight
        refine hwell (fun other hother => hsent other (List.mem_cons_of_mem intent hother)) ?_
        intro item hitem
        rcases List.mem_append.mp hitem with hold | hnew
        · exact hinFlight item hold
        · obtain ⟨receiver, -, rfl⟩ := List.mem_map.mp hnew
          exact hsent intent List.mem_cons_self

theorem requestsOf_submit (network : Network D n) (program : SubmittingCab)
    (mediator : PacoMediator) (request : Request) :
    (∃ intent ∈ (mediator.submit program.getId program.getDisplayName :
        List (Intent (Sample D))),
      .pacoReceiver ∈ network.engine.receiversOf intent.action ∧
        request ∈ requestsOf intent) ↔
      .pacoReceiver ∈ network.engine.receiversOf (some CONTEXT_ENGINE) ∧
        ∃ sensorName ∈ mediator.sensorSubs,
          request = (some sensorName, program.identifier) := by
  have hreg := (Submission.mk program.getId program.getDisplayName mediator).requestsOf_regIntent
    (S := Sample D)
  have hcab := (Submission.mk program.getId program.getDisplayName
    mediator).requestsOf_cabRegIntent (S := Sample D)
  have hrequests : request ∈ (Submission.mk program.getId program.getDisplayName
      mediator).requests ↔ ∃ sensorName ∈ mediator.sensorSubs,
        request = (some sensorName, program.identifier) := by
    simp only [Submission.requests, List.mem_map, eq_comm (a := request)]
    rfl
  rw [PacoMediator.submit, List.exists_mem_cons_iff, PacoMediator.regIntent_action, hreg,
    hrequests, or_iff_left_iff_imp]
  rintro ⟨intent, hintent, -, hrequest⟩
  obtain ⟨tag, -, rfl⟩ := List.mem_map.mp hintent
  rw [hcab] at hrequest
  simp at hrequest

theorem sender_submit (program : SubmittingCab) (mediator : PacoMediator) (tag : String)
    (streams : Prop) (cabId : Option String) :
    (∃ intent ∈ (mediator.submit program.getId program.getDisplayName :
        List (Intent (Sample D))),
      intent.action = some tag ∧ streams ∧ sender intent = some cabId) ↔
      tag ∈ mediator.cabSubs ∧ streams ∧ cabId = some program.getId := by
  have hreg : sender (mediator.regIntent program.getId program.getDisplayName :
      Intent (Sample D)) = none := by
    rw [sender, PacoMediator.regIntent_kind, if_neg (by decide)]
  have hcab : ∀ tag, sender (PacoMediator.cabRegIntent program.getId program.getDisplayName tag :
      Intent (Sample D)) = some (some program.getId) := by
    intro tag
    rw [sender, PacoMediator.cabRegIntent_kind, if_pos rfl, PacoMediator.cabRegIntent_cabId]
  simp only [PacoMediator.submit, List.exists_mem_cons_iff, hreg, reduceCtorEq, and_false,
    false_or, List.mem_map]
  constructor
  · rintro ⟨_, ⟨other, hother, rfl⟩, haction, hstreams, hsender⟩
    rw [hcab] at hsender
    obtain rfl : other = tag := Option.some.inj haction
    exact ⟨hother, hstreams, (Option.some.inj hsender).symm⟩
  · rintro ⟨htag, hstreams, rfl⟩
    exact ⟨_, ⟨tag, htag, rfl⟩, rfl, hstreams, hcab tag⟩

/-- How far the `init()` of cab `i` has come after the steps `done`. -/
structure Progress (i : Fin n) (start : Network D n) (done : List InitStep)
    (progress : PacoMediator × Network D n) : Prop where
  sensorSubs : ∀ sensorName, sensorName ∈ progress.1.sensorSubs ↔
    ∃ sensor, .take (.sensor sensor) ∈ done ∧ sensorName = sensor.name
  cabSubs : ∀ tag, tag ∈ progress.1.cabSubs ↔ .take (.cab tag) ∈ done
  engine : progress.2.engine = start.engine
  subscriptions : ∀ j, (progress.2.cabs j).subscriptions = (start.cabs j).subscriptions
  streams : ∀ j, (progress.2.cabs j).mediatorReceivers ≠ [] ↔
    (start.cabs j).mediatorReceivers ≠ [] ∨ i = j ∧ ∃ stream, .subscribe stream ∈ done
  wellFormed : (∀ item ∈ start.inFlight, WellFormed item.1) →
    ∀ item ∈ progress.2.inFlight, WellFormed item.1
  asks : ∀ request, progress.2.Asks request ↔ start.Asks request ∨
    .pacoReceiver ∈ start.engine.receiversOf (some CONTEXT_ENGINE) ∧
      AtSomeEvent (fun before step => step = .submit ∧ ∃ sensor,
        .take (.sensor sensor) ∈ before ∧
          request = (some sensor.name, (cab i).identifier)) done
  registers : ∀ j cabId, progress.2.Registers j cabId ↔ start.Registers j cabId ∨
    cabId = some (cab i).getId ∧
      AtSomeEvent (fun before step => step = .submit ∧ .take (.cab (cab j).getId) ∈ before ∧
        ((start.cabs j).mediatorReceivers ≠ [] ∨
          i = j ∧ ∃ stream, .subscribe stream ∈ before)) done

theorem progress_nil (i : Fin n) (start : Network D n) :
    Progress cab i start [] (.new, start) where
  sensorSubs := by simp [PacoMediator.new]
  cabSubs := by simp [PacoMediator.new]
  engine := rfl
  subscriptions _ := rfl
  streams := by simp
  wellFormed := id
  asks := by simp
  registers := by simp

theorem Progress.take {i : Fin n} {start : Network D n} {done : List InitStep}
    {progress : PacoMediator × Network D n} (h : Progress cab i start done progress)
    (stream : MediatorStream) :
    Progress cab i start (done ++ [.take stream])
      (runStep cab i progress (.take stream)) := by
  have hnetwork : (runStep cab i progress (.take stream)).2 = progress.2 := by
    simp [runStep, InitStep.run]
  refine ⟨?_, ?_, ?_, ?_, ?_, ?_, ?_, ?_⟩
  · intro sensorName
    cases stream with
    | sensor kind =>
        simp only [runStep, InitStep.run, PacoMediator.take_sensor, PacoMediator.sensorStream,
          List.mem_append, h.sensorSubs, List.mem_singleton]
        grind
    | cab tag =>
        simp only [runStep, InitStep.run, PacoMediator.take, PacoMediator.cab, h.sensorSubs,
          List.mem_append, List.mem_singleton]
        grind
  · intro tag
    cases stream with
    | sensor kind =>
        simp only [runStep, InitStep.run, PacoMediator.take_sensor, PacoMediator.sensorStream,
          h.cabSubs, List.mem_append, List.mem_singleton]
        grind
    | cab other =>
        simp only [runStep, InitStep.run, PacoMediator.take, PacoMediator.cab, h.cabSubs,
          List.mem_append, List.mem_singleton]
        grind
  · rw [hnetwork, h.engine]
  · rw [hnetwork]
    exact h.subscriptions
  · rw [hnetwork]
    simpa using h.streams
  · rw [hnetwork]
    exact h.wellFormed
  · intro request
    rw [hnetwork, h.asks, atSomeEvent_concat]
    simp
  · intro j cabId
    rw [hnetwork, h.registers, atSomeEvent_concat]
    simp

theorem Progress.subscribe {i : Fin n} {start : Network D n} {done : List InitStep}
    {progress : PacoMediator × Network D n} (h : Progress cab i start done progress)
    (stream : MediatorStream) :
    Progress cab i start (done ++ [.subscribe stream])
      (runStep cab i progress (.subscribe stream)) := by
  refine ⟨?_, ?_, h.engine, ?_, ?_, h.wellFormed, ?_, ?_⟩
  · simpa [runStep, InitStep.run] using h.sensorSubs
  · simpa [runStep, InitStep.run] using h.cabSubs
  · intro j
    rcases eq_or_ne j i with rfl | hj
    · simpa [runStep, InitStep.run] using h.subscriptions j
    · simpa [runStep, InitStep.run, hj] using h.subscriptions j
  · intro j
    rcases eq_or_ne j i with rfl | hj
    · simp [runStep, InitStep.run]
    · have hstreams := h.streams j
      simp only [Ne.symm hj, false_and, or_false] at hstreams ⊢
      simpa [runStep, InitStep.run, hj] using hstreams
  · intro request
    rw [atSomeEvent_concat]
    simpa [runStep, InitStep.run, Network.Asks] using h.asks request
  · intro j cabId
    rw [atSomeEvent_concat]
    simpa [runStep, InitStep.run, Network.Registers] using h.registers j cabId

theorem Progress.submit {i : Fin n} {start : Network D n} {done : List InitStep}
    {progress : PacoMediator × Network D n} (h : Progress cab i start done progress) :
    Progress cab i start (done ++ [.submit]) (runStep cab i progress .submit) := by
  have hrun : runStep cab i progress .submit = (progress.1,
      (progress.1.submit (cab i).getId (cab i).getDisplayName).foldl
        (Network.sendBroadcast cab) progress.2) := by
    simp [runStep, InitStep.run]
  obtain ⟨hengine, hcabs, hasks, hregisters, hwell⟩ := foldl_sendBroadcast cab
    (progress.1.submit (cab i).getId (cab i).getDisplayName) progress.2
  rw [hrun]
  refine ⟨?_, ?_, hengine.trans h.engine, ?_, ?_, ?_, ?_, ?_⟩
  · simpa using h.sensorSubs
  · simpa using h.cabSubs
  · intro j
    rw [hcabs]
    exact h.subscriptions j
  · intro j
    rw [hcabs]
    simpa using h.streams j
  · intro hstart
    refine hwell ?_ (h.wellFormed hstart)
    intro intent hintent
    exact (Submission.mk (cab i).getId (cab i).getDisplayName
      progress.1).wellFormed_of_mem_intents hintent
  · intro request
    rw [hasks, requestsOf_submit, h.asks, atSomeEvent_concat, h.engine]
    simp only [h.sensorSubs]
    grind
  · intro j cabId
    rw [hregisters, sender_submit, h.registers, atSomeEvent_concat, h.cabSubs, h.streams]
    grind

theorem progress_foldl (i : Fin n) (start : Network D n) (steps : List InitStep) :
    Progress cab i start steps (steps.foldl (runStep cab i) (.new, start)) := by
  induction steps using List.reverseRecOn with
  | nil => exact progress_nil cab i start
  | append_singleton steps step ih =>
      rw [List.foldl_append]
      cases step with
      | take stream => exact ih.take cab stream
      | subscribe stream => exact ih.subscribe cab stream
      | submit => exact ih.submit cab

/-- What holds at a `submit()` holds at the last one, if later steps do not undo it. -/
theorem atSomeSubmit_iff {Q : List InitStep → Prop}
    (hQ : ∀ before after, Q before → Q (before ++ after)) (steps : List InitStep) :
    AtSomeEvent (fun before step => step = .submit ∧ Q before) (steps ++ [.submit]) ↔
      Q steps := by
  rw [atSomeEvent_concat]
  constructor
  · rintro (⟨before, step, after, rfl, -, hbefore⟩ | ⟨-, hsteps⟩)
    · exact hQ before _ hbefore
    · exact hsteps
  · intro hsteps
    exact .inr ⟨rfl, hsteps⟩

theorem asks_startCab (i : Fin n) (start : Network D n) (request : Request) :
    (startCab cab i start).Asks request ↔ start.Asks request ∨
      .pacoReceiver ∈ start.engine.receiversOf (some CONTEXT_ENGINE) ∧
        ∃ sensor, .take (.sensor sensor) ∈ (cab i).steps ∧
          request = (some sensor.name, (cab i).identifier) := by
  have hprogress := (progress_foldl cab i start (cab i).init).asks request
  rw [SubmittingCab.init, atSomeSubmit_iff] at hprogress
  · exact hprogress
  · rintro before after ⟨sensor, htake, heq⟩
    exact ⟨sensor, List.mem_append_left after htake, heq⟩

theorem registers_startCab (i : Fin n) (start : Network D n) (j : Fin n)
    (cabId : Option String) :
    (startCab cab i start).Registers j cabId ↔ start.Registers j cabId ∨
      cabId = some (cab i).getId ∧ .take (.cab (cab j).getId) ∈ (cab i).steps ∧
        ((start.cabs j).mediatorReceivers ≠ [] ∨
          i = j ∧ ∃ stream, .subscribe stream ∈ (cab i).steps) := by
  have hprogress := (progress_foldl cab i start (cab i).init).registers j cabId
  rw [SubmittingCab.init, atSomeSubmit_iff] at hprogress
  · exact hprogress
  · rintro before after ⟨htake, hstreams | ⟨hij, stream, hsubscribe⟩⟩
    · exact ⟨List.mem_append_left after htake, .inl hstreams⟩
    · exact ⟨List.mem_append_left after htake,
        .inr ⟨hij, stream, List.mem_append_left after hsubscribe⟩⟩

/-- What the events handled so far say about the network, the messages on their way
included. -/
structure Explains (events : List (Event n)) (network : Network D n) : Prop where
  engineStarted : .pacoReceiver ∈ network.engine.receiversOf (some CONTEXT_ENGINE) ↔
    .startEngine ∈ events
  streams : ∀ j, (network.cabs j).mediatorReceivers ≠ [] ↔
    .startCab j ∈ events ∧ ∃ stream, .subscribe stream ∈ (cab j).steps
  wellFormed : ∀ item ∈ network.inFlight, WellFormed item.1
  requests : ∃ requests, Records network.engine.cabSubs requests ∧
    ∀ request, request ∈ requests ∨ network.Asks request ↔ Requested cab events request
  subscribers : ∀ j cabId,
    cabId ∈ (network.cabs j).subscriptions ∨ network.Registers j cabId ↔
      Subscribed cab events j cabId

theorem requested_concat (events : List (Event n)) (event : Event n) (request : Request) :
    Requested cab (events ++ [event]) request ↔ Requested cab events request ∨
      ∃ i, event = .startCab i ∧ .startEngine ∈ events ∧
        ∃ sensor, .take (.sensor sensor) ∈ (cab i).steps ∧
          request = (some sensor.name, (cab i).identifier) :=
  atSomeEvent_concat _ events event

theorem subscribed_concat (events : List (Event n)) (event : Event n) (j : Fin n)
    (cabId : Option String) :
    Subscribed cab (events ++ [event]) j cabId ↔ Subscribed cab events j cabId ∨
      ∃ i, event = .startCab i ∧ (.startCab j ∈ events ∨ i = j) ∧
        (∃ stream, .subscribe stream ∈ (cab j).steps) ∧
          .take (.cab (cab j).getId) ∈ (cab i).steps ∧ cabId = some (cab i).getId :=
  atSomeEvent_concat _ events event

theorem explains_fresh : Explains cab [] (Network.fresh : Network D n) where
  engineStarted := by simp [Network.fresh, PacoEngine.fresh, PacoEngine.receiversOf]
  streams := by simp [Network.fresh, CabService.fresh]
  wellFormed := by simp [Network.fresh]
  requests := ⟨[], records_empty, by simp [Network.Asks, Network.fresh, Requested]⟩
  subscribers := by simp [Network.Registers, Network.fresh, CabService.fresh, Subscribed]

theorem Explains.startEngine {events : List (Event n)} {network : Network D n}
    (h : Explains cab events network) :
    Explains cab (events ++ [.startEngine])
      { network with engine := Engine.onStartCommand network.engine } := by
  obtain ⟨requests, hrecords, hrequests⟩ := h.requests
  refine ⟨?_, ?_, h.wellFormed, ⟨requests, hrecords, ?_⟩, ?_⟩
  · simp [Engine.onStartCommand, Engine.startReceivers, PacoEngine.receiversOf]
  · simpa using h.streams
  · intro request
    rw [requested_concat, ← hrequests]
    simp [Network.Asks]
  · intro j cabId
    rw [subscribed_concat, ← h.subscribers]
    simp [Network.Registers]

theorem Explains.startCab {events : List (Event n)} {network : Network D n}
    (h : Explains cab events network) (i : Fin n) :
    Explains cab (events ++ [.startCab i]) (startCab cab i network) := by
  have hprogress := progress_foldl cab i network (cab i).init
  have hengine : (StartOrder.startCab cab i network).engine = network.engine :=
    hprogress.engine
  obtain ⟨requests, hrecords, hrequests⟩ := h.requests
  refine ⟨?_, ?_, hprogress.wellFormed h.wellFormed, ⟨requests, ?_, ?_⟩, ?_⟩
  · rw [hengine, h.engineStarted]
    simp
  · intro j
    have hstreams := hprogress.streams j
    rw [h.streams] at hstreams
    rw [StartOrder.startCab, hstreams]
    simp only [SubmittingCab.init, List.mem_append, List.mem_singleton, reduceCtorEq,
      or_false, Event.startCab.injEq]
    grind
  · rw [hengine]
    exact hrecords
  · intro request
    rw [asks_startCab, ← or_assoc, hrequests, h.engineStarted, requested_concat]
    simp
  · intro j cabId
    have hsubscriptions : ((StartOrder.startCab cab i network).cabs j).subscriptions =
        (network.cabs j).subscriptions := hprogress.subscriptions j
    rw [registers_startCab, hsubscriptions, ← or_assoc, h.subscribers, h.streams,
      subscribed_concat]
    simp only [Event.startCab.injEq]
    grind

def Network.taking (network : Network D n) (k : ℕ) : Network D n :=
  { network with inFlight := network.inFlight.eraseIdx k }

@[simp] theorem taking_engine (network : Network D n) (k : ℕ) :
    (network.taking k).engine = network.engine := rfl

@[simp] theorem taking_cabs (network : Network D n) (k : ℕ) :
    (network.taking k).cabs = network.cabs := rfl

section Taking

variable {network : Network D n} {k : ℕ} {intent : Intent (Sample D)} {receiver : Receiver n}

theorem mem_inFlight_taking (h : network.inFlight[k]? = some (intent, receiver))
    (item : Intent (Sample D) × Receiver n) :
    item ∈ network.inFlight ↔
      item = (intent, receiver) ∨ item ∈ (network.taking k).inFlight := by
  obtain ⟨hk, hitem⟩ := List.getElem?_eq_some_iff.mp h
  rw [← (List.getElem_cons_eraseIdx_perm hk).mem_iff, List.mem_cons, hitem]
  rfl

theorem asks_taking (h : network.inFlight[k]? = some (intent, receiver)) (request : Request) :
    network.Asks request ↔
      receiver = .engineReceiver .pacoReceiver ∧ request ∈ requestsOf intent ∨
        (network.taking k).Asks request := by
  simp only [Network.Asks, mem_inFlight_taking h, Prod.mk.injEq]
  grind

theorem registers_taking (h : network.inFlight[k]? = some (intent, receiver)) (j : Fin n)
    (cabId : Option String) :
    network.Registers j cabId ↔
      (∃ stream, receiver = .cabReceiver j stream) ∧ sender intent = some cabId ∨
        (network.taking k).Registers j cabId := by
  simp only [Network.Registers, mem_inFlight_taking h, Prod.mk.injEq]
  grind

end Taking

theorem deliver_concat (events : List (Event n)) (k : ℕ) :
    Requested cab (events ++ [.deliver k]) = Requested cab events ∧
      Subscribed cab (events ++ [.deliver k]) = Subscribed cab events := by
  constructor
  · funext request
    simp [requested_concat]
  · funext j cabId
    simp [subscribed_concat]

theorem Explains.deliver_engine {events : List (Event n)} {network : Network D n}
    (h : Explains cab events network) {k : ℕ} {intent : Intent (Sample D)}
    (hitem : network.inFlight[k]? = some (intent, .engineReceiver .pacoReceiver))
    {after : Network D n}
    (hok : (Receiver.engineReceiver .pacoReceiver).onReceive cab intent (network.taking k) =
      .ok after) :
    Explains cab (events ++ [.deliver k]) after := by
  have hmem := mem_inFlight_taking hitem
  obtain ⟨requests, hrecords, hrequests⟩ := h.requests
  obtain ⟨cabSubs, hreceive, hcabSubs⟩ :=
    onReceive_records (h.wellFormed _ ((hmem _).mpr (.inl rfl))) hrecords
  have hengine : EngineReceiver.onReceive intent network.engine .pacoReceiver =
      .ok ({ network.engine with cabSubs }, []) := by
    simp [EngineReceiver.onReceive, hreceive, bind, Except.bind, pure, Except.pure]
  obtain rfl : { network.taking k with engine := { network.engine with cabSubs } } = after := by
    simpa [Receiver.onReceive, hengine, bind, Except.bind, pure, Except.pure] using hok
  refine ⟨?_, ?_, ?_, ⟨_, hcabSubs, ?_⟩, ?_⟩
  · simpa [PacoEngine.receiversOf] using h.engineStarted
  · simpa using h.streams
  · intro item hitem
    exact h.wellFormed item ((hmem item).mpr (.inr hitem))
  · intro request
    have hasks := asks_taking hitem request
    rw [(deliver_concat cab events k).1, ← hrequests, hasks, List.mem_append, or_assoc]
    simp [Network.Asks]
  · intro j cabId
    have hregisters := registers_taking hitem j cabId
    rw [(deliver_concat cab events k).2, ← h.subscribers, hregisters]
    simp [Network.Registers, Network.taking]

theorem updateIntent_registers_nothing (intent : Intent (Sample D))
    (identifier : CabIdentifier) :
    requestsOf (Engine.updateIntent intent identifier) = [] ∧
      sender (Engine.updateIntent intent identifier) = none ∧
        WellFormed (Engine.updateIntent intent identifier) := by
  have hkind : (Engine.updateIntent intent identifier).getStringExtra "action" =
      some Actions.PacoUpdate := by
    simp [Engine.updateIntent, Intent.getStringExtra]
  have hrequests : requestsOf (Engine.updateIntent intent identifier) = [] := by
    rw [requestsOf, hkind, if_neg (by decide)]
  refine ⟨hrequests, by rw [sender, hkind, if_neg (by decide)], ?_, ?_⟩
  · simp [hkind]
  · simp [hrequests]

theorem Explains.deliver_sensor {events : List (Event n)} {network : Network D n}
    (h : Explains cab events network) {k : ℕ} {intent : Intent (Sample D)} {sensor : Sensor}
    (hitem : network.inFlight[k]? = some (intent, .engineReceiver (.sensorReceiver sensor))) :
    ∃ after, (Receiver.engineReceiver (.sensorReceiver sensor)).onReceive cab intent
        (network.taking k) = .ok after ∧
      Explains cab (events ++ [.deliver k]) after := by
  have hmem := mem_inFlight_taking hitem
  obtain ⟨requests, hrecords, hrequests⟩ := h.requests
  have hupdate := updateIntent_registers_nothing intent
  obtain ⟨hengine, hcabs, hasks, hregisters, hwell⟩ := foldl_sendBroadcast cab
    ((network.engine.cabSubs.get (some sensor.name)).map (Engine.updateIntent intent))
    (network.taking k)
  refine ⟨((network.engine.cabSubs.get (some sensor.name)).map
    (Engine.updateIntent intent)).foldl (Network.sendBroadcast cab) (network.taking k), rfl,
    ?_, ?_, ?_, ⟨requests, ?_, ?_⟩, ?_⟩
  · rw [hengine]
    simpa using h.engineStarted
  · rw [hcabs]
    simpa using h.streams
  · refine hwell ?_ fun item hitem => h.wellFormed item ((hmem item).mpr (.inr hitem))
    intro update hupdateMem
    obtain ⟨identifier, -, rfl⟩ := List.mem_map.mp hupdateMem
    exact (hupdate identifier).2.2
  · rw [hengine]
    exact hrecords
  · intro request
    rw [(deliver_concat cab events k).1, ← hrequests, asks_taking hitem, hasks]
    simp [hupdate]
  · intro j cabId
    rw [(deliver_concat cab events k).2, ← h.subscribers, registers_taking hitem, hregisters,
      hcabs]
    simp [hupdate, Network.taking]

theorem Explains.deliver_cab {events : List (Event n)} {network : Network D n}
    (h : Explains cab events network) {k : ℕ} {intent : Intent (Sample D)} {i : Fin n}
    {stream : MediatorStream}
    (hitem : network.inFlight[k]? = some (intent, .cabReceiver i stream))
    {after : Network D n}
    (hok : (Receiver.cabReceiver i stream).onReceive cab intent (network.taking k) =
      .ok after) :
    Explains cab (events ++ [.deliver k]) after := by
  have hmem := mem_inFlight_taking hitem
  obtain ⟨requests, hrecords, hrequests⟩ := h.requests
  rcases hreceive : Cabs.onReceive stream intent (network.cabs i) with failure | ⟨service, sent⟩
  · simp [Receiver.onReceive, Network.taking, hreceive, bind, Except.bind] at hok
  obtain ⟨hstreams, hsubscriptions⟩ := Cabs.onReceive_subscriptions hreceive
  obtain rfl : { network.taking k with
      cabs := Function.update network.cabs i service } = after := by
    simpa [Receiver.onReceive, Network.taking, hreceive, bind, Except.bind, pure,
      Except.pure] using hok
  refine ⟨?_, ?_, ?_, ⟨requests, hrecords, ?_⟩, ?_⟩
  · simpa using h.engineStarted
  · intro j
    rcases eq_or_ne j i with rfl | hj
    · simpa [hstreams] using h.streams j
    · simpa [hj] using h.streams j
  · intro item hitem
    exact h.wellFormed item ((hmem item).mpr (.inr hitem))
  · intro request
    rw [(deliver_concat cab events k).1, ← hrequests, asks_taking hitem]
    simp [Network.Asks, Network.taking]
  · intro j cabId
    rw [(deliver_concat cab events k).2, ← h.subscribers, registers_taking hitem]
    rcases eq_or_ne j i with rfl | hj
    · have hsender : cabId ∈ (if intent.getStringExtra "action" = some Actions.CabCabReg
          then [intent.getStringExtra "cabId"] else []) ↔ sender intent = some cabId := by
        rw [sender]
        split <;> simp [eq_comm]
      simp only [Function.update_self, hsubscriptions, List.mem_append, hsender]
      simp [Network.Registers, Network.taking, or_assoc]
    · simp [Network.Registers, Network.taking, hj, Ne.symm hj]

theorem Explains.handle {events : List (Event n)} {network after : Network D n}
    (h : Explains cab events network) {event : Event n} {outputs : List Empty}
    (hok : handle cab network event = .ok (after, outputs)) :
    Explains cab (events ++ [event]) after := by
  cases event with
  | startEngine =>
      obtain rfl := congrArg Prod.fst (Except.ok.inj hok)
      exact h.startEngine
  | startCab i =>
      obtain rfl := congrArg Prod.fst (Except.ok.inj hok)
      exact h.startCab cab i
  | deliver k =>
      rcases hitem : network.inFlight[k]? with _ | ⟨intent, receiver⟩
      · simp only [StartOrder.handle, hitem] at hok
        obtain rfl := congrArg Prod.fst (Except.ok.inj hok)
        obtain ⟨requests, hrecords, hrequests⟩ := h.requests
        obtain ⟨hrequested, hsubscribed⟩ := deliver_concat cab events k
        exact ⟨by simpa using h.engineStarted, by simpa using h.streams, h.wellFormed,
          ⟨requests, hrecords, hrequested ▸ hrequests⟩, hsubscribed ▸ h.subscribers⟩
      · have hreceive : receiver.onReceive cab intent (network.taking k) = .ok after := by
          simp only [StartOrder.handle, hitem] at hok
          change (do return (← receiver.onReceive cab intent (network.taking k), [])) = _ at hok
          rcases hresult : receiver.onReceive cab intent (network.taking k) with failure | next
          · rw [hresult] at hok
            cases hok
          · rw [hresult] at hok
            exact congrArg Except.ok (congrArg Prod.fst (Except.ok.inj hok))
        rcases receiver with ⟨_ | sensor⟩ | ⟨i, stream⟩
        · exact h.deliver_engine cab hitem hreceive
        · obtain ⟨next, hnext, hexplains⟩ := h.deliver_sensor cab hitem
          obtain rfl := Except.ok.inj (hnext.symm.trans hreceive)
          exact hexplains
        · exact h.deliver_cab cab hitem hreceive

theorem run_explained {events : List (Event n)} {network : Network D n}
    (h : (machine cab).run events = .ok network) : Explains cab events network := by
  refine Machine.ofHandler_history_of_ok (explains_fresh cab) ?_ events h
  intro before network event after outputs hexplains hok
  exact hexplains.handle cab hok

/-- The two kinds of messages that a `submit()` sends. -/
def IsRegistration (intent : Intent (Sample D)) : Prop :=
  intent.getStringExtra "action" = some Actions.CabPacoReg ∨
    intent.getStringExtra "action" = some Actions.CabCabReg

/-- No message on its way can make its receiver fail. -/
structure Calm (network : Network D n) : Prop where
  receivers : ∀ receiver ∈ network.engine.receivers, receiver ∈ Engine.startReceivers
  inFlight : ∀ item ∈ network.inFlight, IsRegistration item.1 ∧
    ∀ sensor, item.2 ≠ .engineReceiver (.sensorReceiver sensor)

theorem sensorReceiver_action {network : Network D n} (h : Calm network) {sensor : Sensor}
    {action : Option String}
    (hreceiver : .engineReceiver (.sensorReceiver sensor) ∈ network.receiversOf cab action) :
    action = some (Engine.sensorAction sensor) := by
  have hregistered : .sensorReceiver sensor ∈ network.engine.receiversOf action := by
    simpa [Network.receiversOf] using hreceiver
  obtain ⟨⟨own, receiver⟩, hmem, rfl⟩ := List.mem_map.mp hregistered
  obtain ⟨hmem, haction⟩ := List.mem_filter.mp hmem
  have hstart := h.receivers _ hmem
  rw [← of_decide_eq_true haction]
  cases sensor <;> simp [Engine.startReceivers, Engine.sensorAction] at hstart ⊢ <;> exact hstart

theorem Calm.sendBroadcast {network : Network D n} (h : Calm network)
    {intent : Intent (Sample D)} (hintent : IsRegistration intent)
    (haction : ∀ sensor, intent.action ≠ some (Engine.sensorAction sensor)) :
    Calm (network.sendBroadcast cab intent) := by
  refine ⟨h.receivers, ?_⟩
  intro item hitem
  rcases List.mem_append.mp hitem with hold | hnew
  · exact h.inFlight item hold
  · obtain ⟨receiver, hreceiver, rfl⟩ := List.mem_map.mp hnew
    refine ⟨hintent, ?_⟩
    rintro sensor rfl
    exact haction sensor (sensorReceiver_action cab h hreceiver)

theorem Calm.foldl_sendBroadcast {sent : List (Intent (Sample D))} {network : Network D n}
    (h : Calm network) (hsent : ∀ intent ∈ sent, IsRegistration intent ∧
      ∀ sensor, intent.action ≠ some (Engine.sensorAction sensor)) :
    Calm (sent.foldl (Network.sendBroadcast cab) network) := by
  induction sent generalizing network with
  | nil => exact h
  | cons intent sent ih =>
      obtain ⟨hintent, haction⟩ := hsent intent List.mem_cons_self
      exact ih (h.sendBroadcast cab hintent haction)
        fun other hother => hsent other (List.mem_cons_of_mem intent hother)

/-- No cab takes the stream of a cab whose action is that of a sensor. -/
def AvoidsSensorActions : Prop :=
  ∀ i tag, .take (.cab tag) ∈ (cab i).steps → ∀ sensor, tag ≠ Engine.sensorAction sensor

theorem submit_calm {program : SubmittingCab} {mediator : PacoMediator}
    (htags : ∀ tag ∈ mediator.cabSubs, ∀ sensor, tag ≠ Engine.sensorAction sensor) :
    ∀ intent ∈ (mediator.submit program.getId program.getDisplayName : List (Intent (Sample D))),
      IsRegistration intent ∧
        ∀ sensor, intent.action ≠ some (Engine.sensorAction sensor) := by
  intro intent hintent
  rcases List.mem_cons.mp hintent with rfl | hcab
  · refine ⟨.inl (PacoMediator.regIntent_kind ..), ?_⟩
    intro sensor
    rw [PacoMediator.regIntent_action]
    cases sensor <;> decide
  · obtain ⟨tag, htag, rfl⟩ := List.mem_map.mp hcab
    refine ⟨.inr (PacoMediator.cabRegIntent_kind ..), ?_⟩
    intro sensor haction
    exact htags tag htag sensor (Option.some.inj haction)

theorem Calm.startCab (hcab : AvoidsSensorActions cab) {network : Network D n}
    (h : Calm network) (i : Fin n) : Calm (startCab cab i network) := by
  have hsteps : ∀ tag, .take (.cab tag) ∈ (cab i).init →
      ∀ sensor, tag ≠ Engine.sensorAction sensor := by
    intro tag htag
    exact hcab i tag (by simpa [SubmittingCab.init] using htag)
  rw [StartOrder.startCab]
  generalize (cab i).init = steps at hsteps
  induction steps using List.reverseRecOn with
  | nil => exact h
  | append_singleton steps step ih =>
      have hbefore : Calm (steps.foldl (runStep cab i) (.new, network)).2 :=
        ih fun tag htag => hsteps tag (List.mem_append_left _ htag)
      rw [List.foldl_append]
      refine Calm.foldl_sendBroadcast cab ⟨hbefore.receivers, hbefore.inFlight⟩ ?_
      cases step with
      | take stream => simp
      | subscribe stream => simp
      | submit =>
          refine submit_calm ?_
          intro tag htag
          have htake := ((progress_foldl cab i network steps).cabSubs tag).mp htag
          exact hsteps tag (List.mem_append_left _ htake)

theorem onReceive_registration {intent : Intent (Sample D)} (h : IsRegistration intent)
    (stream : MediatorStream) (service : CabService) :
    ∃ after, Cabs.onReceive stream intent service = .ok (after, []) := by
  rcases h with hengine | hcab
  · exact ⟨service, by simp [Cabs.onReceive, hengine, Actions.CabPacoReg, Actions.CabCabReg,
      Actions.CabUpdate, Actions.PacoUpdate]⟩
  · exact ⟨{ service with
      subscriptions := service.subscriptions ++ [intent.getStringExtra "cabId"] },
      by simp [Cabs.onReceive, hcab]⟩

theorem Calm.handle (hcab : AvoidsSensorActions cab) {events : List (Event n)}
    {network : Network D n} (hexplains : Explains cab events network) (h : Calm network)
    (event : Event n) :
    ∃ after, handle cab network event = .ok (after, []) ∧ Calm after := by
  cases event with
  | startEngine =>
      refine ⟨_, rfl, ?_, h.inFlight⟩
      intro receiver hreceiver
      rcases List.mem_append.mp hreceiver with hold | hnew
      · exact h.receivers receiver hold
      · exact hnew
  | startCab i => exact ⟨_, rfl, h.startCab cab hcab i⟩
  | deliver k =>
      rcases hitem : network.inFlight[k]? with _ | ⟨intent, receiver⟩
      · exact ⟨network, by simp [StartOrder.handle, hitem], h⟩
      have hmem : (intent, receiver) ∈ network.inFlight := List.mem_of_getElem? hitem
      have htaken : ∀ item ∈ (network.taking k).inFlight, IsRegistration item.1 ∧
          ∀ sensor, item.2 ≠ .engineReceiver (.sensorReceiver sensor) :=
        fun item hrest => h.inFlight item (List.mem_of_mem_eraseIdx hrest)
      obtain ⟨hintent, hreceiver⟩ := h.inFlight _ hmem
      rcases receiver with ⟨_ | sensor⟩ | ⟨i, stream⟩
      · obtain ⟨requests, hrecords, -⟩ := hexplains.requests
        obtain ⟨cabSubs, hreceive, -⟩ :=
          onReceive_records (hexplains.wellFormed _ hmem) hrecords
        refine ⟨{ network.taking k with engine := { network.engine with cabSubs } }, ?_,
          h.receivers, htaken⟩
        simp [StartOrder.handle, hitem, Receiver.onReceive, EngineReceiver.onReceive, hreceive,
          Network.taking, bind, Except.bind, pure, Except.pure]
      · exact absurd rfl (hreceiver sensor)
      · obtain ⟨service, hreceive⟩ := onReceive_registration hintent stream (network.cabs i)
        refine ⟨{ network.taking k with cabs := Function.update network.cabs i service }, ?_,
          h.receivers, htaken⟩
        simp [StartOrder.handle, hitem, Receiver.onReceive, hreceive, Network.taking, bind,
          Except.bind, pure, Except.pure]

theorem run_succeeds (hcab : AvoidsSensorActions cab) (events : List (Event n)) :
    ∃ network : Network D n, (machine cab).run events = .ok network := by
  have hrun : ∃ network : Network D n, (machine cab).run events = .ok network ∧
      Explains cab events network ∧ Calm network := by
    refine Machine.ofHandler_history
      (R := fun events (network : Network D n) => Explains cab events network ∧ Calm network)
      ⟨explains_fresh cab, by simp [Network.fresh, PacoEngine.fresh], by simp [Network.fresh]⟩
      ?_ events
    rintro before network event ⟨hexplains, hcalm⟩
    obtain ⟨after, hok, hafter⟩ := hcalm.handle cab hcab hexplains event
    exact ⟨after, [], hok, hexplains.handle cab hok, hafter⟩
  obtain ⟨network, hrun, -⟩ := hrun
  exact ⟨network, hrun⟩

/-- Once nothing is on its way, the engine lists for a sensor exactly the cabs that
asked after its start, and a cab has exactly the subscribers that asked after it had
subscribed a stream. -/
theorem registered_in_start_order {events : List (Event n)} {network : Network D n}
    (hrun : (machine cab).run events = .ok network) (hquiet : network.inFlight = []) :
    (∀ (sensor : Sensor) identifier,
      identifier ∈ network.engine.cabSubs.get (some sensor.name) ↔
        Requested cab events (some sensor.name, identifier)) ∧
    ∀ j cabId, cabId ∈ (network.cabs j).subscriptions ↔ Subscribed cab events j cabId := by
  have hexplains := run_explained cab hrun
  obtain ⟨requests, hrecords, hrequests⟩ := hexplains.requests
  constructor
  · intro sensor identifier
    have hasks : ¬ network.Asks (some sensor.name, identifier) := by
      simp [Network.Asks, hquiet]
    rw [← hrequests, or_iff_left hasks, hrecords.get_eq, List.mem_eraseDups]
    simp
  · intro j cabId
    have hregisters : ¬ network.Registers j cabId := by
      simp [Network.Registers, hquiet]
    rw [← hexplains.subscribers, or_iff_left hregisters]

def abstractLocation : SubmittingCab where
  getId := "com.ut.mpc.contextengine.cabs.abstractlocation"
  getDisplayName := "Abstract Location"
  steps := [.take (.sensor .gps), .subscribe (.sensor .gps)]

def safety : SubmittingCab where
  getId := "com.ut.mpc.contextengine.cabs.safety"
  getDisplayName := "Safety"
  steps := [.take (.sensor .gps), .take (.cab abstractLocation.getId),
    .subscribe (.sensor .gps), .subscribe (.cab abstractLocation.getId)]

def locationAndSafety : Fin 2 → SubmittingCab
  | 0 => abstractLocation
  | 1 => safety

/-- The engine first, then the cabs, and the messages out of order. -/
def startUp : List (Event 2) :=
  [.startEngine, .startCab 0, .startCab 1, .deliver 2, .deliver 0, .deliver 0]

theorem registered_in_start_up :
    ∃ network : Network ℚ 2, (machine locationAndSafety).run startUp = .ok network ∧
      (∀ (sensor : Sensor) identifier,
        identifier ∈ network.engine.cabSubs.get (some sensor.name) ↔
          Requested locationAndSafety startUp (some sensor.name, identifier)) ∧
      ∀ j cabId, cabId ∈ (network.cabs j).subscriptions ↔
        Subscribed locationAndSafety startUp j cabId := by
  refine ⟨_, rfl, ?_⟩
  exact registered_in_start_order locationAndSafety rfl rfl

/-- A cab that is started before the engine is not listed. -/
theorem early_cab_not_listed :
    ∃ network : Network ℚ 1, (machine fun _ => abstractLocation).run
        [.startCab 0, .startEngine] = .ok network ∧ network.inFlight = [] ∧
      .take (.sensor .gps) ∈ abstractLocation.steps ∧
      abstractLocation.identifier ∉ network.engine.cabSubs.get (some Sensor.gps.name) := by
  refine ⟨_, rfl, rfl, by decide, ?_⟩
  exact List.not_mem_nil

end LSTAndroid.StartOrder
