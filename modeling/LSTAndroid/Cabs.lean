import LSTAndroid.Library.EventMachine
import LSTAndroid.Mediator

namespace LSTAndroid.Cabs

open LSTAndroid.Library.EventMachine
open LSTAndroid.Samples
open LSTAndroid.Mediator

variable {D : Type}

/-- What an `init()` does with its mediator: take a stream from it, subscribe a
stream, submit. -/
inductive InitStep where
  | take (stream : MediatorStream)
  | subscribe (stream : MediatorStream)
  | submit
  deriving DecidableEq

/-- The two methods that a subclass of `Cabs` defines besides `init()`. -/
structure Cab where
  getId : String
  getDisplayName : String
  deriving DecidableEq

/-- A started cab: its subscribers, and for each receiver that it registered the
stream to which the receiver belongs. -/
structure CabService where
  subscriptions : List (Option String)
  mediatorReceivers : List MediatorStream
  deriving DecidableEq

def CabService.fresh : CabService := ⟨[], []⟩

inductive Output (D : Type) where
  | broadcast (intent : Intent (Sample D))
  | emit (stream : MediatorStream) (sample : Sample D)
  deriving DecidableEq

def InitStep.run (cab : Cab) (mediator : PacoMediator) (service : CabService) :
    InitStep → PacoMediator × CabService × List (Intent (Sample D))
  | .take stream => (mediator.take stream, service, [])
  | .subscribe stream =>
      (mediator, { service with
        mediatorReceivers := service.mediatorReceivers ++ [stream] }, [])
  | .submit => (mediator, service, mediator.submit cab.getId cab.getDisplayName)

def runInit (cab : Cab) :
    List InitStep → PacoMediator → CabService → CabService × List (Intent (Sample D))
  | [], _, service => (service, [])
  | step :: init, mediator, service =>
      let (mediator, service, sent) := step.run cab mediator service
      let (service, more) := runInit cab init mediator service
      (service, sent ++ more)

def onStartCommand (cab : Cab) (init : List InitStep) (service : CabService) :
    CabService × List (Intent (Sample D)) :=
  runInit cab init .new service

/-- `sub.onNext(sample)` through the filter of the stream. -/
def forward (stream : MediatorStream) (sample : Option (Sample D)) :
    Except RuntimeException (List (Output D)) :=
  match sample with
  | none => .error .nullPointer
  | some sample => do
      if ← sample.isType stream.filterTag then return [.emit stream sample] else return []

def onReceive (stream : MediatorStream) (intent : Intent (Sample D)) (service : CabService) :
    Except RuntimeException (CabService × List (Output D)) :=
  if intent.getStringExtra "action" = some Actions.CabCabReg then
    .ok ({ service with
      subscriptions := service.subscriptions ++ [intent.getStringExtra "cabId"] }, [])
  else if intent.getStringExtra "action" = some Actions.CabUpdate then do
    return (service, ← forward stream (intent.getParcelableExtra "sample"))
  else if intent.getStringExtra "action" = some Actions.PacoUpdate then do
    return (service, ← forward stream (intent.getParcelableExtra "sample"))
  else .ok (service, [])

/-- A broadcast reaches every receiver of the cab when it has the cab's action. -/
def receive (cab : Cab) (intent : Intent (Sample D)) (service : CabService) :
    Except RuntimeException (CabService × List (Output D)) :=
  if intent.action = some cab.getId then
    Machine.handleAll (fun service stream => onReceive stream intent service)
      service.mediatorReceivers service
  else .ok (service, [])

def updateIntent (cab : Cab) (contextSample : Sample D) (sub : Option String) :
    Intent (Sample D) :=
  (Intent.ofAction sub)
    |>.putExtra "sample" (.sample (some contextSample))
    |>.putExtra "action" (.string (some Actions.CabUpdate))
    |>.putExtra "cabId" (.string (some cab.getId))

def onNext (cab : Cab) (contextSample : Sample D) (service : CabService) :
    List (Intent (Sample D)) :=
  service.subscriptions.map (updateIntent cab contextSample)

/-- `onStartCommand` comes with what `init()` does this time. -/
inductive Event (D : Type) where
  | onStartCommand (init : List InitStep)
  | receive (intent : Intent (Sample D))
  | onNext (contextSample : Sample D)
  deriving DecidableEq

def handle (cab : Cab) (service : CabService) :
    Event D → Except RuntimeException (CabService × List (Output D))
  | .onStartCommand init =>
      let started := onStartCommand cab init service
      .ok (started.1, started.2.map .broadcast)
  | .receive intent => receive cab intent service
  | .onNext contextSample => .ok (service, (onNext cab contextSample service).map .broadcast)

def machine (cab : Cab) : Machine (Except RuntimeException CabService) (Event D) (Output D) :=
  .ofHandler .fresh (handle cab)

def InitStep.subscribed : InitStep → Option MediatorStream
  | .subscribe stream => some stream
  | _ => none

def subscribed (events : List (Event D)) : List MediatorStream :=
  events.flatMap fun
    | .onStartCommand init => init.filterMap InitStep.subscribed
    | _ => []

def Event.sender (cab : Cab) : Event D → Option (Option String)
  | .receive intent =>
      if intent.action = some cab.getId ∧
          intent.getStringExtra "action" = some Actions.CabCabReg then
        some (intent.getStringExtra "cabId")
      else none
  | _ => none

/-- How many receivers have heard a registration of `cabId`: each of its messages
counts once for every stream that had been subscribed when it came. -/
def heard (cab : Cab) (cabId : Option String) : List (Event D) → ℕ → ℕ
  | [], _ => 0
  | event :: events, streams =>
      (if event.sender cab = some cabId then streams else 0) +
        heard cab cabId events (streams + (subscribed [event]).length)

theorem heard_concat (cab : Cab) (cabId : Option String) (events : List (Event D))
    (event : Event D) (streams : ℕ) :
    heard cab cabId (events ++ [event]) streams = heard cab cabId events streams +
      if event.sender cab = some cabId then streams + (subscribed events).length else 0 := by
  induction events generalizing streams with
  | nil => simp [heard, subscribed]
  | cons first events ih =>
      have hlength : (subscribed (first :: events)).length =
          (subscribed [first]).length + (subscribed events).length := by
        simp [subscribed]
      rw [List.cons_append, heard, heard, ih, hlength, Nat.add_assoc, Nat.add_assoc]

theorem runInit_service (cab : Cab) (init : List InitStep) (mediator : PacoMediator)
    (service : CabService) :
    (runInit cab init mediator service : CabService × List (Intent (Sample D))).1 =
      { service with mediatorReceivers :=
          service.mediatorReceivers ++ init.filterMap InitStep.subscribed } := by
  induction init generalizing mediator service with
  | nil => simp [runInit]
  | cons step init ih =>
      cases step with
      | take stream => exact ih (mediator.take stream) service
      | subscribe stream =>
          rw [runInit, InitStep.run, ih]
          simp [InitStep.subscribed]
      | submit => exact ih mediator service

theorem onReceive_subscriptions {stream : MediatorStream} {intent : Intent (Sample D)}
    {service after : CabService} {outputs : List (Output D)}
    (h : onReceive stream intent service = .ok (after, outputs)) :
    after.mediatorReceivers = service.mediatorReceivers ∧
      after.subscriptions = service.subscriptions ++
        if intent.getStringExtra "action" = some Actions.CabCabReg
          then [intent.getStringExtra "cabId"] else [] := by
  have hforward : ∀ {result : Except RuntimeException (List (Output D))},
      (do return (service, ← result)) = Except.ok (after, outputs) → service = after := by
    rintro (failure | forwarded) hresult
    · cases hresult
    · exact congrArg Prod.fst (Except.ok.inj hresult)
  unfold onReceive at h
  split at h
  · rename_i hreg
    obtain rfl := congrArg Prod.fst (Except.ok.inj h)
    exact ⟨rfl, by rw [if_pos hreg]⟩
  rename_i hreg
  rw [if_neg hreg, List.append_nil]
  split at h
  · obtain rfl := hforward h
    exact ⟨rfl, rfl⟩
  split at h
  · obtain rfl := hforward h
    exact ⟨rfl, rfl⟩
  · obtain rfl := congrArg Prod.fst (Except.ok.inj h)
    exact ⟨rfl, rfl⟩

theorem handleAll_subscriptions {intent : Intent (Sample D)} {streams : List MediatorStream}
    {service after : CabService} {outputs : List (Output D)}
    (h : Machine.handleAll (fun service stream => onReceive stream intent service)
      streams service = .ok (after, outputs)) :
    after.mediatorReceivers = service.mediatorReceivers ∧
      after.subscriptions = service.subscriptions ++
        if intent.getStringExtra "action" = some Actions.CabCabReg
          then List.replicate streams.length (intent.getStringExtra "cabId") else [] := by
  induction streams generalizing service outputs with
  | nil =>
      obtain rfl := congrArg Prod.fst (Except.ok.inj h)
      exact ⟨rfl, by simp⟩
  | cons stream streams ih =>
      obtain ⟨next, sent, more, hfirst, hrest, -⟩ := Machine.handleAll_cons_iff.mp h
      obtain ⟨hreceivers, hsubscriptions⟩ := onReceive_subscriptions hfirst
      obtain ⟨hreceiversRest, hsubscriptionsRest⟩ := ih hrest
      refine ⟨hreceiversRest.trans hreceivers, ?_⟩
      rw [hsubscriptionsRest, hsubscriptions]
      split
      · simp [List.replicate_succ]
      · simp

structure Explains (cab : Cab) (events : List (Event D)) (service : CabService) : Prop where
  mediatorReceivers : service.mediatorReceivers = subscribed events
  subscriptions : ∀ cabId, service.subscriptions.count cabId = heard cab cabId events 0

theorem subscribed_concat (events : List (Event D)) (event : Event D) :
    subscribed (events ++ [event]) = subscribed events ++ subscribed [event] := by
  simp [subscribed]

theorem Explains.handle {cab : Cab} {events : List (Event D)} {service after : CabService}
    {event : Event D} {outputs : List (Output D)} (h : Explains cab events service)
    (hok : handle cab service event = .ok (after, outputs)) :
    Explains cab (events ++ [event]) after := by
  cases event with
  | onStartCommand init =>
      have hafter : (onStartCommand cab init service : CabService ×
          List (Intent (Sample D))).1 = after := congrArg Prod.fst (Except.ok.inj hok)
      rw [onStartCommand, runInit_service] at hafter
      obtain rfl := hafter
      refine ⟨?_, ?_⟩
      · rw [subscribed_concat, ← h.mediatorReceivers]
        simp [subscribed]
      · intro cabId
        rw [heard_concat, if_neg (by simp [Event.sender]), Nat.add_zero]
        exact h.subscriptions cabId
  | receive intent =>
      have hsubscribed : subscribed (events ++ [.receive intent]) = subscribed events := by
        simp [subscribed]
      simp only [Cabs.handle, receive] at hok
      split at hok
      · rename_i haction
        obtain ⟨hreceivers, hsubscriptions⟩ := handleAll_subscriptions hok
        refine ⟨hreceivers.trans (h.mediatorReceivers.trans hsubscribed.symm), ?_⟩
        intro cabId
        rw [heard_concat, hsubscriptions, List.count_append, h.subscriptions,
          h.mediatorReceivers]
        by_cases hreg : intent.getStringExtra "action" = some Actions.CabCabReg
        · simp [Event.sender, haction, hreg, List.count_replicate]
        · simp [Event.sender, hreg]
      · rename_i haction
        obtain rfl := congrArg Prod.fst (Except.ok.inj hok)
        refine ⟨h.mediatorReceivers.trans hsubscribed.symm, ?_⟩
        intro cabId
        rw [heard_concat, if_neg (by simp [Event.sender, haction]), Nat.add_zero]
        exact h.subscriptions cabId
  | onNext contextSample =>
      obtain rfl := congrArg Prod.fst (Except.ok.inj hok)
      refine ⟨?_, ?_⟩
      · rw [subscribed_concat, h.mediatorReceivers]
        simp [subscribed]
      · intro cabId
        rw [heard_concat, if_neg (by simp [Event.sender]), Nat.add_zero]
        exact h.subscriptions cabId

theorem run_explained {cab : Cab} {events : List (Event D)} {service : CabService}
    (h : (machine cab).run events = .ok service) : Explains cab events service := by
  refine Machine.ofHandler_history_of_ok ⟨rfl, fun _ => rfl⟩ ?_ events h
  intro before service event after outputs hexplains hok
  exact hexplains.handle hok

/-- A registration of `cabId` came when a stream had been subscribed. -/
def Registered (cab : Cab) (events : List (Event D)) (cabId : Option String) : Prop :=
  AtSomeEvent (fun before event => event.sender cab = some cabId ∧ subscribed before ≠ [])
    events

theorem registered_iff (cab : Cab) (events : List (Event D)) (cabId : Option String) :
    Registered cab events cabId ↔ 0 < heard cab cabId events 0 := by
  induction events using List.reverseRecOn with
  | nil => simp [Registered, heard]
  | append_singleton events event ih =>
      rw [Registered, atSomeEvent_concat, ← Registered, ih, heard_concat, Nat.zero_add,
        ← List.length_pos_iff]
      split
      · rename_i hsender
        rw [and_iff_right hsender]
        omega
      · rename_i hsender
        simp [hsender]

def Output.intent : Output D → Option (Intent (Sample D))
  | .broadcast intent => some intent
  | .emit _ _ => none

structure UpdatedOnce (cab : Cab) (events : List (Event D)) (contextSample : Sample D)
    (sent : List (Intent (Sample D))) : Prop where
  copies : ∀ cabId, Registered cab events cabId →
    (sent.filter fun intent => intent.action = cabId).length = 1
  content : ∀ intent ∈ sent, ∃ cabId, Registered cab events cabId ∧
    intent = updateIntent cab contextSample cabId

/-- Each `onNext` of a service that no exception has ended updates every registered
cab exactly once. -/
def UpdatesExactlyOnce (cab : Cab) : List (Event D) → Prop :=
  AtEachEvent fun before event => ∀ contextSample, event = .onNext contextSample →
    ∀ service, (machine cab).run before = .ok service →
      UpdatedOnce cab before contextSample
        (((machine cab).emitAfter before event).filterMap Output.intent)

theorem emitAfter_onNext {cab : Cab} {events : List (Event D)} {service : CabService}
    (h : (machine cab).run events = .ok service) (contextSample : Sample D) :
    ((machine cab).emitAfter events (.onNext contextSample)).filterMap Output.intent =
      service.subscriptions.map (updateIntent cab contextSample) := by
  have hhandled : handle cab service (.onNext contextSample) =
      .ok (service, (onNext cab contextSample service).map .broadcast) := rfl
  rw [machine, Machine.ofHandler_emitAfter h hhandled, List.filterMap_map]
  exact List.filterMap_some

theorem copies_eq {cab : Cab} {events : List (Event D)} {service : CabService}
    (h : (machine cab).run events = .ok service) (contextSample : Sample D)
    (cabId : Option String) :
    ((((machine cab).emitAfter events (.onNext contextSample)).filterMap
        Output.intent).filter fun intent => intent.action = cabId).length =
      heard cab cabId events 0 := by
  have haction : (fun intent : Intent (Sample D) => decide (intent.action = cabId)) ∘
      updateIntent cab contextSample = fun sub => sub == cabId := by
    funext sub
    rw [beq_eq_decide]
    rfl
  rw [emitAfter_onNext h, List.filter_map, List.length_map, haction,
    ← (run_explained h).subscriptions, List.count_eq_length_filter]

theorem updatedOnce_iff {cab : Cab} {events : List (Event D)} {service : CabService}
    (h : (machine cab).run events = .ok service) (contextSample : Sample D) :
    UpdatedOnce cab events contextSample
        (((machine cab).emitAfter events (.onNext contextSample)).filterMap Output.intent) ↔
      ∀ cabId, heard cab cabId events 0 ≤ 1 := by
  constructor
  · rintro ⟨hcopies, -⟩ cabId
    by_contra hmany
    have hregistered : Registered cab events cabId :=
      (registered_iff cab events cabId).mpr (by omega)
    have hone := hcopies cabId hregistered
    rw [copies_eq h] at hone
    omega
  · intro hheard
    refine ⟨?_, ?_⟩
    · intro cabId hregistered
      rw [copies_eq h]
      exact le_antisymm (hheard cabId) ((registered_iff cab events cabId).mp hregistered)
    · intro intent hintent
      rw [emitAfter_onNext h] at hintent
      obtain ⟨cabId, hcabId, rfl⟩ := List.mem_map.mp hintent
      refine ⟨cabId, (registered_iff cab events cabId).mpr ?_, rfl⟩
      rw [← (run_explained h).subscriptions]
      exact List.count_pos_iff.mpr hcabId

/-- Updates go out exactly once exactly when no cab has been heard by two receivers:
it registered once, at a time when a single stream had been subscribed. -/
theorem updates_exactly_once_iff (cab : Cab) (events : List (Event D)) :
    UpdatesExactlyOnce cab events ↔
      AtEachEvent (fun before event => ∀ contextSample, event = .onNext contextSample →
        ∀ service, (machine cab).run before = .ok service →
          ∀ cabId, heard cab cabId before 0 ≤ 1) events := by
  refine atEachEvent_iff ?_ events
  intro before event
  constructor
  · rintro hupdated contextSample rfl service hrun
    exact (updatedOnce_iff hrun contextSample).mp (hupdated contextSample rfl service hrun)
  · rintro hheard contextSample rfl service hrun
    exact (updatedOnce_iff hrun contextSample).mpr (hheard contextSample rfl service hrun)

def activity : Cab := ⟨"com.ut.mpc.contextengine.cabs.activity", "Activity"⟩

def activityInit : List InitStep :=
  [.take (.cab "com.ut.mpc.contextengine.cabs.abstractlocation"),
    .take (.sensor .gps), .take (.sensor .accelerometer),
    .subscribe (.cab "com.ut.mpc.contextengine.cabs.abstractlocation"),
    .subscribe (.sensor .gps), .subscribe (.sensor .accelerometer), .submit]

def safetyRegisters : List (Event ℚ) :=
  [.onStartCommand activityInit,
    .receive (PacoMediator.cabRegIntent "com.ut.mpc.contextengine.cabs.safety" "Safety"
      activity.getId)]

/-- `Activity` subscribes three streams, so it answers the one registration by three
updates. -/
theorem activity_updates_thrice :
    ¬ UpdatesExactlyOnce activity
      (safetyRegisters ++ [.onNext ⟨4 / 5, some activity.getId, none⟩]) := by
  intro hupdates
  have hrun : (machine activity).run safetyRegisters =
      .ok ⟨List.replicate 3 (some "com.ut.mpc.contextengine.cabs.safety"),
        activityInit.filterMap InitStep.subscribed⟩ := rfl
  have honce := hupdates safetyRegisters _ [] rfl _ rfl _ hrun
  have hheard := (updatedOnce_iff hrun _).mp honce (some "com.ut.mpc.contextengine.cabs.safety")
  exact absurd hheard (by decide)

end LSTAndroid.Cabs
