import LSTAndroid.Cabs

namespace LSTAndroid.Streams

open LSTAndroid.Library.EventMachine
open LSTAndroid.Samples
open LSTAndroid.Mediator
open LSTAndroid.Cabs

variable {D : Type}

/-- The receiver with its number; two subscriptions of one stream differ in it. -/
def onReceiveAs (receiver : MediatorStream × ℕ) (intent : Intent (Sample D))
    (service : CabService) : Except RuntimeException (CabService × List (ℕ × Output D)) :=
  (onReceive receiver.1 intent service).map fun (after, outputs) =>
    (after, outputs.map fun output => (receiver.2, output))

/-- `Cabs.receive`, with each output marked by the receiver that it comes from. -/
def receiveEach (cab : Cab) (intent : Intent (Sample D)) (service : CabService) :
    Except RuntimeException (CabService × List (ℕ × Output D)) :=
  if intent.action = some cab.getId then
    Machine.handleAll (fun service receiver => onReceiveAs receiver intent service)
      service.mediatorReceivers.zipIdx service
  else .ok (service, [])

theorem onReceiveAs_unmarked (receiver : MediatorStream × ℕ) (intent : Intent (Sample D))
    (service : CabService) :
    (onReceiveAs receiver intent service).map (Prod.map id (List.map Prod.snd)) =
      onReceive receiver.1 intent service := by
  unfold onReceiveAs
  rcases onReceive receiver.1 intent service with failure | ⟨after, outputs⟩
  · rfl
  · simp only [Except.map, Prod.map_apply, id_eq, List.map_map]
    exact congrArg (fun outputs => Except.ok (after, outputs)) (List.map_id outputs)

theorem receiveEach_unmarked (cab : Cab) (intent : Intent (Sample D)) (service : CabService) :
    (receiveEach cab intent service).map (Prod.map id (List.map Prod.snd)) =
      receive cab intent service := by
  unfold receiveEach receive
  split
  · calc
      _ = Machine.handleAll (fun service stream => onReceive stream intent service)
          (service.mediatorReceivers.zipIdx.map Prod.fst) service :=
        Machine.handleAll_map (fun service receiver =>
          onReceiveAs_unmarked receiver intent service) _ _
      _ = _ := by rw [List.zipIdx_map_fst]
  · rfl

/-- The cab handles the intents in the order of their delivery. -/
def receiveAll (cab : Cab) (intents : List (Intent (Sample D))) (service : CabService) :
    Except RuntimeException (CabService × List (ℕ × Output D)) :=
  Machine.handleAll (fun service intent => receiveEach cab intent service) intents service

def emittedBy (receiver : ℕ) (outputs : List (ℕ × Output D)) : List (Sample D) :=
  outputs.filterMap fun
    | (number, .emit _ sample) => if number = receiver then some sample else none
    | _ => none

/-- A registration, or an update with a sample that has a type. -/
inductive WellFormed (cab : Cab) (intent : Intent (Sample D)) : Prop where
  | cabCabReg (haction : intent.action = some cab.getId)
      (hkind : intent.getStringExtra "action" = some Actions.CabCabReg)
  | update {sample : Sample D} {type : String} (haction : intent.action = some cab.getId)
      (hkind : intent.getStringExtra "action" = some Actions.CabUpdate ∨
        intent.getStringExtra "action" = some Actions.PacoUpdate)
      (hsample : intent.getParcelableExtra "sample" = some sample)
      (htype : sample.type = some type)

def delivered (intent : Intent (Sample D)) : Option (Sample D) :=
  if intent.getStringExtra "action" = some Actions.CabUpdate ∨
      intent.getStringExtra "action" = some Actions.PacoUpdate then
    intent.getParcelableExtra "sample"
  else none

def emission (stream : MediatorStream) (intent : Intent (Sample D)) : List (Sample D) :=
  (delivered intent).toList.filter fun sample => sample.type = some stream.filterTag

theorem forward_typed (stream : MediatorStream) {sample : Sample D} {type : String}
    (htype : sample.type = some type) :
    forward stream (some sample) =
      .ok (([sample].filter fun sample => sample.type = some stream.filterTag).map
        (.emit stream)) := by
  rcases eq_or_ne type stream.filterTag with rfl | hother
  · simp [forward, Sample.isType, htype, bind, Except.bind, pure, Except.pure]
  · simp [forward, Sample.isType, htype, hother, bind, Except.bind, pure, Except.pure]

theorem onReceive_wellFormed {cab : Cab} {intent : Intent (Sample D)} (h : WellFormed cab intent)
    (stream : MediatorStream) (service : CabService) :
    ∃ after, onReceive stream intent service =
        .ok (after, (emission stream intent).map (.emit stream)) ∧
      after.mediatorReceivers = service.mediatorReceivers := by
  cases h with
  | cabCabReg haction hkind =>
      refine ⟨{ service with
        subscriptions := service.subscriptions ++ [intent.getStringExtra "cabId"] }, ?_, rfl⟩
      have hnone : delivered intent = none := by
        rw [delivered, hkind]
        rfl
      rw [onReceive, if_pos hkind, emission, hnone]
      rfl
  | @update sample type haction hkind hsample htype =>
      refine ⟨service, ?_, rfl⟩
      have hsome : delivered intent = some sample := by
        rw [delivered, if_pos hkind, hsample]
      have hnotReg : intent.getStringExtra "action" ≠ some Actions.CabCabReg := by
        rcases hkind with hkind | hkind
        · rw [hkind]
          decide
        · rw [hkind]
          decide
      rw [onReceive, if_neg hnotReg, emission, hsome, hsample, forward_typed stream htype]
      split
      · rfl
      · rename_i hnotUpdate
        rw [if_pos (hkind.resolve_left hnotUpdate)]
        rfl

def marked (streams : List MediatorStream) (intent : Intent (Sample D)) :
    List (ℕ × Output D) :=
  streams.zipIdx.flatMap fun receiver =>
    (emission receiver.1 intent).map fun sample => (receiver.2, .emit receiver.1 sample)

theorem receiveEach_wellFormed {cab : Cab} {intent : Intent (Sample D)}
    (h : WellFormed cab intent) {streams : List MediatorStream} {service : CabService}
    (hstreams : service.mediatorReceivers = streams) :
    ∃ after, receiveEach cab intent service = .ok (after, marked streams intent) ∧
      after.mediatorReceivers = streams := by
  have haction : intent.action = some cab.getId := by
    cases h with
    | cabCabReg haction _ => exact haction
    | update haction _ _ _ => exact haction
  rw [receiveEach, if_pos haction, hstreams]
  refine Machine.handleAll_flatMap ?_ hstreams
  intro receiver _ state hstate
  obtain ⟨after, hreceive, hafter⟩ := onReceive_wellFormed h receiver.1 state
  refine ⟨after, ?_, hafter.trans hstate⟩
  simp [onReceiveAs, hreceive, Except.map]

theorem receiveAll_wellFormed {cab : Cab} {intents : List (Intent (Sample D))}
    (h : ∀ intent ∈ intents, WellFormed cab intent) {streams : List MediatorStream}
    {service : CabService} (hstreams : service.mediatorReceivers = streams) :
    ∃ after, receiveAll cab intents service = .ok (after, intents.flatMap (marked streams)) ∧
      after.mediatorReceivers = streams :=
  Machine.handleAll_flatMap
    (fun intent hintent _ hstate => receiveEach_wellFormed (h intent hintent) hstate) hstreams

theorem emittedBy_flatMap {A : Type} (k : ℕ) (f : A → List (ℕ × Output D)) (items : List A) :
    emittedBy k (items.flatMap f) = items.flatMap fun item => emittedBy k (f item) := by
  rw [emittedBy, List.filterMap_flatMap]
  rfl

theorem emittedBy_map_emit (k number : ℕ) (stream : MediatorStream) (samples : List (Sample D)) :
    emittedBy k (samples.map fun sample => (number, .emit stream sample)) =
      if number = k then samples else [] := by
  rw [emittedBy, List.filterMap_map]
  split
  · rename_i hnumber
    simp [hnumber]
  · rename_i hnumber
    simp [hnumber]

theorem flatMap_zipIdx_eq {A B : Type} (items : List A) (f : A → List B) (first k : ℕ) :
    ((items.zipIdx first).flatMap fun item => if item.2 = first + k then f item.1 else []) =
      (items[k]?.map f).getD [] := by
  induction items generalizing first k with
  | nil => rfl
  | cons item items ih =>
      rw [List.zipIdx_cons, List.flatMap_cons]
      cases k with
      | zero =>
          have hlater : ((items.zipIdx (first + 1)).flatMap fun item =>
              if item.2 = first + 0 then f item.1 else []) = [] := by
            rw [List.flatMap_eq_nil_iff]
            intro other hother
            have hnumber := List.le_snd_of_mem_zipIdx hother
            rw [if_neg (by omega)]
          rw [hlater]
          simp
      | succ k =>
          have hnext := ih (first + 1) k
          rw [show first + 1 + k = first + (k + 1) by omega] at hnext
          rw [if_neg (by omega), hnext]
          rfl

theorem emittedBy_marked {streams : List MediatorStream} {k : ℕ} {stream : MediatorStream}
    (hstream : streams[k]? = some stream) (intent : Intent (Sample D)) :
    emittedBy k (marked streams intent) = emission stream intent := by
  have hone := flatMap_zipIdx_eq streams (fun stream => emission stream intent) 0 k
  rw [hstream] at hone
  rw [marked, emittedBy_flatMap]
  simp only [emittedBy_map_emit]
  simpa using hone

theorem flatMap_emission (stream : MediatorStream) (intents : List (Intent (Sample D))) :
    intents.flatMap (emission stream) =
      (intents.filterMap delivered).filter fun sample => sample.type = some stream.filterTag := by
  induction intents with
  | nil => rfl
  | cons intent intents ih =>
      rw [List.flatMap_cons, ih, emission]
      rcases hdelivered : delivered intent with _ | sample
      · rw [List.filterMap_cons_none hdelivered]
        rfl
      · rw [List.filterMap_cons_some hdelivered, ← List.singleton_append, List.filter_append]
        rfl

/-- Every subscription of one `init()` emits the delivered samples of its own type, in
the order of their delivery and each once. -/
theorem streams_faithful (cab : Cab) (init : List InitStep) {intents : List (Intent (Sample D))}
    (hwellFormed : ∀ intent ∈ intents, WellFormed cab intent) :
    ∃ after outputs, receiveAll cab intents
        (onStartCommand cab init .fresh : CabService × List (Intent (Sample D))).1 =
          .ok (after, outputs) ∧
      ∀ k stream, (init.filterMap InitStep.subscribed)[k]? = some stream →
        emittedBy k outputs =
          (intents.filterMap delivered).filter fun sample =>
            sample.type = some stream.filterTag := by
  have hstarted : (onStartCommand cab init .fresh : CabService ×
      List (Intent (Sample D))).1.mediatorReceivers = init.filterMap InitStep.subscribed := by
    rw [onStartCommand, runInit_service]
    rfl
  obtain ⟨after, hreceive, -⟩ := receiveAll_wellFormed hwellFormed hstarted
  refine ⟨after, _, hreceive, fun k stream hstream => ?_⟩
  rw [emittedBy_flatMap, ← flatMap_emission]
  apply congrArg (fun f => intents.flatMap f)
  funext intent
  exact emittedBy_marked hstream intent

def safety : Cab := ⟨"com.ut.mpc.contextengine.cabs.safety", "Safety"⟩

def gpsUpdate : Intent (Sample ℚ) :=
  updateIntent safety ⟨4 / 5, some "gps", none⟩ (some activity.getId)

theorem activity_streams_faithful :
    ∃ after outputs, receiveAll activity
        [PacoMediator.cabRegIntent safety.getId "Safety" activity.getId, gpsUpdate]
        (onStartCommand activity activityInit .fresh :
          CabService × List (Intent (Sample ℚ))).1 = .ok (after, outputs) ∧
      ∀ k stream, (activityInit.filterMap InitStep.subscribed)[k]? = some stream →
        emittedBy k outputs =
          ([PacoMediator.cabRegIntent safety.getId "Safety" activity.getId,
              gpsUpdate].filterMap delivered).filter fun sample =>
            sample.type = some stream.filterTag :=
  streams_faithful activity activityInit (by
    intro intent hintent
    rcases List.mem_cons.mp hintent with rfl | hintent
    · exact .cabCabReg rfl rfl
    · rw [List.mem_singleton.mp hintent]
      exact .update rfl (.inl rfl) rfl rfl)

end LSTAndroid.Streams
