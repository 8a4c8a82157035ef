import LSTAndroid.Library.EventMachine

/-!
The client side of the context stream: `PacoReceiver` keeps what an application subscribes
to, and gets the samples as update intents.

Only the position of an observable comes back in an update. `addSubscriber` has the line
that would keep the callback of that position commented out, and so has `subscribe`.
-/

namespace LSTAndroid.PacoReceiver

open LSTAndroid.Library.EventMachine

/-- `T` is the class of the samples, `R` what they are mapped to, and a callback is known
by its name in `A`. -/
structure PacoObservable (T R : Type) where
  filterFuncs : List (T → Bool)
  mapFuncs : List (T → R)

variable {T R A : Type}

namespace PacoObservable

def filter (ob : PacoObservable T R) (func : T → Bool) : PacoObservable T R :=
  { ob with filterFuncs := ob.filterFuncs ++ [func] }

def map (ob : PacoObservable T R) (func : T → R) : PacoObservable T R :=
  { ob with mapFuncs := ob.mapFuncs ++ [func] }

/-- The assignment of `onNext` is commented out. -/
def subscribe (ob : PacoObservable T R) (_onNext : A) : PacoObservable T R :=
  ob

end PacoObservable

inductive BuilderCall (T R A : Type) where
  | filter (func : T → Bool)
  | map (func : T → R)
  | subscribe (onNext : A)

def BuilderCall.apply (ob : PacoObservable T R) : BuilderCall T R A → PacoObservable T R
  | .filter func => ob.filter func
  | .map func => ob.map func
  | .subscribe onNext => ob.subscribe onNext

def BuilderCall.callback : BuilderCall T R A → Option A
  | .subscribe onNext => some onNext
  | _ => none

/-- The calls by which an application builds an observable; the last `subscribe` of the
chain gives the callback. -/
structure Subscription (T R A : Type) where
  calls : List (BuilderCall T R A)
  onNext : A
  subscribed : (calls.filterMap BuilderCall.callback).getLast? = some onNext

structure Statics (T R A : Type) where
  obs : List (PacoObservable T R)
  actions : List A
  packageId : Option String

/-- The serializable extra of an intent. -/
inductive Extra (T : Type) where
  | contextSample (item : T)
  | other

structure Intent (T : Type) where
  action : Option String
  obsIndex : Option ℤ
  context : Option (Extra T)

inductive ReceiverException where
  | nullPointer
  | classCast
  | indexOutOfBounds
  deriving DecidableEq

/-- `call(item)` on a callback. -/
structure Call (T A : Type) where
  callback : A
  item : Option T

def getContextStream : PacoObservable T R := ⟨[], []⟩

def Subscription.observable (subscription : Subscription T R A) : PacoObservable T R :=
  subscription.calls.foldl BuilderCall.apply getContextStream

def addSubscriber (ob : PacoObservable T R) (statics : Statics T R A) : Statics T R A :=
  { statics with obs := statics.obs ++ [ob] }

def setPackageId (id : Option String) (statics : Statics T R A) : Statics T R A :=
  { statics with packageId := id }

def isInit (statics : Statics T R A) : Bool :=
  statics.packageId.isSome

/-- `actions.get(indexId)`. -/
def getAction (actions : List A) (indexId : ℤ) : Except ReceiverException A :=
  if indexId < 0 then .error .indexOutOfBounds
  else
    match actions[indexId.toNat]? with
    | none => .error .indexOutOfBounds
    | some callback => .ok callback

/-- `getSerializable("context")`, cast to a context sample. -/
def Intent.contextSample (intent : Intent T) : Except ReceiverException (Option T) :=
  match intent.context with
  | none => .ok none
  | some (.contextSample item) => .ok (some item)
  | some .other => .error .classCast

def onReceive (intent : Intent T) (statics : Statics T R A) :
    Except ReceiverException (List (Call T A)) :=
  if isInit statics then
    match intent.action with
    | none => .error .nullPointer
    | some action =>
        if action = "update" then do
          let indexId := intent.obsIndex.getD 0
          let item ← intent.contextSample
          let callback ← getAction statics.actions indexId
          return [⟨callback, item⟩]
        else .ok []
  else .ok []

inductive Event (T R A : Type) where
  | addSubscriber (subscription : Subscription T R A)
  | setPackageId (id : Option String)
  | onReceive (intent : Intent T)

def handle (statics : Statics T R A) :
    Event T R A → Except ReceiverException (Statics T R A × List (Call T A))
  | .addSubscriber subscription => .ok (addSubscriber subscription.observable statics, [])
  | .setPackageId id => .ok (setPackageId id statics, [])
  | .onReceive intent => (onReceive intent statics).map fun calls => (statics, calls)

/-- An exception of `onReceive` ends the application. -/
def receiver (T R A : Type) :
    Machine (Except ReceiverException (Statics T R A)) (Event T R A) (Call T A) :=
  .ofHandler ⟨[], [], none⟩ handle

def Event.added : Event T R A → Option (Subscription T R A)
  | .addSubscriber subscription => some subscription
  | _ => none

def added (events : List (Event T R A)) : List (Subscription T R A) :=
  events.filterMap Event.added

def packageIdAfter (events : List (Event T R A)) : Option String :=
  events.foldl (fun id event => match event with | .setPackageId next => next | _ => id) none

/-- An update of the observable at position `i`, with its sample. -/
def Intent.Updates (intent : Intent T) (i : ℕ) (item : T) : Prop :=
  intent.action = some "update" ∧ intent.obsIndex.getD 0 = i ∧
    intent.context = some (.contextSample item)

/-- An update for an observable that was added, at an application that has set its package
id. -/
def UpdatesAdded (before : List (Event T R A)) (event : Event T R A)
    (subscription : Subscription T R A) (item : T) : Prop :=
  ∃ intent i, event = .onReceive intent ∧ intent.Updates i item ∧
    (added before)[i]? = some subscription ∧ packageIdAfter before ≠ none

/-- The event is handled, and it invokes this callback once and no other. -/
def InvokesOnly (before : List (Event T R A)) (event : Event T R A) (call : Call T A) : Prop :=
  ∃ after, (receiver T R A).run (before ++ [event]) = .ok after ∧
    (receiver T R A).emitAfter before event = [call]

def Dispatches (before : List (Event T R A)) (event : Event T R A) : Prop :=
  ∀ subscription item, UpdatesAdded before event subscription item →
    InvokesOnly before event ⟨subscription.onNext, some item⟩

structure Tracks (before : List (Event T R A)) (statics : Statics T R A) : Prop where
  obs : statics.obs = (added before).map Subscription.observable
  actions : statics.actions = []
  packageId : statics.packageId = packageIdAfter before

theorem tracks_nil : Tracks ([] : List (Event T R A)) ⟨[], [], none⟩ :=
  ⟨rfl, rfl, rfl⟩

theorem handle_tracks {before : List (Event T R A)} {statics after : Statics T R A}
    {event : Event T R A} {calls : List (Call T A)} (h : Tracks before statics)
    (hok : handle statics event = .ok (after, calls)) : Tracks (before ++ [event]) after := by
  obtain ⟨hobs, hactions, hpackageId⟩ := h
  cases event with
  | addSubscriber subscription =>
      obtain ⟨rfl, rfl⟩ := Prod.mk.inj (Except.ok.inj hok)
      refine ⟨?_, hactions, ?_⟩
      · simp [addSubscriber, hobs, added, Event.added]
      · simp [addSubscriber, hpackageId, packageIdAfter]
  | setPackageId id =>
      obtain ⟨rfl, rfl⟩ := Prod.mk.inj (Except.ok.inj hok)
      refine ⟨?_, hactions, ?_⟩
      · simp [setPackageId, hobs, added, Event.added]
      · simp [setPackageId, packageIdAfter]
  | onReceive intent =>
      obtain ⟨_, _, hreceived⟩ := map_eq_ok_iff.mp hok
      obtain ⟨rfl, rfl⟩ := Prod.mk.inj hreceived
      refine ⟨?_, hactions, ?_⟩
      · simp [hobs, added, Event.added]
      · simp [hpackageId, packageIdAfter]

theorem run_tracks {events : List (Event T R A)} {statics : Statics T R A}
    (h : (receiver T R A).run events = .ok statics) : Tracks events statics :=
  Machine.ofHandler_history_of_ok tracks_nil (fun _ _ _ _ _ => handle_tracks) events h

theorem getAction_nil (indexId : ℤ) :
    getAction ([] : List A) indexId = .error .indexOutOfBounds := by
  simp [getAction]

theorem handle_updatesAdded {before : List (Event T R A)} {statics : Statics T R A}
    {event : Event T R A} {subscription : Subscription T R A} {item : T}
    (h : Tracks before statics) (hupdates : UpdatesAdded before event subscription item) :
    handle statics event = .error .indexOutOfBounds := by
  obtain ⟨intent, i, rfl, ⟨haction, hindex, hcontext⟩, -, hpackageId⟩ := hupdates
  have hinit : isInit statics = true := by
    rw [isInit, h.packageId]
    exact Option.isSome_iff_ne_none.mpr hpackageId
  simp [handle, onReceive, hinit, haction, Intent.contextSample, hcontext, h.actions,
    getAction_nil, bind, Except.bind, Except.map]

theorem not_invokesOnly {before : List (Event T R A)} {event : Event T R A}
    {subscription : Subscription T R A} {item : T}
    (hupdates : UpdatesAdded before event subscription item) (call : Call T A) :
    ¬ InvokesOnly before event call := by
  rintro ⟨after, hrun, -⟩
  rw [Machine.run_concat] at hrun
  rcases hbefore : (receiver T R A).run before with failure | statics
  · rw [hbefore] at hrun
    cases hrun
  · have herror := handle_updatesAdded (run_tracks hbefore) hupdates
    rw [hbefore] at hrun
    simp [receiver, Machine.ofHandler, Except.bind, Except.map, herror] at hrun

theorem dispatches_iff_not_updatesAdded (before : List (Event T R A)) (event : Event T R A) :
    Dispatches before event ↔
      ∀ subscription item, ¬ UpdatesAdded before event subscription item := by
  constructor
  · intro hdispatches subscription item hupdates
    exact not_invokesOnly hupdates _ (hdispatches subscription item hupdates)
  · intro hnone subscription item hupdates
    exact absurd hupdates (hnone subscription item)

/-- No update for an added observable ever reaches its callback, and the two lists have
the same length only as long as no observable is added. -/
theorem dispatches_iff (events : List (Event T R A)) :
    (AtEachEvent Dispatches events ↔
      AtEachEvent (fun before event =>
        ∀ subscription item, ¬ UpdatesAdded before event subscription item) events) ∧
    ∀ statics, (receiver T R A).run events = .ok statics →
      (statics.actions.length = statics.obs.length ↔ added events = []) := by
  refine ⟨atEachEvent_iff dispatches_iff_not_updatesAdded events, fun statics hrun => ?_⟩
  obtain ⟨hobs, hactions, -⟩ := run_tracks hrun
  rw [hobs, hactions, List.length_map, List.length_nil, eq_comm, List.length_eq_zero_iff]

/-- `getContextStream().filter(..).subscribe(..)`, the callback being "onNext". -/
def subscription : Subscription String Unit String where
  calls := [.filter fun item => item == "gps", .subscribe "onNext"]
  onNext := "onNext"
  subscribed := rfl

def setup : List (Event String Unit String) :=
  [.addSubscriber subscription, .setPackageId (some "com.example.demoapp1")]

def firstUpdate : Event String Unit String :=
  .onReceive ⟨some "update", some 0, some (.contextSample "gps")⟩

/-- The first update of the only observable ends the application. -/
theorem first_update_fails :
    UpdatesAdded setup firstUpdate subscription "gps" ∧
      (receiver String Unit String).run (setup ++ [firstUpdate]) =
        .error .indexOutOfBounds ∧
      ¬ InvokesOnly setup firstUpdate ⟨"onNext", some "gps"⟩ := by
  have hupdates : UpdatesAdded setup firstUpdate subscription "gps" :=
    ⟨_, 0, rfl, ⟨rfl, rfl, rfl⟩, rfl, by simp [packageIdAfter, setup]⟩
  exact ⟨hupdates, rfl, not_invokesOnly hupdates _⟩

end LSTAndroid.PacoReceiver
