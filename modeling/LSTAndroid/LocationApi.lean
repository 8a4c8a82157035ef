import LSTAndroid.LocationPoll

namespace LSTAndroid.LocationApi

open LSTAndroid.Library.EventMachine
open LSTAndroid.TableStore
open LSTAndroid.LocationPoll

variable {D K : Type}

def Effect.callsLocationApi : Effect K → Bool
  | .requestLocationUpdates _ _ => true
  | .removeLocationUpdates _ => true
  | _ => false

/-- The events whose handlers test for a client object: the four commands and
`onDestroy`. -/
def Event.testsClient : Event D K → Bool
  | .onStartCommand action => isLoadCommand action || action = "clearstop"
  | .onDestroy => true
  | _ => false

/-- The instance that an event comes to, its client as the callback reports it. -/
def Event.receiver (instances : Instances) : Event D K → Option Instance
  | .callback call => some (instances.toInstance.afterCallback call)
  | .ofDestroyed index call => instances.destroyed[index]?.map (·.afterCallback call)
  | _ => some instances.toInstance

def Callback.Calls (receiver : Instance) (call : Callback D) : Prop :=
  receiver.mGoogleApiClient.isSome = true ∧ call = .onConnected

def Event.Calls (instances : Instances) : Event D K → Prop
  | .callback call => Callback.Calls instances.toInstance call
  | .ofDestroyed index call => ∃ former ∈ instances.destroyed[index]?, Callback.Calls former call
  | event => instances.mGoogleApiClient.isSome = true ∧ Event.testsClient event = true

def CallsApi (effects : List (Effect K)) : Prop :=
  ∃ effect ∈ effects, Effect.callsLocationApi effect = true

theorem callsApi_ite {P : Prop} [Decidable P] {effect : Effect K}
    (h : Effect.callsLocationApi effect = true) :
    CallsApi (if P then [effect] else []) ↔ P := by
  by_cases hP : P <;> simp [CallsApi, hP, h]

theorem insertInto_silent {store : SQLiteStore} {point : SpaceTime.FullPoint K}
    {storage after : Storage K} {effects : List (Effect K)}
    (h : insertInto store point storage = .ok (after, effects)) : ¬ CallsApi effects := by
  unfold insertInto at h
  obtain ⟨⟨inserted, written⟩, -, h⟩ := bind_eq_ok_iff.mp h
  obtain ⟨-, rfl⟩ := Prod.mk.inj (Except.ok.inj h)
  cases inserted <;> simp [CallsApi, Effect.callsLocationApi]

theorem filterInsert_silent {platform : Platform D K} {filter : LSTFilter}
    {point : SpaceTime.FullPoint K} {storage after : Storage K} {effects : List (Effect K)}
    (h : filter.insert platform point storage = .ok (after, effects)) : ¬ CallsApi effects := by
  cases filter with
  | cloud =>
      obtain ⟨-, rfl⟩ := Prod.mk.inj (Except.ok.inj h)
      simp [CallsApi, Effect.callsLocationApi]
  | onStructure store smart =>
      simp only [LSTFilter.insert] at h
      split at h
      · obtain ⟨-, rfl⟩ := Prod.mk.inj (Except.ok.inj h)
        simp [CallsApi]
      · exact insertInto_silent h

theorem beginLocation_calls {service after : Service K} {effects : List (Effect K)}
    {client : Option Connection} (hclient : service.mGoogleApiClient = client)
    (h : beginLocation service = .ok (after, effects)) :
    CallsApi effects ↔ client.isSome = true := by
  rw [beginLocation_eq, hclient] at h
  obtain ⟨-, rfl⟩ := Prod.mk.inj (Except.ok.inj h)
  exact callsApi_ite rfl

theorem stopBuilt_calls {service after : Service K} {effects : List (Effect K)}
    {client : Option Connection} (hclient : service.mGoogleApiClient = client)
    (h : stopBuilt service = .ok (after, effects)) :
    CallsApi effects ↔ client.isSome = true := by
  rw [stopBuilt_eq, hclient] at h
  obtain ⟨-, rfl⟩ := Prod.mk.inj (Except.ok.inj h)
  exact callsApi_ite rfl

theorem onStartCommand_calls {action : String} {service after : Service K}
    {effects : List (Effect K)} (hsound : service.Sound)
    (h : onStartCommand action service = .ok (after, effects)) :
    CallsApi effects ↔
      Event.Calls service.toInstances (.onStartCommand action : Event D K) := by
  have htests : (isLoadCommand action || action = "clearstop") = true →
      (CallsApi effects ↔ service.mGoogleApiClient.isSome = true) →
      (CallsApi effects ↔
        Event.Calls service.toInstances (.onStartCommand action : Event D K)) := by
    intro hcommand hcalls
    rw [hcalls]
    exact (and_iff_left hcommand).symm
  cases onStartCommand_outcome hsound.installed h with
  | stdTableOnload haction hrows hbegin =>
      exact htests (by simp [isLoadCommand, haction]) (beginLocation_calls (by rfl) hbegin)
  | rtreeOnload haction hrows hbegin =>
      exact htests (by simp [isLoadCommand, haction]) (beginLocation_calls (by rfl) hbegin)
  | cloudOffload haction hbegin =>
      exact htests (by simp [isLoadCommand, haction]) (beginLocation_calls (by rfl) hbegin)
  | clearStop haction hrows hstop =>
      exact htests (by simp [haction]) (stopBuilt_calls (by rfl) hstop)
  | unknown hactions hafter heffects =>
      simp only [List.mem_cons, List.not_mem_nil, or_false, not_or] at hactions
      obtain ⟨hstd, hrtree, hcloud, hclear⟩ := hactions
      rw [heffects]
      exact iff_of_false (by simp [CallsApi])
        (by simp [Event.Calls, Event.testsClient, isLoadCommand, hstd, hrtree, hcloud, hclear])

theorem handleCallback_calls (platform : Platform D K) (call : Callback D)
    {service after : Service K} {effects : List (Effect K)}
    (hupdates : service.locationUpdates = true)
    (h : handleCallback platform call service = .ok (after, effects)) :
    CallsApi effects ↔ Callback.Calls service.toInstance call := by
  cases call with
  | onConnected =>
      obtain ⟨-, rfl⟩ :=
        Prod.mk.inj (Except.ok.inj ((onConnected_eq (D := D) hupdates).symm.trans h))
      rw [callsApi_ite rfl]
      exact (and_iff_left rfl).symm
  | onConnectionSuspended =>
      obtain ⟨-, rfl⟩ := Prod.mk.inj (Except.ok.inj h)
      simp [CallsApi, Callback.Calls]
  | onLocationChanged location now =>
      refine iff_of_false ?_ (by simp [Callback.Calls])
      simp only [handleCallback, onLocationChanged] at h
      split at h
      · obtain ⟨-, rfl⟩ := Prod.mk.inj (Except.ok.inj h)
        simp [CallsApi]
      · obtain ⟨⟨storage, inserted⟩, hinsert, h⟩ := bind_eq_ok_iff.mp h
        obtain ⟨-, rfl⟩ := Prod.mk.inj (Except.ok.inj h)
        exact filterInsert_silent hinsert

theorem handle_calls [Zero K] (platform : Platform D K) (event : Event D K)
    {service after : Service K} {effects : List (Effect K)} (hsound : service.Sound)
    (h : handle platform event service = .ok (after, effects)) :
    CallsApi effects ↔ Event.Calls service.toInstances event := by
  cases event with
  | onStartCommand action => exact onStartCommand_calls hsound h
  | callback call => exact handleCallback_calls platform call hsound.current.locationUpdates h
  | onDestroy =>
      obtain ⟨-, rfl⟩ := Prod.mk.inj (Except.ok.inj ((onDestroy_eq service).symm.trans h))
      rw [callsApi_ite rfl]
      exact (and_iff_left rfl).symm
  | ofDestroyed index call =>
      simp only [handle, onDestroyed, Event.Calls] at h ⊢
      cases hformer : service.destroyed[index]? with
      | none =>
          rw [hformer] at h
          obtain ⟨-, rfl⟩ := Prod.mk.inj (Except.ok.inj h)
          simp [CallsApi]
      | some former =>
          rw [hformer] at h
          obtain ⟨⟨moved, sent⟩, hcall, h⟩ := bind_eq_ok_iff.mp h
          obtain ⟨-, rfl⟩ := Prod.mk.inj (Except.ok.inj h)
          have hupdates : (service.withInstance former).locationUpdates = true :=
            (hsound.destroyed former (List.mem_of_getElem? hformer)).locationUpdates
          simpa [Service.withInstance] using handleCallback_calls platform call hupdates hcall
  | indexBroadcast extras now =>
      obtain ⟨storage, -, h⟩ := bind_eq_ok_iff.mp h
      obtain ⟨-, rfl⟩ := Prod.mk.inj (Except.ok.inj h)
      simp [CallsApi, Event.Calls, Event.testsClient]

theorem Callback.Calls.connected {receiver : Instance} {call : Callback D}
    (h : Callback.Calls receiver call) :
    (receiver.afterCallback call).mGoogleApiClient = some .connected := by
  obtain ⟨hclient, rfl⟩ := h
  obtain ⟨connection, hclient⟩ := Option.isSome_iff_exists.mp hclient
  simp [Instance.afterCallback, hclient]

/-- An event makes an instance call the API while its client is not connected exactly
when the handler tests for a client that is not connected yet. -/
theorem calls_unconnected_iff (instances : Instances) (event : Event D K) :
    (Event.Calls instances event → ∃ receiver ∈ Event.receiver instances event,
      receiver.mGoogleApiClient = some .connected) ↔
      (Event.testsClient event = true → instances.mGoogleApiClient ≠ some .connecting) := by
  have htested : (instances.mGoogleApiClient.isSome = true →
      instances.mGoogleApiClient = some .connected) ↔
      instances.mGoogleApiClient ≠ some .connecting := by
    rcases instances.mGoogleApiClient with _ | connection
    · simp
    · cases connection <;> simp
  cases event with
  | onStartCommand action =>
      by_cases htests : (isLoadCommand action || action = "clearstop") = true
      · simp [Event.Calls, Event.testsClient, Event.receiver, htests, htested]
      · simp [Event.Calls, Event.testsClient, htests]
  | callback call =>
      exact iff_of_true (fun hcalls => ⟨_, rfl, hcalls.connected⟩) (by simp [Event.testsClient])
  | onDestroy => simp [Event.Calls, Event.testsClient, Event.receiver, htested]
  | ofDestroyed index call =>
      refine iff_of_true ?_ (by simp [Event.testsClient])
      rintro ⟨former, hformer, hcalls⟩
      exact ⟨_, Option.mem_map_of_mem _ hformer, hcalls.connected⟩
  | indexBroadcast extras now => simp [Event.Calls, Event.testsClient]

variable [Zero K]

/-- The API is called only while the client of the calling instance is connected. -/
def CallsWhileConnected (platform : Platform D K) : List (Event D K) → Prop :=
  AtEachEvent fun before event =>
    ∀ effect ∈ (machine platform).emitAfter before event,
      Effect.callsLocationApi effect = true →
        ∃ receiver ∈ Event.receiver (instancesOf before) event,
          receiver.mGoogleApiClient = some .connected

theorem calls_while_connected_iff (platform : Platform D K) (events : List (Event D K)) :
    CallsWhileConnected platform events ↔
      AtEachEvent (fun before event => Event.testsClient event = true →
        (instancesOf before).mGoogleApiClient ≠ some .connecting) events := by
  refine atEachEvent_iff ?_ events
  intro before event
  obtain ⟨service, hrun, hsound, hinstances⟩ := run_sound platform before
  obtain ⟨after, effects, hok, -⟩ := handle_sound platform event hsound
  have hcalls := handle_calls platform event hsound hok
  have hemit : (machine platform).emitAfter before event = effects :=
    Machine.ofHandler_emitAfter hrun hok
  rw [hemit, ← hinstances, ← calls_unconnected_iff, ← hcalls]
  constructor
  · rintro h ⟨effect, hmem, hcall⟩
    exact h effect hmem hcall
  · intro h effect hmem hcall
    exact h ⟨effect, hmem, hcall⟩

/-- The client of the first command is still connecting when the second one asks for
updates. -/
theorem second_command_calls_unconnected :
    ¬ CallsWhileConnected exactPlatform
      [.onStartCommand "stdtableonload", .onStartCommand "rtreeonload"] := by
  intro h
  obtain ⟨receiver, hreceiver, hconnected⟩ := h [.onStartCommand "stdtableonload"]
    (.onStartCommand "rtreeonload") [] rfl
    (.requestLocationUpdates false (some ⟨1000, 500⟩)) (List.mem_singleton.mpr rfl) rfl
  obtain rfl := Option.mem_some_iff.mp hreceiver
  exact absurd hconnected (by decide)

end LSTAndroid.LocationApi
