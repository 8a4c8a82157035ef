import LSTAndroid.LocationPoll

namespace LSTAndroid.StopTracking

open LSTAndroid.Library.EventMachine
open LSTAndroid.SpaceTime
open LSTAndroid.TableStore
open LSTAndroid.LocationPoll

variable {D K : Type}

def Event.stoppedAfter (stopped : Bool) : Event D K → Bool
  | .onStartCommand action =>
      if action = "clearstop" then true
      else if isLoadCommand action then false
      else stopped
  | _ => stopped

/-- The last of the four commands is `clearstop`. -/
def stopped (events : List (Event D K)) : Bool :=
  events.foldl Event.stoppedAfter false

@[simp] theorem stopped_concat (events : List (Event D K)) (event : Event D K) :
    stopped (events ++ [event]) = Event.stoppedAfter (stopped events) event := by
  simp [stopped]

theorem isLoadCommand_eq_false {action : String}
    (hstopped : Event.stoppedAfter true (.onStartCommand action : Event D K) = true) :
    isLoadCommand action = false := by
  by_contra hload
  rw [Bool.not_eq_false] at hload
  simp only [Event.stoppedAfter, hload, if_true] at hstopped
  split at hstopped
  · rename_i hclear
    rw [hclear] at hload
    exact absurd hload (by decide)
  · exact absurd hstopped Bool.false_ne_true

/-- No updates are requested and neither table gets a point. -/
def Quiet (effects : List (Effect K)) : Prop :=
  (∀ connected request, .requestLocationUpdates connected request ∉ effects) ∧
    ∀ table ∈ ["SpatialTableMain", "RTreeMain"], ∀ point, .inserted table point ∉ effects

theorem quiet_nil : Quiet ([] : List (Effect K)) := by
  simp [Quiet]

theorem quiet_of_removes {effects : List (Effect K)}
    (h : ∀ effect ∈ effects, ∃ connected, effect = .removeLocationUpdates connected) :
    Quiet effects := by
  constructor
  · intro connected request hmem
    obtain ⟨_, heq⟩ := h _ hmem
    cases heq
  · intro table _ point hmem
    obtain ⟨_, heq⟩ := h _ hmem
    cases heq

variable [Zero K]

/-- Each event that comes while the service is stopped, and leaves it stopped, is
handled quietly. -/
def StopMeansStop (platform : Platform D K) : List (Event D K) → Prop :=
  AtEachEvent fun before event =>
    stopped before = true → stopped (before ++ [event]) = true →
      Quiet ((machine platform).emitAfter before event)

/-- The callbacks that a stopped service should not have to handle: the connection of a
client that was built, and a location that the filter still writes. -/
def Callback.Wakes (platform : Platform D K) (storage : Storage K) (receiver : Instance) :
    Callback D → Prop
  | .onConnected => receiver.mGoogleApiClient.isSome = true
  | .onConnectionSuspended => False
  | .onLocationChanged location now => ∃ filter ∈ receiver.lstFilter,
      filter.Writes platform (locationPoint platform location now) storage

/-- The event is such a callback, of the current instance or of a destroyed one. -/
def Event.Wakes (platform : Platform D K) (storage : Storage K) (instances : Instances) :
    Event D K → Prop
  | .callback call => Callback.Wakes platform storage instances.toInstance call
  | .ofDestroyed index call => ∃ former ∈ instances.destroyed[index]?,
      Callback.Wakes platform storage former call
  | _ => False

omit [Zero K] in
theorem quiet_of_stopBuilt (service : Service K) : ∃ effects,
    stopBuilt service = .ok (service, effects) ∧ Quiet effects := by
  refine ⟨_, stopBuilt_eq service, quiet_of_removes fun effect heffect => ?_⟩
  split at heffect
  · exact ⟨_, List.mem_singleton.mp heffect⟩
  · cases heffect

omit [Zero K] in
theorem onStartCommand_quiet (action : String) {service : Service K} (h : service.Sound)
    (hload : isLoadCommand action = false) :
    ∃ after effects, onStartCommand action service = .ok (after, effects) ∧ Quiet effects := by
  simp only [isLoadCommand, Bool.or_eq_false_iff, decide_eq_false_iff_not] at hload
  obtain ⟨⟨hstd, hrtree⟩, hcloud⟩ := hload
  rw [onStartCommand, if_neg hstd, if_neg hrtree, if_neg hcloud]
  split
  · obtain ⟨storage, hclear, -⟩ := clearStop_installed h.installed
    obtain ⟨effects, hstop, hquiet⟩ := quiet_of_stopBuilt { service with storage }
    exact ⟨_, effects, hclear.trans hstop, hquiet⟩
  · exact ⟨service, [], rfl, quiet_nil⟩

omit [Zero K] in
theorem onLocationChanged_quiet_iff (platform : Platform D K) (location : Location D) (now : ℤ)
    {service : Service K} (h : service.toInstance.Sound service.storage) :
    ∃ after effects, onLocationChanged platform location now service = .ok (after, effects) ∧
      (Quiet effects ↔ ¬ ∃ filter ∈ service.lstFilter,
        filter.Writes platform (locationPoint platform location now) service.storage) := by
  unfold onLocationChanged
  rcases hfilter : service.lstFilter with _ | filter
  · exact ⟨service, [], rfl, by simp [quiet_nil]⟩
  rcases filter with ⟨store, smart⟩ | _
  · obtain ⟨hopened, hstore⟩ := h.lstFilter store smart hfilter
    obtain ⟨storage, effects, hinsert, -, -, hrequests, hinserted⟩ :=
      LSTFilter.insert_opened platform (locationPoint platform location now) hopened
        (.onStructure store smart)
    refine ⟨{ service with storage }, effects, ?_, ?_⟩
    · simp [hinsert, bind, Except.bind, pure, Except.pure]
    have htable : store.tableIdentifier ∈ ["SpatialTableMain", "RTreeMain"] := by
      rcases hstore with rfl | ⟨rfl, -⟩ <;> simp [SQLiteNaive, SQLiteRTree]
    simp only [Quiet, hinserted, Option.mem_some_iff, exists_eq_left']
    constructor
    · rintro ⟨-, hnone⟩ hwrites
      exact hnone _ htable _ ⟨hwrites, rfl, rfl⟩
    · intro hwrites
      exact ⟨hrequests, fun _ _ _ hmem => hwrites hmem.1⟩
  · refine ⟨service, _, rfl, ?_⟩
    simp [Quiet, LSTFilter.Writes]

omit [Zero K] in
theorem handleCallback_quiet_iff (platform : Platform D K) (call : Callback D)
    {service : Service K} (h : service.toInstance.Sound service.storage) :
    ∃ after effects, handleCallback platform call service = .ok (after, effects) ∧
      (Quiet effects ↔ ¬ Callback.Wakes platform service.storage service.toInstance call) := by
  cases call with
  | onConnected =>
      refine ⟨_, _, onConnected_eq (D := D) h.locationUpdates, ?_⟩
      change Quiet _ ↔ ¬ service.mGoogleApiClient.isSome = true
      by_cases hclient : service.mGoogleApiClient.isSome = true
      · simp [hclient, Quiet]
      · simp [hclient, quiet_nil]
  | onConnectionSuspended => exact ⟨_, [], rfl, iff_of_true quiet_nil id⟩
  | onLocationChanged location now => exact onLocationChanged_quiet_iff platform location now h

theorem handle_quiet_iff (platform : Platform D K) (event : Event D K)
    {service : Service K} (h : service.Sound)
    (hstopped : Event.stoppedAfter true event = true) :
    Quiet ((machine platform).emit (.ok service) event) ↔
      ¬ Event.Wakes platform service.storage service.toInstances event := by
  cases event with
  | onStartCommand action =>
      obtain ⟨after, effects, hok, hquiet⟩ :=
        onStartCommand_quiet action h (isLoadCommand_eq_false hstopped)
      rw [(machine_step platform (.onStartCommand action) hok).2]
      exact iff_of_true hquiet id
  | callback call =>
      obtain ⟨after, effects, hok, hquiet⟩ := handleCallback_quiet_iff platform call h.current
      rw [(machine_step platform (.callback call) hok).2]
      exact hquiet
  | onDestroy =>
      obtain ⟨effects, hstop, hquiet⟩ := quiet_of_stopBuilt service
      have hok : ∃ after, handle platform .onDestroy service = .ok (after, effects) := by
        simp [handle, onDestroy, hstop, bind, Except.bind, pure, Except.pure]
      obtain ⟨after, hok⟩ := hok
      rw [(machine_step platform _ hok).2]
      exact iff_of_true hquiet id
  | ofDestroyed index call =>
      simp only [Event.Wakes]
      cases hformer : service.destroyed[index]? with
      | none =>
          have hok : handle platform (.ofDestroyed index call) service = .ok (service, []) := by
            simp [handle, onDestroyed, hformer]
          rw [(machine_step platform _ hok).2]
          simp [quiet_nil]
      | some former =>
          have hsound : (service.withInstance former).toInstance.Sound
              (service.withInstance former).storage :=
            h.destroyed former (List.mem_of_getElem? hformer)
          obtain ⟨after, effects, hcall, hquiet⟩ := handleCallback_quiet_iff platform call hsound
          have hok : ∃ after, handle platform (.ofDestroyed index call) service =
              .ok (after, effects) := by
            simp [handle, onDestroyed, hformer, hcall, bind, Except.bind, pure, Except.pure]
          obtain ⟨after, hok⟩ := hok
          rw [(machine_step platform _ hok).2]
          simpa [Service.withInstance] using hquiet
  | indexBroadcast extras now =>
      obtain ⟨after, hreceive, -⟩ := onReceive_installed platform extras now h.installed
      have hok : handle platform (.indexBroadcast extras now) service =
          .ok ({ service with storage := after }, []) := by
        simp [handle, hreceive, bind, Except.bind, pure, Except.pure]
      rw [(machine_step platform _ hok).2]
      exact iff_of_true quiet_nil id

/-- A run keeps its stops exactly when no event wakes a stopped service. -/
theorem stop_means_stop_iff (platform : Platform D K) (events : List (Event D K)) :
    StopMeansStop platform events ↔
      AtEachEvent (fun before event =>
        stopped before = true → stopped (before ++ [event]) = true →
          ∀ service, (machine platform).run before = .ok service →
            ¬ Event.Wakes platform service.storage (instancesOf before) event) events := by
  refine atEachEvent_iff ?_ events
  intro before event
  obtain ⟨service, hrun, hsound, hinstances⟩ := run_sound platform before
  rw [stopped_concat]
  refine imp_congr_right fun hbefore => ?_
  rw [hbefore]
  refine imp_congr_right fun hafter => ?_
  rw [Machine.emitAfter, hrun, handle_quiet_iff platform event hsound hafter, hinstances]
  simp

/-- The connection comes after the stop and requests updates all the same. -/
theorem connection_undoes_stop :
    ¬ StopMeansStop exactPlatform
      [.onStartCommand "stdtableonload", .onStartCommand "clearstop", .callback .onConnected] := by
  intro hstop
  have hquiet := hstop [.onStartCommand "stdtableonload", .onStartCommand "clearstop"]
    (.callback .onConnected) [] rfl rfl rfl
  exact hquiet.1 true (some ⟨1000, 500⟩) (List.mem_singleton.mpr rfl)

end LSTAndroid.StopTracking
