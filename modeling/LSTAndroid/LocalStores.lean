import LSTAndroid.LocationPoll

namespace LSTAndroid.LocalStores

open LSTAndroid.Library.EventMachine
open LSTAndroid.TableStore
open LSTAndroid.LocationPoll

variable {D K : Type}

/-- A missing table counts as empty. -/
def NoRows (storage : Storage K) (name : String) : Prop :=
  (storage.rowsOf name).getD [] = []

def AtMostOneHoldsData (storage : Storage K) : Prop :=
  NoRows storage "SpatialTableMain" ∨ NoRows storage "RTreeMain"

/-- The events of the service itself, as against those of `LSTIndexReceiver` and the
locations that come to an instance after its `onDestroy`. -/
def Event.OfService : Event D K → Prop
  | .indexBroadcast _ _ => False
  | .ofDestroyed _ (.onLocationChanged _ _) => False
  | _ => True

/-- A filter on one of the two tables finds the other one empty; under the cloud filter,
and before any filter, it is not known which of the two is empty. -/
structure Separated (filter : Option LSTFilter) (storage : Storage K) : Prop where
  atMostOne : AtMostOneHoldsData storage
  spatial : ∀ smart, filter = some (.onStructure (SQLiteNaive "SpatialTableMain") smart) →
    NoRows storage "RTreeMain"
  rtree : ∀ smart, filter = some (.onStructure (SQLiteRTree "RTreeMain") smart) →
    NoRows storage "SpatialTableMain"

theorem noRows_of_cleared {storage : Storage K} {name : String}
    {rows : Option (List (Row K))} (h : storage.rowsOf name = rows.map fun _ => []) :
    NoRows storage name := by
  rw [NoRows, h]
  cases rows with
  | none => rfl
  | some rows => rfl

theorem separated_of_noRows {storage : Storage K} (filter : Option LSTFilter)
    (hspatial : NoRows storage "SpatialTableMain") (hrtree : NoRows storage "RTreeMain") :
    Separated filter storage :=
  ⟨.inl hspatial, fun _ _ => hrtree, fun _ _ => hspatial⟩

theorem filterInsert_frame {platform : Platform D K} {filter : LSTFilter}
    {point : SpaceTime.FullPoint K} {storage after : Storage K} {effects : List (Effect K)}
    (hopened : storage.Opened)
    (h : filter.insert platform point storage = .ok (after, effects)) {name : String}
    (hname : filter.table ≠ some name) : after.rowsOf name = storage.rowsOf name := by
  cases filter with
  | cloud =>
      obtain ⟨rfl, -⟩ := Prod.mk.inj (Except.ok.inj h)
      rfl
  | onStructure store smart =>
      simp only [LSTFilter.insert] at h
      split at h
      · obtain ⟨rfl, -⟩ := Prod.mk.inj (Except.ok.inj h)
        rfl
      · obtain ⟨written, hinsert, -, hrows⟩ := insertInto_opened store point hopened
        rw [hinsert] at h
        obtain ⟨rfl, -⟩ := Prod.mk.inj (Except.ok.inj h)
        rw [hrows, Function.update_of_ne]
        rintro rfl
        exact hname rfl

theorem beginLocation_separated {service after : Service K} {effects : List (Effect K)}
    (hseparated : Separated service.lstFilter service.storage)
    (h : beginLocation service = .ok (after, effects)) :
    Separated after.lstFilter after.storage := by
  rw [beginLocation_eq] at h
  obtain ⟨rfl, -⟩ := Prod.mk.inj (Except.ok.inj h)
  exact hseparated

theorem onStartCommand_separated (action : String) {service after : Service K}
    {effects : List (Effect K)} (hsound : service.Sound)
    (hseparated : Separated service.lstFilter service.storage)
    (h : onStartCommand action service = .ok (after, effects)) :
    Separated after.lstFilter after.storage := by
  cases onStartCommand_outcome hsound.installed h with
  | @stdTableOnload storage haction hrows hbegin =>
      refine beginLocation_separated ?_ hbegin
      have hrtree : NoRows storage "RTreeMain" :=
        noRows_of_cleared (by rw [hrows, Function.update_self])
      exact ⟨.inr hrtree, fun _ _ => hrtree, by simp [SQLiteNaive, SQLiteRTree]⟩
  | @rtreeOnload storage haction hrows hbegin =>
      refine beginLocation_separated ?_ hbegin
      have hspatial : NoRows storage "SpatialTableMain" :=
        noRows_of_cleared (by rw [hrows, Function.update_self])
      exact ⟨.inl hspatial, by simp [SQLiteNaive, SQLiteRTree], fun _ _ => hspatial⟩
  | cloudOffload haction hbegin =>
      refine beginLocation_separated ?_ hbegin
      exact ⟨hseparated.atMostOne, by simp, by simp⟩
  | @clearStop storage haction hrows hstop =>
      obtain ⟨rfl, -⟩ := Prod.mk.inj (Except.ok.inj ((stopBuilt_eq _).symm.trans hstop))
      exact separated_of_noRows _ (noRows_of_cleared (by rw [hrows]; rfl))
        (noRows_of_cleared (by rw [hrows]; rfl))
  | unknown hactions hafter heffects =>
      rw [hafter]
      exact hseparated

theorem onLocationChanged_separated (platform : Platform D K) (location : Location D) (now : ℤ)
    {service after : Service K} {effects : List (Effect K)} (hsound : service.Sound)
    (hseparated : Separated service.lstFilter service.storage)
    (h : onLocationChanged platform location now service = .ok (after, effects)) :
    Separated after.lstFilter after.storage := by
  unfold onLocationChanged at h
  split at h
  · obtain ⟨rfl, -⟩ := Prod.mk.inj (Except.ok.inj h)
    exact hseparated
  · rename_i filter hfilter
    obtain ⟨⟨storage, inserted⟩, hinsert, h⟩ := bind_eq_ok_iff.mp h
    obtain ⟨rfl, -⟩ := Prod.mk.inj (Except.ok.inj h)
    rcases filter with ⟨store, smart⟩ | _
    · obtain ⟨hopened, hstore⟩ := hsound.current.lstFilter store smart hfilter
      have hframe : ∀ name, store.tableIdentifier ≠ name → NoRows service.storage name →
          NoRows storage name := by
        intro name hname hnone
        have hrows : storage.rowsOf name = service.storage.rowsOf name :=
          filterInsert_frame hopened hinsert fun heq => hname (Option.some.inj heq)
        rw [NoRows, hrows]
        exact hnone
      rcases hstore with rfl | ⟨rfl, -⟩
      · have hrtree := hframe "RTreeMain" (by decide) (hseparated.spatial smart hfilter)
        exact ⟨.inr hrtree, fun _ _ => hrtree, by simp [hfilter, SQLiteNaive, SQLiteRTree]⟩
      · have hspatial := hframe "SpatialTableMain" (by decide) (hseparated.rtree smart hfilter)
        exact ⟨.inl hspatial, by simp [hfilter, SQLiteNaive, SQLiteRTree], fun _ _ => hspatial⟩
    · obtain ⟨rfl, -⟩ := Prod.mk.inj (Except.ok.inj hinsert)
      exact hseparated

theorem handleCallback_separated (platform : Platform D K) (call : Callback D)
    {service after : Service K} {effects : List (Effect K)} (hsound : service.Sound)
    (hseparated : Separated service.lstFilter service.storage)
    (h : handleCallback platform call service = .ok (after, effects)) :
    Separated after.lstFilter after.storage := by
  cases call with
  | onConnected =>
      simp only [handleCallback, onConnected_eq (D := D) hsound.current.locationUpdates] at h
      obtain ⟨rfl, -⟩ := Prod.mk.inj (Except.ok.inj h)
      exact hseparated
  | onConnectionSuspended =>
      obtain ⟨rfl, -⟩ := Prod.mk.inj (Except.ok.inj h)
      exact hseparated
  | onLocationChanged location now =>
      exact onLocationChanged_separated platform location now hsound hseparated h

theorem onDestroyed_frame (platform : Platform D K) (index : ℕ) {call : Callback D}
    (hservice : Event.OfService (.ofDestroyed index call : Event D K)) {service after : Service K}
    {effects : List (Effect K)} (hsound : service.Sound)
    (h : onDestroyed index (handleCallback platform call) service = .ok (after, effects)) :
    after.lstFilter = service.lstFilter ∧ after.storage = service.storage := by
  unfold onDestroyed at h
  split at h
  · obtain ⟨rfl, -⟩ := Prod.mk.inj (Except.ok.inj h)
    exact ⟨rfl, rfl⟩
  · rename_i former hformer
    have hupdates : (service.withInstance former).locationUpdates = true :=
      (hsound.destroyed former (List.mem_of_getElem? hformer)).locationUpdates
    cases call with
    | onConnected =>
        rw [handleCallback, onConnected_eq (D := D) hupdates] at h
        obtain ⟨rfl, -⟩ := Prod.mk.inj (Except.ok.inj h)
        exact ⟨rfl, rfl⟩
    | onConnectionSuspended =>
        obtain ⟨rfl, -⟩ := Prod.mk.inj (Except.ok.inj h)
        exact ⟨rfl, rfl⟩
    | onLocationChanged location now => exact hservice.elim

theorem handle_separated [Zero K] (platform : Platform D K) (event : Event D K)
    (hservice : Event.OfService event) {service after : Service K} {effects : List (Effect K)}
    (hsound : service.Sound) (hseparated : Separated service.lstFilter service.storage)
    (h : handle platform event service = .ok (after, effects)) :
    Separated after.lstFilter after.storage := by
  cases event with
  | onStartCommand action => exact onStartCommand_separated action hsound hseparated h
  | callback call => exact handleCallback_separated platform call hsound hseparated h
  | onDestroy =>
      obtain ⟨rfl, -⟩ := Prod.mk.inj (Except.ok.inj ((onDestroy_eq service).symm.trans h))
      exact ⟨hseparated.atMostOne, by simp [Instance.fresh], by simp [Instance.fresh]⟩
  | ofDestroyed index call =>
      obtain ⟨hfilter, hstorage⟩ := onDestroyed_frame platform index hservice hsound h
      rw [hfilter, hstorage]
      exact hseparated
  | indexBroadcast extras now => exact hservice.elim

variable [Zero K]

theorem run_separated (platform : Platform D K) (events : List (Event D K)) :
    ∃ service, (machine platform).run events = .ok service ∧ service.Sound ∧
      ((∀ event ∈ events, Event.OfService event) →
        Separated service.lstFilter service.storage) := by
  refine Machine.ofHandler_history
    (R := fun events (service : Service K) => service.Sound ∧
      ((∀ event ∈ events, Event.OfService event) →
        Separated service.lstFilter service.storage))
    ?_ ?_ events
  · exact ⟨.fresh, fun _ => separated_of_noRows _ rfl rfl⟩
  rintro before service event ⟨hsound, hseparated⟩
  obtain ⟨after, effects, hok, hafter, -⟩ := handle_sound platform event hsound
  refine ⟨after, effects, hok, hafter, fun hservice => ?_⟩
  rw [List.forall_mem_append, List.forall_mem_singleton] at hservice
  exact handle_separated platform event hservice.2 hsound (hseparated hservice.1) hok

/-- Whatever commands and callbacks the service has handled, the two tables are not
both non-empty. -/
theorem at_most_one_holds_data (platform : Platform D K) (events : List (Event D K))
    (hservice : ∀ event ∈ events, Event.OfService event) :
    ∃ service, (machine platform).run events = .ok service ∧
      AtMostOneHoldsData service.storage := by
  obtain ⟨service, hrun, -, hseparated⟩ := run_separated platform events
  exact ⟨service, hrun, (hseparated hservice).atMostOne⟩

/-- A location recorded under each of the two onloads. -/
theorem at_most_one_after_switch : ∃ service,
    (machine exactPlatform).run [.onStartCommand "stdtableonload",
      .callback (.onLocationChanged ⟨1, 2⟩ 3), .onStartCommand "rtreeonload",
      .callback (.onLocationChanged ⟨4, 5⟩ 6)] = .ok service ∧ AtMostOneHoldsData service.storage :=
  at_most_one_holds_data exactPlatform _ (by simp [Event.OfService])

end LSTAndroid.LocalStores
