import LSTAndroid.RangeQueries
import LSTAndroid.LocationPoll

namespace LSTAndroid.TableCreation

open LSTAndroid.Library.EventMachine
open LSTAndroid.SpaceTime
open LSTAndroid.TableStore
open LSTAndroid.LocationPoll

variable {D K : Type}

/-- What the events handled so far say about the tables and the filter. -/
structure Explains (events : List (Event D K)) (service : Service K) : Prop where
  sound : service.Sound
  noDirectory : service.storage = .noDirectory ↔ events.findSome? Event.firstStore = none
  spatialTable : (service.storage.rowsOf "SpatialTableMain").isSome = true ↔
    events.findSome? Event.firstStore = some (SQLiteNaive "SpatialTableMain")
  spatialFilter : ∀ smart,
    service.lstFilter = some (.onStructure (SQLiteNaive "SpatialTableMain") smart) →
      .onStartCommand "stdtableonload" ∈ events

theorem afterCommand_spatial {action : String} {current : Instance} {smart : Bool}
    (h : (current.afterCommand action).lstFilter =
      some (.onStructure (SQLiteNaive "SpatialTableMain") smart)) :
    action = "stdtableonload" ∨
      current.lstFilter = some (.onStructure (SQLiteNaive "SpatialTableMain") smart) := by
  unfold Instance.afterCommand at h
  split at h
  · simp only [Instance.begun, commandFilter] at h
    split at h
    · exact .inl ‹_›
    split at h
    · simp [SQLiteNaive, SQLiteRTree] at h
    split at h
    · simp at h
    · exact .inr h
  · exact .inr h

/-- Only the command `stdtableonload` installs the filter on `SpatialTableMain`. -/
theorem instancesAfter_spatial {event : Event D K} {instances : Instances} {smart : Bool}
    (h : (event.instancesAfter instances).lstFilter =
      some (.onStructure (SQLiteNaive "SpatialTableMain") smart)) :
    event = .onStartCommand "stdtableonload" ∨
      instances.lstFilter = some (.onStructure (SQLiteNaive "SpatialTableMain") smart) := by
  cases event with
  | onStartCommand action =>
      rcases afterCommand_spatial h with rfl | hcurrent
      · exact .inl rfl
      · exact .inr hcurrent
  | callback call => cases call <;> exact .inr h
  | onDestroy => simp [Event.instancesAfter, Instance.fresh] at h
  | ofDestroyed index call => exact .inr h
  | indexBroadcast extras now => exact .inr h

theorem Explains.handle [Zero K] {events : List (Event D K)} {service : Service K}
    (h : Explains events service) (platform : Platform D K) (event : Event D K) :
    ∃ after effects, handle platform event service = .ok (after, effects) ∧
      Explains (events ++ [event]) after := by
  obtain ⟨after, effects, hok, hsound, hinstances, htables⟩ := handle_sound platform event h.sound
  have hnone := h.noDirectory
  have hspatial := h.spatialTable
  have hfind : (events ++ [event]).findSome? Event.firstStore =
      (events.findSome? Event.firstStore).or event.firstStore := by
    simp [List.findSome?_append]
  refine ⟨after, effects, hok, hsound, ?_, ?_, ?_⟩
  · rw [hfind]
    cases hstore : event.firstStore with
    | none =>
        rw [hstore] at htables
        rw [htables.1, hnone, Option.or_none]
    | some store =>
        rw [hstore] at htables
        refine iff_of_false htables.1 ?_
        cases events.findSome? Event.firstStore <;> simp
  · rw [hfind]
    cases hstore : event.firstStore with
    | none =>
        rw [hstore] at htables
        rw [htables.2, hspatial, Option.or_none]
    | some store =>
        rw [hstore] at htables
        rw [htables.2, hspatial, hnone]
        cases events.findSome? Event.firstStore <;> simp
  · intro smart hinstalled
    rw [hinstances] at hinstalled
    rcases instancesAfter_spatial hinstalled with rfl | hcurrent
    · simp
    · exact List.mem_append_left _ (h.spatialFilter smart hcurrent)

theorem run_explained [Zero K] (platform : Platform D K) (events : List (Event D K)) :
    ∃ service, (machine platform).run events = .ok service ∧ Explains events service := by
  refine Machine.ofHandler_history (R := Explains) ?_ ?_ events
  · exact {
      sound := .fresh
      noDirectory := by simp [Service.fresh]
      spatialTable := by simp [Service.fresh, Storage.rowsOf]
      spatialFilter := by simp [Service.fresh, Instances.fresh, Instance.fresh] }
  · intro before service event hexplains
    exact hexplains.handle platform event

variable [LinearOrder K] [Coordinate K]

def StoreWorks (store : SQLiteStore) (storage : Storage K) : Prop :=
  ∃ rows, storage.rowsOf store.tableIdentifier = some rows ∧
    (∀ point, ∃ after, store.insert point storage = .ok (true, after) ∧
      after.rowsOf = Function.update storage.rowsOf store.tableIdentifier
        (some (rows ++ [Row.ofPoint point]))) ∧
    (∀ order region, ∃ found, store.range order region storage = .ok found) ∧
    ∃ size, store.getSize storage = .ok size

theorem storeWorks_of_rows {store : SQLiteStore} {storage : Storage K}
    (h : storage.Opened) (hrows : (storage.rowsOf store.tableIdentifier).isSome = true) :
    StoreWorks store storage := by
  obtain ⟨rows, hrows⟩ := Option.isSome_iff_exists.mp hrows
  refine ⟨rows, hrows, ?_, ?_, _, store.getSize_opened h hrows⟩
  · intro point
    obtain ⟨after, hinsert, -, hafter⟩ := store.insert_opened point h
    rw [hrows] at hinsert hafter
    exact ⟨after, hinsert, hafter⟩
  · intro order region
    exact ⟨_, RangeQueries.range_opened store order region h hrows⟩

/-- No exception has ended the application, and the structure of the installed
filter, if it has one, works. -/
def ActiveStoreWorks (state : Except SQLiteException (Service K)) : Prop :=
  ∃ service, state = .ok service ∧ ∀ store smart,
    service.lstFilter = some (.onStructure store smart) → StoreWorks store service.storage

variable [Zero K]

theorem firstStore_of_stdTable_works (platform : Platform D K) (before : List (Event D K))
    (h : ActiveStoreWorks
      ((machine platform).run (before ++ [.onStartCommand "stdtableonload"]))) :
    (before ++ [Event.onStartCommand "stdtableonload"]).findSome? Event.firstStore =
      some (SQLiteNaive "SpatialTableMain") := by
  obtain ⟨service, hrun, hexplains⟩ := run_explained platform before
  obtain ⟨after, effects, hok, hafter⟩ :=
    hexplains.handle platform (.onStartCommand "stdtableonload")
  obtain ⟨after', effects', hok', -, hinstances, -⟩ :=
    handle_sound platform (.onStartCommand "stdtableonload") hexplains.sound
  obtain ⟨rfl, rfl⟩ : after = after' ∧ effects = effects' := by
    simpa [hok] using hok'
  have hrunAfter : (machine platform).run (before ++ [.onStartCommand "stdtableonload"]) =
      .ok after := by
    rw [Machine.run_concat, hrun]
    exact (machine_step platform _ hok).1
  obtain ⟨service', hservice, hworks⟩ := h
  obtain rfl : after = service' := by
    simpa [hrunAfter] using hservice
  have hfilter : after.lstFilter = some (.onStructure (SQLiteNaive "SpatialTableMain") false) := by
    rw [hinstances]
    rfl
  obtain ⟨rows, hrows, -⟩ := hworks (SQLiteNaive "SpatialTableMain") false hfilter
  refine hafter.spatialTable.mp ?_
  rw [show after.storage.rowsOf "SpatialTableMain" = some rows from hrows]
  rfl

/-- The active store works throughout a run exactly when a run that installs
`SpatialTableMain` constructed that store before any other. -/
theorem active_store_works_iff (platform : Platform D K) (events : List (Event D K)) :
    (machine platform).Always ActiveStoreWorks events ↔
      (Event.onStartCommand "stdtableonload" ∈ events →
        events.findSome? Event.firstStore = some (SQLiteNaive "SpatialTableMain")) := by
  constructor
  · intro halways hstd
    obtain ⟨before, rest, rfl⟩ := List.append_of_mem hstd
    have hprefix : before ++ [Event.onStartCommand "stdtableonload"] <+:
        before ++ .onStartCommand "stdtableonload" :: rest := ⟨rest, by simp⟩
    have hfirst := firstStore_of_stdTable_works platform before (halways _ hprefix)
    rw [List.append_cons, List.findSome?_append, hfirst]
    rfl
  · rintro hfirst before ⟨rest, rfl⟩
    obtain ⟨service, hrun, hexplains⟩ := run_explained platform before
    refine ⟨service, hrun, ?_⟩
    intro store smart hfilter
    obtain ⟨hopened, rfl | ⟨rfl, hrtree⟩⟩ := hexplains.sound.current.lstFilter store smart hfilter
    · have hstd := hexplains.spatialFilter smart hfilter
      have hconstructed : before.findSome? Event.firstStore ≠ none := by
        intro hnone
        exact absurd (List.findSome?_eq_none_iff.mp hnone _ hstd)
          (by simp [Event.firstStore, commandStore])
      have hwhole := hfirst (List.mem_append_left _ hstd)
      rw [List.findSome?_append] at hwhole
      refine storeWorks_of_rows hopened (hexplains.spatialTable.mpr ?_)
      cases hbefore : before.findSome? Event.firstStore with
      | none => exact absurd hbefore hconstructed
      | some first => simpa [hbefore] using hwhole
    · exact storeWorks_of_rows hopened hrtree

/-- After `rtreeonload` the directory exists, so `stdtableonload` installs a store
whose table nobody creates. -/
theorem stdTable_after_rtree_fails :
    ¬ (machine exactPlatform).Always ActiveStoreWorks
      [.onStartCommand "rtreeonload", .onStartCommand "stdtableonload"] := by
  intro halways
  have hfirst := firstStore_of_stdTable_works exactPlatform [.onStartCommand "rtreeonload"]
    (halways _ (List.prefix_refl _))
  exact absurd hfirst (by decide)

end LSTAndroid.TableCreation
