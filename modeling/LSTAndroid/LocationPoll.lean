import LSTAndroid.Library.EventMachine
import LSTAndroid.TableStore

/-!
The service `LocationPoll` and the broadcast receiver `LSTIndexReceiver`, which
write to the tables of the same database file.
-/

namespace LSTAndroid.LocationPoll

open LSTAndroid.Library.EventMachine
open LSTAndroid.SpaceTime
open LSTAndroid.TableStore

/-- What the application takes from Java and from the library behind `LSTFilter`:
the narrowing of a `double` and of a `long` to a coordinate, whether a filter with
smart insert keeps a point given the points of its structure, and whether a new
filter has smart insert on. -/
structure Platform (D K : Type) where
  ofDouble : D → K
  ofLong : ℤ → K
  smartInsert : List (FullPoint K) → FullPoint K → Bool
  defaultSmartInsert : Bool

variable {D K : Type}

def exactPlatform : Platform ℚ ℚ where
  ofDouble := id
  ofLong milliseconds := milliseconds
  smartInsert _ _ := true
  defaultSmartInsert := false

/-- `LSTFilter` over a structure, or the private `CloudFilter` of the service. -/
inductive LSTFilter where
  | onStructure (store : SQLiteStore) (smartInsert : Bool)
  | cloud
  deriving DecidableEq

structure LocationRequest where
  interval : ℕ
  fastestInterval : ℕ
  deriving DecidableEq

inductive Effect (K : Type) where
  | requestLocationUpdates (connected : Bool) (request : Option LocationRequest)
  | removeLocationUpdates (connected : Bool)
  | inserted (table : String) (point : FullPoint K)
  | httpGet (url : String)
  deriving DecidableEq

def pointsOf (storage : Storage K) (store : SQLiteStore) : List (FullPoint K) :=
  ((storage.rowsOf store.tableIdentifier).getD []).map Row.toPoint

def insertInto (store : SQLiteStore) (point : FullPoint K) (storage : Storage K) :
    Except SQLiteException (Storage K × List (Effect K)) := do
  let (inserted, storage) ← store.insert point storage
  return (storage, if inserted then [.inserted store.tableIdentifier point] else [])

def LSTFilter.insert (platform : Platform D K) (point : FullPoint K) (storage : Storage K) :
    LSTFilter → Except SQLiteException (Storage K × List (Effect K))
  | .onStructure store smart =>
      if smart && !platform.smartInsert (pointsOf storage store) point then .ok (storage, [])
      else insertInto store point storage
  | .cloud => .ok (storage, [.httpGet "http://pacobackend.appspot.com/"])

structure IndexExtras (K : Type) where
  action : String
  floats : List (String × K)

def IndexExtras.getFloat [Zero K] (extras : IndexExtras K) (key : String) : K :=
  (extras.floats.lookup key).getD 0

inductive IndexCommand (K : Type) where
  | insert (point : FullPoint K)
  | windowPoK (region : STRegion K)
  | pointPoK (point : FullPoint K)
  | unknown

/-- The command of an intent received at wall-clock time `now` in milliseconds.
An insert without a timestamp takes the time in seconds. -/
def IndexExtras.command [Zero K] (platform : Platform D K) (extras : IndexExtras K) (now : ℤ) :
    IndexCommand K :=
  if extras.action = "insert" then
    let timestamp :=
      if (extras.floats.lookup "timestamp").isSome then extras.getFloat "timestamp"
      else platform.ofLong (now.tdiv 1000)
    .insert ⟨extras.getFloat "longitude", extras.getFloat "latitude", timestamp⟩
  else if extras.action = "windowPoK" then
    .windowPoK (.box
      ⟨extras.getFloat "minLongitude", extras.getFloat "minLatitude",
        extras.getFloat "minTimestamp"⟩
      ⟨extras.getFloat "maxLongitude", extras.getFloat "maxLatitude",
        extras.getFloat "maxTimestamp"⟩)
  else if extras.action = "pointPoK" then
    .pointPoK ⟨extras.getFloat "longitude", extras.getFloat "latitude",
      extras.getFloat "timestamp"⟩
  else .unknown

/-- `LSTIndexReceiver.onReceive`; its two queries leave the storage unchanged. -/
def onReceive [Zero K] (platform : Platform D K) (extras : IndexExtras K) (now : ℤ)
    (storage : Storage K) : Except SQLiteException (Storage K) := do
  let helper := SQLiteRTree "RTreeMain"
  let storage ← helper.newRTree storage
  match extras.command platform now with
  | .insert point =>
      let (storage, _) ← LSTFilter.insert platform point storage
        (.onStructure helper platform.defaultSmartInsert)
      return storage
  | _ => return storage

/-- A `GoogleApiClient` after `connect()`. -/
inductive Connection where
  | connecting
  | connected
  deriving DecidableEq

/-- The fields of one instance of the service. -/
structure Instance where
  locationUpdates : Bool
  mGoogleApiClient : Option Connection
  mLocationRequest : Option LocationRequest
  lstFilter : Option LSTFilter

def Instance.fresh : Instance where
  locationUpdates := true
  mGoogleApiClient := none
  mLocationRequest := none
  lstFilter := none

/-- The instance that the next command comes to, and those that were destroyed: nothing
disconnects their clients, which go on calling them. -/
structure Instances extends Instance where
  destroyed : List Instance

def Instances.fresh : Instances where
  toInstance := .fresh
  destroyed := []

structure Service (K : Type) extends Instances where
  storage : Storage K

def Service.fresh : Service K where
  toInstances := .fresh
  storage := .noDirectory

structure Location (D : Type) where
  longitude : D
  latitude : D
  deriving DecidableEq

/-- What a client and its location provider call on the instance that built it. -/
inductive Callback (D : Type) where
  | onConnected
  | onConnectionSuspended
  | onLocationChanged (location : Location D) (now : ℤ)

inductive Event (D K : Type) where
  | onStartCommand (action : String)
  | callback (callback : Callback D)
  | onDestroy
  | ofDestroyed (index : ℕ) (callback : Callback D)
  | indexBroadcast (extras : IndexExtras K) (now : ℤ)

abbrev Handler (K : Type) :=
  Service K → Except SQLiteException (Service K × List (Effect K))

def Service.isConnected (service : Service K) : Bool :=
  service.mGoogleApiClient == some .connected

def startLocationUpdates : Handler K := fun service =>
  .ok (service, [.requestLocationUpdates service.isConnected service.mLocationRequest])

def stopLocationUpdates : Handler K := fun service =>
  .ok (service, [.removeLocationUpdates service.isConnected])

def buildGoogleApiClient (service : Service K) : Service K :=
  { service with mGoogleApiClient := some .connecting }

def createLocationRequest (service : Service K) : Service K :=
  { service with mLocationRequest := some ⟨1000, 500⟩ }

def beginLocation : Handler K := fun service =>
  if service.mGoogleApiClient.isNone then
    .ok (createLocationRequest (buildGoogleApiClient service), [])
  else startLocationUpdates service

def stdTableOnload (service : Service K) : Except SQLiteException (Service K) := do
  let helper := SQLiteNaive "SpatialTableMain"
  let other := SQLiteNaive "RTreeMain"
  let storage ← helper.newNaive service.storage
  let storage ← other.newNaive storage
  let storage ← other.clear storage
  return { service with lstFilter := some (.onStructure helper false), storage }

def rtreeOnload (service : Service K) : Except SQLiteException (Service K) := do
  let helper := SQLiteRTree "RTreeMain"
  let other := SQLiteNaive "SpatialTableMain"
  let storage ← helper.newRTree service.storage
  let storage ← other.newNaive storage
  let storage ← other.clear storage
  return { service with lstFilter := some (.onStructure helper true), storage }

def cloudOffload (service : Service K) : Service K :=
  { service with lstFilter := some .cloud }

/-- The test at the end of `clearStop` and in `onDestroy`. -/
def stopBuilt : Handler K := fun service =>
  if service.mGoogleApiClient.isSome then stopLocationUpdates service else .ok (service, [])

def clearStop : Handler K := fun service => do
  let helper := SQLiteNaive "SpatialTableMain"
  let other := SQLiteNaive "RTreeMain"
  let storage ← helper.newNaive service.storage
  let storage ← other.newNaive storage
  let storage ← helper.clear storage
  let storage ← other.clear storage
  stopBuilt { service with storage }

def onStartCommand (action : String) : Handler K := fun service =>
  if action = "stdtableonload" then do
    beginLocation (← stdTableOnload service)
  else if action = "rtreeonload" then do
    beginLocation (← rtreeOnload service)
  else if action = "cloudoffload" then beginLocation (cloudOffload service)
  else if action = "clearstop" then clearStop service
  else .ok (service, [])

/-- The callbacks of a client come only once a client was built. -/
def onConnected : Handler K := fun service =>
  if service.mGoogleApiClient.isNone then .ok (service, [])
  else
    let service := { service with mGoogleApiClient := some .connected }
    if service.locationUpdates then startLocationUpdates service else .ok (service, [])

def onConnectionSuspended (service : Service K) : Service K :=
  { service with mGoogleApiClient := service.mGoogleApiClient.map fun _ => .connecting }

def locationPoint (platform : Platform D K) (location : Location D) (now : ℤ) : FullPoint K :=
  ⟨platform.ofDouble location.longitude, platform.ofDouble location.latitude,
    platform.ofLong now⟩

def onLocationChanged (platform : Platform D K) (location : Location D) (now : ℤ) :
    Handler K := fun service =>
  match service.lstFilter with
  | none => .ok (service, [])
  | some filter => do
      let (storage, effects) ←
        filter.insert platform (locationPoint platform location now) service.storage
      return ({ service with storage }, effects)

/-- The command after `onDestroy` comes to a new instance. -/
def onDestroy : Handler K := fun service => do
  let (service, effects) ← stopBuilt service
  return ({ service with
    toInstance := .fresh
    destroyed := service.destroyed ++ [service.toInstance] }, effects)

def handleCallback (platform : Platform D K) : Callback D → Handler K
  | .onConnected => onConnected
  | .onConnectionSuspended => fun service => .ok (onConnectionSuspended service, [])
  | .onLocationChanged location now => onLocationChanged platform location now

def Service.withInstance (service : Service K) (former : Instance) : Service K :=
  { service with toInstance := former }

/-- A handler run on a destroyed instance instead of the current one. -/
def onDestroyed (index : ℕ) (handler : Handler K) : Handler K := fun service =>
  match service.destroyed[index]? with
  | none => .ok (service, [])
  | some former => do
      let (after, effects) ← handler (service.withInstance former)
      return ({ after with
        toInstance := service.toInstance
        destroyed := after.destroyed.set index after.toInstance }, effects)

variable [Zero K]

def handle (platform : Platform D K) : Event D K → Handler K
  | .onStartCommand action => onStartCommand action
  | .callback callback => handleCallback platform callback
  | .onDestroy => onDestroy
  | .ofDestroyed index callback => onDestroyed index (handleCallback platform callback)
  | .indexBroadcast extras now => fun service => do
      return ({ service with storage := ← onReceive platform extras now service.storage }, [])

/-- The application as a machine; an exception that nothing catches ends it. -/
def machine (platform : Platform D K) :
    Machine (Except SQLiteException (Service K)) (Event D K) (Effect K) :=
  .ofHandler .fresh fun service event => handle platform event service

omit [Zero K]

theorem insertInto_opened (store : SQLiteStore) (point : FullPoint K) {storage : Storage K}
    (h : storage.Opened) :
    ∃ after, insertInto store point storage = .ok (after,
        if (storage.rowsOf store.tableIdentifier).isSome
          then [.inserted store.tableIdentifier point] else []) ∧ after.Opened ∧
      after.rowsOf = Function.update storage.rowsOf store.tableIdentifier
        ((storage.rowsOf store.tableIdentifier).map (· ++ [Row.ofPoint point])) := by
  obtain ⟨after, hinsert, hopened, hrows⟩ := store.insert_opened point h
  refine ⟨after, ?_, hopened, hrows⟩
  rw [insertInto, hinsert]
  rfl

theorem insertInto_effects {store : SQLiteStore} {point other : FullPoint K} {table : String}
    {storage after : Storage K} {effects : List (Effect K)}
    (h : insertInto store point storage = .ok (after, effects))
    (hinserted : .inserted table other ∈ effects) : other = point := by
  unfold insertInto at h
  obtain ⟨⟨inserted, written⟩, -, h⟩ := bind_eq_ok_iff.mp h
  obtain ⟨-, rfl⟩ := Prod.mk.inj (Except.ok.inj h)
  cases inserted with
  | true => exact (Effect.inserted.inj (List.mem_singleton.mp hinserted)).2
  | false => cases hinserted

theorem LSTFilter.insert_effects {platform : Platform D K} {filter : LSTFilter}
    {point other : FullPoint K} {table : String} {storage after : Storage K}
    {effects : List (Effect K)}
    (h : filter.insert platform point storage = .ok (after, effects))
    (hinserted : .inserted table other ∈ effects) : other = point := by
  cases filter with
  | cloud =>
      obtain ⟨-, rfl⟩ := Prod.mk.inj (Except.ok.inj h)
      simp at hinserted
  | onStructure store smart =>
      simp only [LSTFilter.insert] at h
      split at h
      · obtain ⟨-, rfl⟩ := Prod.mk.inj (Except.ok.inj h)
        cases hinserted
      · exact insertInto_effects h hinserted

theorem onLocationChanged_inserted {platform : Platform D K} {location : Location D} {now : ℤ}
    {service after : Service K} {effects : List (Effect K)} {table : String}
    {point : FullPoint K}
    (h : onLocationChanged platform location now service = .ok (after, effects))
    (hinserted : .inserted table point ∈ effects) :
    point = locationPoint platform location now := by
  unfold onLocationChanged at h
  split at h
  · obtain ⟨-, rfl⟩ := Prod.mk.inj (Except.ok.inj h)
    cases hinserted
  · obtain ⟨⟨storage, found⟩, hinsert, hafter⟩ := bind_eq_ok_iff.mp h
    obtain ⟨-, rfl⟩ := Prod.mk.inj (Except.ok.inj hafter)
    exact LSTFilter.insert_effects hinsert hinserted

def LSTFilter.table : LSTFilter → Option String
  | .onStructure store _ => some store.tableIdentifier
  | .cloud => none

/-- The filter inserts the point into its structure and the table exists. -/
def LSTFilter.Writes (platform : Platform D K) (point : FullPoint K) (storage : Storage K) :
    LSTFilter → Prop
  | .onStructure store smart =>
      (smart = true → platform.smartInsert (pointsOf storage store) point = true) ∧
        (storage.rowsOf store.tableIdentifier).isSome = true
  | .cloud => False

theorem LSTFilter.insert_opened (platform : Platform D K) (point : FullPoint K)
    {storage : Storage K} (h : storage.Opened) (filter : LSTFilter) :
    ∃ after effects, filter.insert platform point storage = .ok (after, effects) ∧
      after.Opened ∧
      (∀ name, (after.rowsOf name).isSome = (storage.rowsOf name).isSome) ∧
      (∀ connected request, .requestLocationUpdates connected request ∉ effects) ∧
      ∀ table inserted, .inserted table inserted ∈ effects ↔
        filter.Writes platform point storage ∧ filter.table = some table ∧
          inserted = point := by
  cases filter with
  | cloud => exact ⟨storage, _, rfl, h, by simp, by simp, by simp [Writes]⟩
  | onStructure store smart =>
      by_cases hdropped : smart && !platform.smartInsert (pointsOf storage store) point
      · refine ⟨storage, [], by simp [LSTFilter.insert, hdropped], h, by simp, by simp, ?_⟩
        simp only [Bool.and_eq_true, Bool.not_eq_true'] at hdropped
        simp [Writes, hdropped]
      · obtain ⟨after, hinsert, hopened, hrows⟩ := insertInto_opened store point h
        refine ⟨after, _, by rw [LSTFilter.insert, if_neg hdropped, hinsert], hopened, ?_, ?_, ?_⟩
        · intro name
          rw [hrows]
          by_cases hname : name = store.tableIdentifier <;> simp [hname]
        · intro connected request
          split <;> simp
        · have hkept : smart = true →
              platform.smartInsert (pointsOf storage store) point = true := by
            intro hsmart
            simpa [hsmart] using hdropped
          intro table inserted
          simp only [Writes, LSTFilter.table, Option.some.injEq]
          split
          · rename_i hexists
            simp only [List.mem_singleton, Effect.inserted.injEq, hexists, and_true]
            exact ⟨fun heq => ⟨hkept, heq.1.symm, heq.2⟩, fun heq => ⟨heq.2.1.symm, heq.2.2⟩⟩
          · rename_i hmissing
            simp [hmissing]

def isLoadCommand (action : String) : Bool :=
  action = "stdtableonload" || action = "rtreeonload" || action = "cloudoffload"

def commandFilter (action : String) (current : Option LSTFilter) : Option LSTFilter :=
  if action = "stdtableonload" then
    some (.onStructure (SQLiteNaive "SpatialTableMain") false)
  else if action = "rtreeonload" then some (.onStructure (SQLiteRTree "RTreeMain") true)
  else if action = "cloudoffload" then some .cloud
  else current

namespace Instance

/-- What `beginLocation` makes of the instance. -/
def begun (current : Instance) : Instance :=
  { current with
    mGoogleApiClient := some (current.mGoogleApiClient.getD .connecting)
    mLocationRequest :=
      if current.mGoogleApiClient.isNone then some ⟨1000, 500⟩ else current.mLocationRequest }

def afterCommand (action : String) (current : Instance) : Instance :=
  if isLoadCommand action then
    begun { current with lstFilter := commandFilter action current.lstFilter }
  else current

def afterCallback (receiver : Instance) : Callback D → Instance
  | .onConnected =>
      { receiver with mGoogleApiClient := receiver.mGoogleApiClient.map fun _ => .connected }
  | .onConnectionSuspended =>
      { receiver with mGoogleApiClient := receiver.mGoogleApiClient.map fun _ => .connecting }
  | .onLocationChanged _ _ => receiver

end Instance

/-- What an event makes of the instances, whatever the tables hold. -/
def Event.instancesAfter (instances : Instances) : Event D K → Instances
  | .onStartCommand action =>
      { instances with toInstance := instances.toInstance.afterCommand action }
  | .callback call => { instances with toInstance := instances.toInstance.afterCallback call }
  | .onDestroy =>
      { toInstance := .fresh, destroyed := instances.destroyed ++ [instances.toInstance] }
  | .ofDestroyed index call =>
      { instances with destroyed := instances.destroyed.modify index (·.afterCallback call) }
  | .indexBroadcast _ _ => instances

def instancesOf (events : List (Event D K)) : Instances :=
  events.foldl Event.instancesAfter .fresh

@[simp] theorem instancesOf_concat (events : List (Event D K)) (event : Event D K) :
    instancesOf (events ++ [event]) = event.instancesAfter (instancesOf events) := by
  simp [instancesOf]

theorem beginLocation_eq (service : Service K) :
    beginLocation service = .ok ({ service with toInstance := service.toInstance.begun },
      if service.mGoogleApiClient.isSome then
        [.requestLocationUpdates service.isConnected service.mLocationRequest] else []) := by
  rcases service with ⟨⟨⟨updates, client, request, filter⟩, destroyed⟩, storage⟩
  cases client <;> rfl

theorem stopBuilt_eq (service : Service K) :
    stopBuilt service = .ok (service,
      if service.mGoogleApiClient.isSome then [.removeLocationUpdates service.isConnected]
      else []) := by
  unfold stopBuilt stopLocationUpdates
  split <;> rfl

theorem onDestroy_eq (service : Service K) :
    onDestroy service = .ok ({ service with
        toInstance := .fresh
        destroyed := service.destroyed ++ [service.toInstance] },
      if service.mGoogleApiClient.isSome then [.removeLocationUpdates service.isConnected]
      else []) := by
  rw [onDestroy, stopBuilt_eq]
  rfl

theorem onConnected_eq {service : Service K} (h : service.locationUpdates = true) :
    onConnected service = .ok ({ service with
        toInstance := service.toInstance.afterCallback (.onConnected : Callback D) },
      if service.mGoogleApiClient.isSome then
        [.requestLocationUpdates true service.mLocationRequest] else []) := by
  rcases service with ⟨⟨⟨updates, client, request, filter⟩, destroyed⟩, storage⟩
  obtain rfl : updates = true := h
  cases client <;> rfl

theorem stdTableOnload_installed {service : Service K} (h : service.storage.Installed) :
    ∃ storage, stdTableOnload service = .ok { service with
        lstFilter := some (.onStructure (SQLiteNaive "SpatialTableMain") false), storage } ∧
      storage.Opened ∧
      storage.rowsOf = Function.update
        ((SQLiteNaive "SpatialTableMain").rowsAfterNaive service.storage) "RTreeMain"
        (((SQLiteNaive "SpatialTableMain").rowsAfterNaive service.storage "RTreeMain").map
          fun _ => []) := by
  obtain ⟨created, hhelper, hcreated, hrows⟩ :=
    (SQLiteNaive "SpatialTableMain").newNaive_installed h
  have hother : (SQLiteNaive "RTreeMain").newNaive created = .ok created := by
    obtain ⟨db, rfl, -⟩ := hcreated
    rfl
  obtain ⟨cleared, hclear, hcleared, hrowsCleared⟩ :=
    (SQLiteNaive "RTreeMain").clearNaive_opened hcreated
  refine ⟨cleared, ?_, hcleared, ?_⟩
  · simp only [stdTableOnload, hhelper, hother, bind, Except.bind]
    rw [show (SQLiteNaive "RTreeMain").clear created = .ok cleared from hclear]
    rfl
  · rw [hrowsCleared, hrows]
    rfl

theorem rtreeOnload_installed {service : Service K} (h : service.storage.Installed) :
    ∃ storage, rtreeOnload service = .ok { service with
        lstFilter := some (.onStructure (SQLiteRTree "RTreeMain") true), storage } ∧
      storage.Opened ∧
      storage.rowsOf = Function.update
        (Function.update service.storage.rowsOf "RTreeMain"
          (some ((service.storage.rowsOf "RTreeMain").getD [])))
        "SpatialTableMain" ((service.storage.rowsOf "SpatialTableMain").map fun _ => []) := by
  obtain ⟨created, hhelper, hcreated, hrows⟩ := (SQLiteRTree "RTreeMain").newRTree_installed h
  have hother : (SQLiteNaive "SpatialTableMain").newNaive created = .ok created := by
    obtain ⟨db, rfl, -⟩ := hcreated
    rfl
  obtain ⟨cleared, hclear, hcleared, hrowsCleared⟩ :=
    (SQLiteNaive "SpatialTableMain").clearNaive_opened hcreated
  refine ⟨cleared, ?_, hcleared, ?_⟩
  · simp only [rtreeOnload, hhelper, hother, bind, Except.bind]
    rw [show (SQLiteNaive "SpatialTableMain").clear created = .ok cleared from hclear]
    rfl
  · rw [hrowsCleared, hrows]
    simp [SQLiteNaive, SQLiteRTree]

theorem clearStop_installed {service : Service K} (h : service.storage.Installed) :
    ∃ storage, clearStop service = stopBuilt { service with storage } ∧ storage.Opened ∧
      storage.rowsOf = fun name =>
        if name = "SpatialTableMain" ∨ name = "RTreeMain" then
          ((SQLiteNaive "SpatialTableMain").rowsAfterNaive service.storage name).map fun _ => []
        else (SQLiteNaive "SpatialTableMain").rowsAfterNaive service.storage name := by
  obtain ⟨created, hhelper, hcreated, hrows⟩ :=
    (SQLiteNaive "SpatialTableMain").newNaive_installed h
  have hother : (SQLiteNaive "RTreeMain").newNaive created = .ok created := by
    obtain ⟨db, rfl, -⟩ := hcreated
    rfl
  obtain ⟨first, hclearFirst, hfirst, hrowsFirst⟩ :=
    (SQLiteNaive "SpatialTableMain").clearNaive_opened hcreated
  obtain ⟨second, hclearSecond, hsecond, hrowsSecond⟩ :=
    (SQLiteNaive "RTreeMain").clearNaive_opened hfirst
  refine ⟨second, ?_, hsecond, ?_⟩
  · simp only [clearStop, hhelper, hother, bind, Except.bind]
    rw [show (SQLiteNaive "SpatialTableMain").clear created = .ok first from hclearFirst]
    dsimp only
    rw [show (SQLiteNaive "RTreeMain").clear first = .ok second from hclearSecond]
  · rw [hrowsSecond, hrowsFirst, hrows]
    funext name
    simp only [SQLiteNaive, Function.update_apply]
    split <;> split <;> simp_all

theorem onReceive_installed [Zero K] (platform : Platform D K) (extras : IndexExtras K)
    (now : ℤ) {storage : Storage K} (h : storage.Installed) :
    ∃ after, onReceive platform extras now storage = .ok after ∧ after.Opened ∧
      ∀ name, (after.rowsOf name).isSome =
        (decide (name = "RTreeMain") || (storage.rowsOf name).isSome) := by
  obtain ⟨created, hhelper, hcreated, hrows⟩ := (SQLiteRTree "RTreeMain").newRTree_installed h
  have htables : ∀ name, (created.rowsOf name).isSome =
      (decide (name = "RTreeMain") || (storage.rowsOf name).isSome) := by
    intro name
    rw [hrows]
    by_cases hname : name = "RTreeMain" <;> simp [SQLiteRTree, hname]
  simp only [onReceive, hhelper, bind, Except.bind]
  cases extras.command platform now with
  | insert point =>
      obtain ⟨after, effects, hinsert, hafter, hsame, -⟩ :=
        LSTFilter.insert_opened platform point hcreated
          (.onStructure (SQLiteRTree "RTreeMain") platform.defaultSmartInsert)
      refine ⟨after, ?_, hafter, fun name => (hsame name).trans (htables name)⟩
      simp [hinsert, pure, Except.pure]
  | windowPoK region => exact ⟨created, rfl, hcreated, htables⟩
  | pointPoK point => exact ⟨created, rfl, hcreated, htables⟩
  | unknown => exact ⟨created, rfl, hcreated, htables⟩

/-- An open file stays open and no table disappears. -/
structure Grows (before after : Storage K) : Prop where
  opened : before.Opened → after.Opened
  tables : ∀ name, (before.rowsOf name).isSome = true → (after.rowsOf name).isSome = true

theorem Grows.refl (storage : Storage K) : Grows storage storage :=
  ⟨id, fun _ => id⟩

/-- What every instance satisfies: it wants updates, and an installed filter works on an
opened file, the R-tree filter on an existing table. -/
structure Instance.Sound (receiver : Instance) (storage : Storage K) : Prop where
  locationUpdates : receiver.locationUpdates = true
  lstFilter : ∀ store smart, receiver.lstFilter = some (.onStructure store smart) →
    storage.Opened ∧ (store = SQLiteNaive "SpatialTableMain" ∨
      store = SQLiteRTree "RTreeMain" ∧ (storage.rowsOf "RTreeMain").isSome = true)

namespace Instance

theorem Sound.fresh (storage : Storage K) : Instance.fresh.Sound storage :=
  ⟨rfl, by simp [Instance.fresh]⟩

theorem Sound.grows {receiver : Instance} {before after : Storage K}
    (h : receiver.Sound before) (hgrows : Grows before after) : receiver.Sound after where
  locationUpdates := h.locationUpdates
  lstFilter store smart hfilter := by
    obtain ⟨hopened, hspatial | ⟨hrtree, hexists⟩⟩ := h.lstFilter store smart hfilter
    · exact ⟨hgrows.opened hopened, .inl hspatial⟩
    · exact ⟨hgrows.opened hopened, .inr ⟨hrtree, hgrows.tables _ hexists⟩⟩

theorem Sound.afterCallback {receiver : Instance} {storage : Storage K}
    (h : receiver.Sound storage) (callback : Callback D) :
    (receiver.afterCallback callback).Sound storage := by
  cases callback <;> exact ⟨h.locationUpdates, h.lstFilter⟩

end Instance

structure Service.Sound (service : Service K) : Prop where
  installed : service.storage.Installed
  current : service.toInstance.Sound service.storage
  destroyed : ∀ former ∈ service.destroyed, former.Sound service.storage

theorem Service.Sound.fresh : (Service.fresh : Service K).Sound :=
  ⟨.inl rfl, .fresh _, by simp [Service.fresh, Instances.fresh]⟩

/-- The ways in which the service handles a start command; each of them says what the
command does to the filter and to the tables, and what is left to do. -/
inductive CommandOutcome (action : String) (service after : Service K)
    (effects : List (Effect K)) : Prop where
  | stdTableOnload {storage : Storage K} (haction : action = "stdtableonload")
      (hrows : storage.rowsOf = Function.update
        ((SQLiteNaive "SpatialTableMain").rowsAfterNaive service.storage) "RTreeMain"
        (((SQLiteNaive "SpatialTableMain").rowsAfterNaive service.storage "RTreeMain").map
          fun _ => []))
      (hbegin : beginLocation { service with
        lstFilter := some (.onStructure (SQLiteNaive "SpatialTableMain") false), storage } =
          .ok (after, effects))
  | rtreeOnload {storage : Storage K} (haction : action = "rtreeonload")
      (hrows : storage.rowsOf = Function.update
        (Function.update service.storage.rowsOf "RTreeMain"
          (some ((service.storage.rowsOf "RTreeMain").getD [])))
        "SpatialTableMain" ((service.storage.rowsOf "SpatialTableMain").map fun _ => []))
      (hbegin : beginLocation { service with
        lstFilter := some (.onStructure (SQLiteRTree "RTreeMain") true), storage } =
          .ok (after, effects))
  | cloudOffload (haction : action = "cloudoffload")
      (hbegin : beginLocation { service with lstFilter := some .cloud } = .ok (after, effects))
  | clearStop {storage : Storage K} (haction : action = "clearstop")
      (hrows : storage.rowsOf = fun name =>
        if name = "SpatialTableMain" ∨ name = "RTreeMain" then
          ((SQLiteNaive "SpatialTableMain").rowsAfterNaive service.storage name).map fun _ => []
        else (SQLiteNaive "SpatialTableMain").rowsAfterNaive service.storage name)
      (hstop : stopBuilt { service with storage } = .ok (after, effects))
  | unknown (hactions : action ∉ ["stdtableonload", "rtreeonload", "cloudoffload", "clearstop"])
      (hafter : after = service) (heffects : effects = [])

theorem onStartCommand_outcome {action : String} {service after : Service K}
    {effects : List (Effect K)} (hinstalled : service.storage.Installed)
    (h : onStartCommand action service = .ok (after, effects)) :
    CommandOutcome action service after effects := by
  unfold onStartCommand at h
  split at h
  · rename_i haction
    obtain ⟨storage, hload, -, hrows⟩ := stdTableOnload_installed hinstalled
    rw [hload] at h
    exact .stdTableOnload haction hrows h
  split at h
  · rename_i haction
    obtain ⟨storage, hload, -, hrows⟩ := rtreeOnload_installed hinstalled
    rw [hload] at h
    exact .rtreeOnload haction hrows h
  split at h
  · rename_i haction
    exact .cloudOffload haction h
  split at h
  · rename_i haction
    obtain ⟨storage, hclear, -, hrows⟩ := clearStop_installed hinstalled
    rw [hclear] at h
    exact .clearStop haction hrows h
  · rename_i hstd hrtree hcloud hclear
    obtain ⟨rfl, rfl⟩ := Prod.mk.inj (Except.ok.inj h)
    exact .unknown (by simp [hstd, hrtree, hcloud, hclear]) rfl rfl

def commandStore (action : String) : Option SQLiteStore :=
  if action = "stdtableonload" ∨ action = "clearstop" then
    some (SQLiteNaive "SpatialTableMain")
  else if action = "rtreeonload" then some (SQLiteRTree "RTreeMain")
  else none

def Event.firstStore : Event D K → Option SQLiteStore
  | .onStartCommand action => commandStore action
  | .indexBroadcast _ _ => some (SQLiteRTree "RTreeMain")
  | _ => none

/-- What handling an event that constructs `store` first does to the tables: they
never disappear, and `SpatialTableMain` appears only when the first store ever
constructed is its own `SQLiteNaive`. -/
def CreatesTables (store : Option SQLiteStore) (before after : Storage K) : Prop :=
  match store with
  | none => (after = .noDirectory ↔ before = .noDirectory) ∧
      (after.rowsOf "SpatialTableMain").isSome = (before.rowsOf "SpatialTableMain").isSome
  | some store => after ≠ .noDirectory ∧
      ((after.rowsOf "SpatialTableMain").isSome = true ↔
        (before.rowsOf "SpatialTableMain").isSome = true ∨
          before = .noDirectory ∧ store = SQLiteNaive "SpatialTableMain")

/-- The service handles the command and stays sound, with the instance and the tables that
the command calls for. -/
def CommandSound (action : String) (service : Service K) : Prop :=
  ∃ after effects, onStartCommand action service = .ok (after, effects) ∧ after.Sound ∧
    after.toInstances =
      { service.toInstances with toInstance := service.toInstance.afterCommand action } ∧
    CreatesTables (commandStore action) service.storage after.storage

/-- The commands that end in `beginLocation`, which leaves the filter and the tables to
what came before it. -/
theorem commandSound_of_begin {action : String} {service : Service K} {storage : Storage K}
    (hload : isLoadCommand action = true)
    (hcommand : onStartCommand action service = beginLocation { service with
      lstFilter := commandFilter action service.lstFilter, storage })
    (hsound : service.Sound) (hinstalled : storage.Installed)
    (hgrows : Grows service.storage storage)
    (hfilter : ∀ store smart,
      commandFilter action service.lstFilter = some (.onStructure store smart) →
        storage.Opened ∧ (store = SQLiteNaive "SpatialTableMain" ∨
          store = SQLiteRTree "RTreeMain" ∧ (storage.rowsOf "RTreeMain").isSome = true))
    (htables : CreatesTables (commandStore action) service.storage storage) :
    CommandSound action service := by
  rw [beginLocation_eq] at hcommand
  refine ⟨_, _, hcommand, ⟨hinstalled, ⟨hsound.current.locationUpdates, hfilter⟩, ?_⟩, ?_,
    htables⟩
  · exact fun former hformer => (hsound.destroyed former hformer).grows hgrows
  · simp [Instance.afterCommand, hload]

theorem stdTableOnload_sound {service : Service K} (h : service.Sound) :
    CommandSound "stdtableonload" service := by
  obtain ⟨storage, hload, hopened, hrows⟩ := stdTableOnload_installed h.installed
  have hcommand : onStartCommand "stdtableonload" service = beginLocation { service with
      lstFilter := some (.onStructure (SQLiteNaive "SpatialTableMain") false), storage } := by
    simp [onStartCommand, hload, bind, Except.bind]
  have htables : ∀ name, (storage.rowsOf name).isSome =
      ((SQLiteNaive "SpatialTableMain").rowsAfterNaive service.storage name).isSome := by
    intro name
    rw [hrows]
    by_cases hname : name = "RTreeMain" <;> simp [hname]
  refine commandSound_of_begin rfl hcommand h (.inr hopened) ⟨fun _ => hopened, ?_⟩ ?_
    ⟨hopened.ne_noDirectory, ?_⟩
  · intro name hname
    rw [htables, SQLiteStore.rowsAfterNaive_isSome_iff]
    exact .inl hname
  · intro store smart hfilter
    obtain ⟨rfl, -⟩ := LSTFilter.onStructure.inj (Option.some.inj hfilter)
    exact ⟨hopened, .inl rfl⟩
  · rw [htables, SQLiteStore.rowsAfterNaive_isSome_iff]
    simp [SQLiteNaive]

theorem rtreeOnload_sound {service : Service K} (h : service.Sound) :
    CommandSound "rtreeonload" service := by
  obtain ⟨storage, hload, hopened, hrows⟩ := rtreeOnload_installed h.installed
  have hcommand : onStartCommand "rtreeonload" service = beginLocation { service with
      lstFilter := some (.onStructure (SQLiteRTree "RTreeMain") true), storage } := by
    simp [onStartCommand, hload, bind, Except.bind]
  have htables : ∀ name, (storage.rowsOf name).isSome =
      (decide (name = "RTreeMain") || (service.storage.rowsOf name).isSome) := by
    intro name
    rw [hrows]
    by_cases hspatial : name = "SpatialTableMain"
    · simp [hspatial]
    · by_cases hrtree : name = "RTreeMain" <;> simp [hspatial, hrtree]
  refine commandSound_of_begin rfl hcommand h (.inr hopened) ⟨fun _ => hopened, ?_⟩ ?_
    ⟨hopened.ne_noDirectory, ?_⟩
  · intro name hname
    simp [htables, hname]
  · intro store smart hfilter
    obtain ⟨rfl, -⟩ := LSTFilter.onStructure.inj (Option.some.inj hfilter)
    exact ⟨hopened, .inr ⟨rfl, by simp [htables]⟩⟩
  · simp [htables, SQLiteNaive, SQLiteRTree]

theorem cloudOffload_sound {service : Service K} (h : service.Sound) :
    CommandSound "cloudoffload" service :=
  commandSound_of_begin rfl rfl h h.installed (.refl _) (by simp [commandFilter])
    ⟨Iff.rfl, rfl⟩

theorem clearStop_sound {service : Service K} (h : service.Sound) :
    CommandSound "clearstop" service := by
  obtain ⟨storage, hclear, hopened, hrows⟩ := clearStop_installed h.installed
  rw [stopBuilt_eq] at hclear
  have htables : ∀ name, (storage.rowsOf name).isSome =
      ((SQLiteNaive "SpatialTableMain").rowsAfterNaive service.storage name).isSome := by
    intro name
    rw [hrows]
    dsimp only
    split <;> simp
  have hgrows : Grows service.storage storage := by
    refine ⟨fun _ => hopened, fun name hname => ?_⟩
    rw [htables, SQLiteStore.rowsAfterNaive_isSome_iff]
    exact .inl hname
  refine ⟨{ service with storage }, _, hclear, ⟨.inr hopened,
    h.current.grows hgrows, fun former hformer => (h.destroyed former hformer).grows hgrows⟩,
    rfl, hopened.ne_noDirectory, ?_⟩
  rw [htables, SQLiteStore.rowsAfterNaive_isSome_iff]
  simp [SQLiteNaive]

theorem onStartCommand_sound (action : String) {service : Service K} (h : service.Sound) :
    CommandSound action service := by
  rcases eq_or_ne action "stdtableonload" with rfl | hstd
  · exact stdTableOnload_sound h
  rcases eq_or_ne action "rtreeonload" with rfl | hrtree
  · exact rtreeOnload_sound h
  rcases eq_or_ne action "cloudoffload" with rfl | hcloud
  · exact cloudOffload_sound h
  rcases eq_or_ne action "clearstop" with rfl | hclear
  · exact clearStop_sound h
  refine ⟨service, [], by simp [onStartCommand, hstd, hrtree, hcloud, hclear], h,
    by simp [Instance.afterCommand, isLoadCommand, hstd, hrtree, hcloud], ?_⟩
  rw [show commandStore action = none by simp [commandStore, hstd, hrtree, hclear]]
  exact ⟨Iff.rfl, rfl⟩

theorem onLocationChanged_sound (platform : Platform D K) (location : Location D) (now : ℤ)
    {service : Service K} (h : service.toInstance.Sound service.storage) :
    ∃ storage effects, onLocationChanged platform location now service =
        .ok ({ service with storage }, effects) ∧
      Grows service.storage storage ∧ (service.storage.Installed → storage.Installed) ∧
      CreatesTables none service.storage storage := by
  unfold onLocationChanged
  cases hfilter : service.lstFilter with
  | none => exact ⟨service.storage, [], rfl, .refl _, id, Iff.rfl, rfl⟩
  | some filter =>
      cases filter with
      | cloud =>
          exact ⟨service.storage, [.httpGet "http://pacobackend.appspot.com/"], rfl, .refl _, id,
            Iff.rfl, rfl⟩
      | onStructure store smart =>
          obtain ⟨hopened, -⟩ := h.lstFilter store smart hfilter
          obtain ⟨storage, effects, hinsert, hafter, htables, -⟩ :=
            LSTFilter.insert_opened platform (locationPoint platform location now) hopened
              (.onStructure store smart)
          refine ⟨storage, effects, ?_, ⟨fun _ => hafter, fun name => ?_⟩, fun _ => .inr hafter,
            ?_, htables _⟩
          · simp [hinsert, bind, Except.bind, pure, Except.pure]
          · rw [htables]
            exact id
          · exact iff_of_false hafter.ne_noDirectory hopened.ne_noDirectory

theorem handleCallback_sound (platform : Platform D K) (callback : Callback D)
    {service : Service K} (h : service.toInstance.Sound service.storage) :
    ∃ storage effects, handleCallback platform callback service =
        .ok ({ service with
          toInstance := service.toInstance.afterCallback callback, storage }, effects) ∧
      Grows service.storage storage ∧ (service.storage.Installed → storage.Installed) ∧
      CreatesTables none service.storage storage := by
  cases callback with
  | onConnected =>
      exact ⟨_, _, onConnected_eq h.locationUpdates, .refl _, id, Iff.rfl, rfl⟩
  | onConnectionSuspended => exact ⟨_, _, rfl, .refl _, id, Iff.rfl, rfl⟩
  | onLocationChanged location now => exact onLocationChanged_sound platform location now h

theorem onDestroyed_sound (platform : Platform D K) (index : ℕ) (callback : Callback D)
    {service : Service K} (h : service.Sound) :
    ∃ storage effects, onDestroyed index (handleCallback platform callback) service =
        .ok ({ service with
          destroyed := service.destroyed.modify index (·.afterCallback callback), storage },
            effects) ∧
      Grows service.storage storage ∧ (service.storage.Installed → storage.Installed) ∧
      CreatesTables none service.storage storage := by
  unfold onDestroyed
  rw [List.modify_eq_set_getElem?]
  cases hformer : service.destroyed[index]? with
  | none => exact ⟨_, _, rfl, .refl _, id, Iff.rfl, rfl⟩
  | some former =>
      have hsound : (service.withInstance former).toInstance.Sound
          (service.withInstance former).storage :=
        h.destroyed former (List.mem_of_getElem? hformer)
      obtain ⟨storage, effects, hok, hrest⟩ := handleCallback_sound platform callback hsound
      refine ⟨storage, effects, ?_, hrest⟩
      simp only [hok, bind, Except.bind]
      rfl

theorem handle_sound [Zero K] (platform : Platform D K) (event : Event D K)
    {service : Service K} (h : service.Sound) :
    ∃ after effects, handle platform event service = .ok (after, effects) ∧ after.Sound ∧
      after.toInstances = event.instancesAfter service.toInstances ∧
      CreatesTables event.firstStore service.storage after.storage := by
  cases event with
  | onStartCommand action => exact onStartCommand_sound action h
  | callback callback =>
      obtain ⟨storage, effects, hok, hgrows, hinstalled, htables⟩ :=
        handleCallback_sound platform callback h.current
      exact ⟨_, effects, hok, ⟨hinstalled h.installed, (h.current.grows hgrows).afterCallback _,
        fun former hformer => (h.destroyed former hformer).grows hgrows⟩, rfl, htables⟩
  | onDestroy =>
      refine ⟨_, _, onDestroy_eq service, ⟨h.installed, .fresh _, ?_⟩, rfl, Iff.rfl, rfl⟩
      intro former hformer
      rcases List.mem_append.mp hformer with hbefore | hlast
      · exact h.destroyed former hbefore
      · rw [List.mem_singleton.mp hlast]
        exact h.current
  | ofDestroyed index callback =>
      obtain ⟨storage, effects, hok, hgrows, hinstalled, htables⟩ :=
        onDestroyed_sound platform index callback h
      refine ⟨_, effects, hok, ⟨hinstalled h.installed, h.current.grows hgrows, ?_⟩, rfl,
        htables⟩
      intro former hformer
      obtain ⟨place, hplace, rfl⟩ := List.mem_iff_getElem.mp hformer
      dsimp only at hplace ⊢
      rw [List.getElem_modify]
      have hsound := (h.destroyed _
        (List.getElem_mem (by simpa using hplace : place < service.destroyed.length))).grows hgrows
      split
      · exact hsound.afterCallback _
      · exact hsound
  | indexBroadcast extras now =>
      obtain ⟨after, hok, hopened, htables⟩ := onReceive_installed platform extras now h.installed
      have hgrows : Grows service.storage after :=
        ⟨fun _ => hopened, fun name hname => by simp [htables, hname]⟩
      refine ⟨{ service with storage := after }, [], ?_, ⟨.inr hopened, h.current.grows hgrows,
        fun former hformer => (h.destroyed former hformer).grows hgrows⟩, rfl,
        hopened.ne_noDirectory, ?_⟩
      · simp [handle, hok, bind, Except.bind, pure, Except.pure]
      · simp [htables, SQLiteNaive, SQLiteRTree]

theorem machine_step [Zero K] (platform : Platform D K) (event : Event D K)
    {service after : Service K} {effects : List (Effect K)}
    (h : handle platform event service = .ok (after, effects)) :
    (machine platform).next (.ok service) event = .ok after ∧
      (machine platform).emit (.ok service) event = effects :=
  Machine.ofHandler_step (fun service event => handle platform event service) h

theorem run_sound [Zero K] (platform : Platform D K) (events : List (Event D K)) :
    ∃ service, (machine platform).run events = .ok service ∧ service.Sound ∧
      service.toInstances = instancesOf events := by
  refine Machine.ofHandler_history
    (R := fun events (service : Service K) =>
      service.Sound ∧ service.toInstances = instancesOf events)
    ⟨.fresh, rfl⟩ ?_ events
  rintro before service event ⟨hsound, hinstances⟩
  obtain ⟨after, effects, hok, hafter, hnext, -⟩ := handle_sound platform event hsound
  exact ⟨after, effects, hok, hafter, by rw [instancesOf_concat, ← hinstances, hnext]⟩

end LSTAndroid.LocationPoll
