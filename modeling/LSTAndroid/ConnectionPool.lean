import Mathlib.Data.Option.Basic
import Mathlib.Data.List.Basic

/-!
The pool that hands the connections of one database to its threads.  Every function
below is a block that holds the lock of the pool; what lies between two blocks is a
step of its own in the system at the end.
-/

namespace LSTAndroid.ConnectionPool

/-- The parameters of `SQLiteDatabaseConfiguration`; its path never changes. -/
structure Configuration where
  openFlags : BitVec 32
  maxSqlCacheSize : Int
  locale : String
  foreignKeyConstraintsEnabled : Bool
  customFunctions : List String
  deriving DecidableEq

def enableWriteAheadLogging : BitVec 32 := 0x20000000#32

def connectionFlagReadOnly : BitVec 32 := 1#32 <<< 0
def connectionFlagPrimaryConnectionAffinity : BitVec 32 := 1#32 <<< 1
def connectionFlagInteractive : BitVec 32 := 1#32 <<< 2

structure Connection where
  connectionId : Nat
  isPrimaryConnection : Bool
  configuration : Configuration
  onlyAllowReadOnlyOperations : Bool
  deriving DecidableEq

inductive AcquiredConnectionStatus where
  | normal
  | reconfigure
  | discard
  deriving DecidableEq

inductive PoolException where
  | closed
  | canceled
  | openFailed
  | notAcquired
  | walModeInUse
  | foreignKeysInUse
  | nullPointer
  deriving DecidableEq

/-- A waiter object may serve many requests; `nonce` tells them apart until it wraps. -/
structure ConnectionWaiter where
  object : Nat
  nonce : BitVec 32
  thread : Nat
  startTime : Nat
  priority : Nat
  wantPrimaryConnection : Bool
  sql : Option String
  connectionFlags : BitVec 32
  assignedConnection : Option Connection
  exception : Option PoolException
  deriving DecidableEq

/-- `unclosedConnections` are those that the pool has given up although they could not be
closed; only their finalizers know of them. -/
structure Pool where
  hasCodec : Bool
  configuration : Configuration
  maxConnectionPoolSize : Nat
  isOpen : Bool
  nextConnectionId : Nat
  connectionWaiterObjects : Nat
  connectionWaiterPool : List (Nat × BitVec 32)
  connectionWaiterQueue : List ConnectionWaiter
  availableNonPrimaryConnections : List Connection
  availablePrimaryConnection : Option Connection
  acquiredConnections : List (Connection × AcquiredConnectionStatus)
  connectionLeaked : Bool
  closedConnections : List Connection
  unclosedConnections : List Connection
  deriving DecidableEq

structure Environment where
  openThrows : Nat → Bool
  reconfigureThrows : Nat → Bool
  closeThrows : Nat → Bool
  preparedStatementInCache : Nat → String → Bool

section Sizes

def walConnectionPoolSize : Nat :=
  max 2 10

def connectionPoolSize (hasCodec : Bool) (configuration : Configuration) : Nat :=
  if !hasCodec && configuration.openFlags &&& enableWriteAheadLogging != 0 then
    walConnectionPoolSize
  else 1

def Pool.setMaxConnectionPoolSizeLocked (pool : Pool) : Pool :=
  { pool with maxConnectionPoolSize := connectionPoolSize pool.hasCodec pool.configuration }

def getPriority (connectionFlags : BitVec 32) : Nat :=
  if connectionFlags &&& connectionFlagInteractive != 0 then 1 else 0

end Sizes

namespace Pool

variable (env : Environment)

section Connections

def openConnectionLocked (pool : Pool) (configuration : Configuration)
    (primaryConnection : Bool) : Pool × Except PoolException Connection :=
  let connectionId := pool.nextConnectionId
  let pool := { pool with nextConnectionId := connectionId + 1 }
  if env.openThrows connectionId then (pool, .error .openFailed)
  else (pool, .ok ⟨connectionId, primaryConnection, configuration, false⟩)

/-- Closes one connection after another; where that throws, the exception is logged only. -/
def closeConnections (pool : Pool) (connections : List Connection) : Pool :=
  { pool with
    closedConnections := pool.closedConnections ++
      connections.filter fun connection => !env.closeThrows connection.connectionId
    unclosedConnections := pool.unclosedConnections ++
      connections.filter fun connection => env.closeThrows connection.connectionId }

def closeAvailableNonPrimaryConnections (pool : Pool) : Pool :=
  { pool.closeConnections env pool.availableNonPrimaryConnections with
    availableNonPrimaryConnections := [] }

def closeAvailableConnections (pool : Pool) : Pool :=
  let pool := pool.closeAvailableNonPrimaryConnections env
  { pool.closeConnections env pool.availablePrimaryConnection.toList with
    availablePrimaryConnection := none }

/-- The `while` loop, by the value of `availableCount` before its test. -/
def closeExcessConnectionsFrom : Nat → Pool → Pool
  | 0, pool => pool
  | availableCount + 1, pool =>
      if availableCount + 1 > pool.maxConnectionPoolSize - 1 then
        let removed := pool.availableNonPrimaryConnections[availableCount]?
        closeExcessConnectionsFrom availableCount
          { pool.closeConnections env removed.toList with
            availableNonPrimaryConnections :=
              pool.availableNonPrimaryConnections.eraseIdx availableCount }
      else pool

def closeExcessConnections (pool : Pool) : Pool :=
  closeExcessConnectionsFrom env pool.availableNonPrimaryConnections.length pool

/-- `SQLiteConnection.reconfigure`; `none` when it throws. -/
def reconfigureConnection (configuration : Configuration) (connection : Connection) :
    Option Connection :=
  if env.reconfigureThrows connection.connectionId then none
  else some { connection with
    configuration := configuration, onlyAllowReadOnlyOperations := false }

/-- Reconfigures the connections in place and closes those that cannot be. -/
def reconfigureEach (configuration : Configuration) :
    List Connection → List Connection × List Connection
  | [] => ([], [])
  | connection :: connections =>
      let (kept, failed) := reconfigureEach configuration connections
      match reconfigureConnection env configuration connection with
      | some reconfigured => (reconfigured :: kept, failed)
      | none => (kept, connection :: failed)

def markStatus (status : AcquiredConnectionStatus)
    (entry : Connection × AcquiredConnectionStatus) : Connection × AcquiredConnectionStatus :=
  if status ≠ entry.2 ∧ entry.2 ≠ .discard then (entry.1, status) else entry

def markAcquiredConnections (pool : Pool) (status : AcquiredConnectionStatus) : Pool :=
  { pool with acquiredConnections := pool.acquiredConnections.map (markStatus status) }

def reconfigureAllConnections (pool : Pool) : Pool :=
  let (primary, failedPrimary) :=
    reconfigureEach env pool.configuration pool.availablePrimaryConnection.toList
  let (nonPrimary, failedNonPrimary) :=
    reconfigureEach env pool.configuration pool.availableNonPrimaryConnections
  let pool := pool.closeConnections env (failedPrimary ++ failedNonPrimary)
  { pool with
    availablePrimaryConnection := primary.head?
    availableNonPrimaryConnections := nonPrimary }.markAcquiredConnections .reconfigure

/-- `false` of the source is `none`; `true` comes with the connection as it is then. -/
def recycleConnection (pool : Pool) (connection : Connection)
    (status : AcquiredConnectionStatus) : Pool × Option Connection :=
  let recycled :=
    match status with
    | .normal => some connection
    | .reconfigure => reconfigureConnection env pool.configuration connection
    | .discard => none
  match recycled with
  | some recycled => (pool, some recycled)
  | none => (pool.closeConnections env [connection], none)

end Connections

section Acquiring

def finishAcquireConnection (pool : Pool) (connection : Connection)
    (connectionFlags : BitVec 32) : Pool × Connection :=
  let connection := { connection with
    onlyAllowReadOnlyOperations := connectionFlags &&& connectionFlagReadOnly != 0 }
  ({ pool with acquiredConnections := (connection, .normal) :: pool.acquiredConnections },
    connection)

def openAndAcquire (pool : Pool) (primaryConnection : Bool) (connectionFlags : BitVec 32) :
    Pool × Except PoolException (Option Connection) :=
  match pool.openConnectionLocked env pool.configuration primaryConnection with
  | (pool, .error failure) => (pool, .error failure)
  | (pool, .ok connection) =>
      let (pool, connection) := pool.finishAcquireConnection connection connectionFlags
      (pool, .ok (some connection))

def tryAcquirePrimaryConnection (pool : Pool) (connectionFlags : BitVec 32) :
    Pool × Except PoolException (Option Connection) :=
  match pool.availablePrimaryConnection with
  | some connection =>
      let (pool, connection) := { pool with
        availablePrimaryConnection := none }.finishAcquireConnection connection connectionFlags
      (pool, .ok (some connection))
  | none =>
      if pool.acquiredConnections.any fun entry => entry.1.isPrimaryConnection then
        (pool, .ok none)
      else pool.openAndAcquire env true connectionFlags

def openConnections (pool : Pool) : Nat :=
  pool.acquiredConnections.length + if pool.availablePrimaryConnection.isSome then 1 else 0

/-- The index of the connection that is preferred for a statement, else of the last. -/
def nonPrimaryIndex (pool : Pool) (sql : Option String) : Nat :=
  let available := pool.availableNonPrimaryConnections
  let cached := sql.bind fun sql =>
    if available.length > 1 then
      available.findIdx? fun connection =>
        env.preparedStatementInCache connection.connectionId sql
    else none
  cached.getD (available.length - 1)

def tryAcquireNonPrimaryConnection (pool : Pool) (sql : Option String)
    (connectionFlags : BitVec 32) : Pool × Except PoolException (Option Connection) :=
  let index := pool.nonPrimaryIndex env sql
  match pool.availableNonPrimaryConnections[index]? with
  | some connection =>
      let (pool, connection) := { pool with
        availableNonPrimaryConnections :=
          pool.availableNonPrimaryConnections.eraseIdx index }.finishAcquireConnection
            connection connectionFlags
      (pool, .ok (some connection))
  | none =>
      if pool.openConnections ≥ pool.maxConnectionPoolSize then (pool, .ok none)
      else pool.openAndAcquire env false connectionFlags

end Acquiring

section Waiters

/-- The pool in the loop over the waiters, with the two flags of the loop. -/
structure Offers where
  pool : Pool
  primaryConnectionNotAvailable : Bool
  nonPrimaryConnectionNotAvailable : Bool

def offerNonPrimary (offers : Offers) (waiter : ConnectionWaiter) :
    Offers × Except PoolException (Option Connection) :=
  if !waiter.wantPrimaryConnection && !offers.nonPrimaryConnectionNotAvailable then
    match offers.pool.tryAcquireNonPrimaryConnection env waiter.sql waiter.connectionFlags with
    | (pool, .ok none) =>
        ({ offers with pool := pool, nonPrimaryConnectionNotAvailable := true }, .ok none)
    | (pool, answer) => ({ offers with pool := pool }, answer)
  else (offers, .ok none)

def offerPrimary (offers : Offers) (waiter : ConnectionWaiter) :
    Offers × Except PoolException (Option Connection) :=
  if !offers.primaryConnectionNotAvailable then
    match offers.pool.tryAcquirePrimaryConnection env waiter.connectionFlags with
    | (pool, .ok none) =>
        ({ offers with pool := pool, primaryConnectionNotAvailable := true }, .ok none)
    | (pool, answer) => ({ offers with pool := pool }, answer)
  else (offers, .ok none)

def offer (offers : Offers) (waiter : ConnectionWaiter) :
    Offers × Except PoolException (Option Connection) :=
  match offerNonPrimary env offers waiter with
  | (offers, .ok none) => offerPrimary env offers waiter
  | (offers, answer) => (offers, answer)

/-- The waiters that stay in the queue, those that are unparked, and the pool after. -/
def wakeWaiters : List ConnectionWaiter → Offers →
    List ConnectionWaiter × List ConnectionWaiter × Pool
  | [], offers => ([], [], offers.pool)
  | waiter :: successors, offers =>
      if !offers.pool.isOpen then
        let (kept, unparked, pool) := wakeWaiters successors offers
        (kept, waiter :: unparked, pool)
      else
        match offer env offers waiter with
        | (offers, .error failure) =>
            let (kept, unparked, pool) := wakeWaiters successors offers
            (kept, { waiter with exception := some failure } :: unparked, pool)
        | (offers, .ok (some connection)) =>
            let (kept, unparked, pool) := wakeWaiters successors offers
            (kept, { waiter with assignedConnection := some connection } :: unparked, pool)
        | (offers, .ok none) =>
            if offers.nonPrimaryConnectionNotAvailable && offers.primaryConnectionNotAvailable then
              (waiter :: successors, [], offers.pool)
            else
              let (kept, unparked, pool) := wakeWaiters successors offers
              (waiter :: kept, unparked, pool)

def wakeConnectionWaiters (pool : Pool) : Pool × List ConnectionWaiter :=
  let (kept, unparked, after) := wakeWaiters env pool.connectionWaiterQueue ⟨pool, false, false⟩
  ({ after with connectionWaiterQueue := kept }, unparked)

def obtainConnectionWaiter (pool : Pool) (thread startTime priority : Nat)
    (wantPrimaryConnection : Bool) (sql : Option String) (connectionFlags : BitVec 32) :
    Pool × ConnectionWaiter :=
  match pool.connectionWaiterPool with
  | (object, nonce) :: pooled =>
      ({ pool with connectionWaiterPool := pooled },
        ⟨object, nonce, thread, startTime, priority, wantPrimaryConnection, sql, connectionFlags,
          none, none⟩)
  | [] =>
      ({ pool with connectionWaiterObjects := pool.connectionWaiterObjects + 1 },
        ⟨pool.connectionWaiterObjects, 0, thread, startTime, priority, wantPrimaryConnection, sql,
          connectionFlags, none, none⟩)

def recycleConnectionWaiter (pool : Pool) (waiter : ConnectionWaiter) : Pool :=
  { pool with
    connectionWaiterPool := (waiter.object, waiter.nonce + 1) :: pool.connectionWaiterPool }

/-- The new waiter goes before the first one of a lower priority. -/
def enqueue (waiter : ConnectionWaiter) : List ConnectionWaiter → List ConnectionWaiter
  | [] => [waiter]
  | successor :: successors =>
      if waiter.priority > successor.priority then waiter :: successor :: successors
      else successor :: enqueue waiter successors

/-- The first block of `waitForConnection`: a connection, or the waiter to park with. -/
def waitForConnection (pool : Pool) (thread now : Nat) (sql : Option String)
    (connectionFlags : BitVec 32) (canceled : Bool) :
    Pool × Except PoolException (Connection ⊕ ConnectionWaiter) :=
  let wantPrimaryConnection := connectionFlags &&& connectionFlagPrimaryConnectionAffinity != 0
  if !pool.isOpen then (pool, .error .closed)
  else if canceled then (pool, .error .canceled)
  else
    let (pool, first) :=
      if !wantPrimaryConnection then pool.tryAcquireNonPrimaryConnection env sql connectionFlags
      else (pool, .ok none)
    let (pool, answer) :=
      match first with
      | .ok none => pool.tryAcquirePrimaryConnection env connectionFlags
      | first => (pool, first)
    match answer with
    | .error failure => (pool, .error failure)
    | .ok (some connection) => (pool, .ok (.inl connection))
    | .ok none =>
        let (pool, waiter) := pool.obtainConnectionWaiter thread now (getPriority connectionFlags)
          wantPrimaryConnection sql connectionFlags
        ({ pool with connectionWaiterQueue := enqueue waiter pool.connectionWaiterQueue },
          .ok (.inr waiter))

/-- The scan of `isSessionBlockingImportantConnectionWaitersLocked`. -/
def isBlockingImportantWaiters (holdingPrimaryConnection : Bool) (priority : Nat) :
    List ConnectionWaiter → Bool
  | [] => false
  | waiter :: successors =>
      if priority > waiter.priority then false
      else if holdingPrimaryConnection || !waiter.wantPrimaryConnection then true
      else isBlockingImportantWaiters holdingPrimaryConnection priority successors

def shouldYieldConnection (pool : Pool) (connection : Connection) (connectionFlags : BitVec 32) :
    Except PoolException Bool :=
  if !pool.acquiredConnections.any fun entry => entry.1.connectionId == connection.connectionId then
    .error .notAcquired
  else if !pool.isOpen then .ok false
  else .ok (isBlockingImportantWaiters connection.isPrimaryConnection
    (getPriority connectionFlags) pool.connectionWaiterQueue)

end Waiters

section Lifecycle

/-- `open`; `none` when the primary connection cannot be opened. -/
def open? (hasCodec : Bool) (configuration : Configuration) : Option Pool :=
  let pool : Pool :=
    { hasCodec := hasCodec
      configuration := configuration
      maxConnectionPoolSize := connectionPoolSize hasCodec configuration
      isOpen := false
      nextConnectionId := 0
      connectionWaiterObjects := 0
      connectionWaiterPool := []
      connectionWaiterQueue := []
      availableNonPrimaryConnections := []
      availablePrimaryConnection := none
      acquiredConnections := []
      connectionLeaked := false
      closedConnections := []
      unclosedConnections := [] }
  match pool.openConnectionLocked env configuration true with
  | (_, .error _) => none
  | (pool, .ok connection) =>
      some { pool with availablePrimaryConnection := some connection, isOpen := true }

def releaseConnection (pool : Pool) (connection : Connection) :
    Pool × Except PoolException (List ConnectionWaiter) :=
  let isIt := fun entry : Connection × AcquiredConnectionStatus =>
    entry.1.connectionId == connection.connectionId
  match pool.acquiredConnections.find? isIt with
  | none => (pool, .error .notAcquired)
  | some (connection, status) =>
      let pool := { pool with acquiredConnections := pool.acquiredConnections.eraseP isIt }
      if !pool.isOpen then (pool.closeConnections env [connection], .ok [])
      else if connection.isPrimaryConnection then
        let (pool, recycled) := pool.recycleConnection env connection status
        let pool := { pool with
          availablePrimaryConnection := recycled.or pool.availablePrimaryConnection }
        let (pool, unparked) := pool.wakeConnectionWaiters env
        (pool, .ok unparked)
      else if pool.availableNonPrimaryConnections.length ≥ pool.maxConnectionPoolSize - 1 then
        (pool.closeConnections env [connection], .ok [])
      else
        let (pool, recycled) := pool.recycleConnection env connection status
        let pool := { pool with
          availableNonPrimaryConnections :=
            pool.availableNonPrimaryConnections ++ recycled.toList }
        let (pool, unparked) := pool.wakeConnectionWaiters env
        (pool, .ok unparked)

/-- `dispose(false)`. -/
def close (pool : Pool) : Pool × Except PoolException (List ConnectionWaiter) :=
  if !pool.isOpen then (pool, .error .closed)
  else
    let (pool, unparked) :=
      ({ pool with isOpen := false }.closeAvailableConnections env).wakeConnectionWaiters env
    (pool, .ok unparked)

def walModeChanged (pool : Pool) (configuration : Configuration) : Bool :=
  (configuration.openFlags ^^^ pool.configuration.openFlags) &&& enableWriteAheadLogging != 0

/-- No connection at all may stay open while the WAL mode changes. -/
def withoutAvailable (pool : Pool) (configuration : Configuration) : Pool :=
  if pool.walModeChanged configuration then pool.closeAvailableConnections env else pool

def adoptPrimaryConnection (pool : Pool) (newPrimaryConnection : Connection)
    (configuration : Configuration) : Pool :=
  { (pool.closeAvailableConnections env).markAcquiredConnections .discard with
    availablePrimaryConnection := some newPrimaryConnection
    configuration := configuration }.setMaxConnectionPoolSizeLocked

/-- The branch of `reconfigure` for new open flags. -/
def reopen (pool : Pool) (configuration : Configuration) :
    Pool × Except PoolException Unit :=
  match (pool.withoutAvailable env configuration).openConnectionLocked env configuration true with
  | (pool, .error failure) => (pool, .error failure)
  | (pool, .ok newPrimaryConnection) =>
      (pool.adoptPrimaryConnection env newPrimaryConnection configuration, .ok ())

def reconfigureInPlace (pool : Pool) (configuration : Configuration) : Pool :=
  { pool with configuration := configuration }.setMaxConnectionPoolSizeLocked
    |>.closeExcessConnections env |>.reconfigureAllConnections env

/-- The last part of `reconfigure`, when nothing forbids the change. -/
def applyConfiguration (pool : Pool) (configuration : Configuration) :
    Pool × Except PoolException (List ConnectionWaiter) :=
  let (pool, done) :=
    if pool.configuration.openFlags ≠ configuration.openFlags then pool.reopen env configuration
    else (pool.reconfigureInPlace env configuration, .ok ())
  match done with
  | .error failure => (pool, .error failure)
  | .ok () =>
      let (pool, unparked) := pool.wakeConnectionWaiters env
      (pool, .ok unparked)

/-- A change of the WAL mode closes all connections but the primary one. -/
def withoutNonPrimary (pool : Pool) (configuration : Configuration) : Pool :=
  if pool.walModeChanged configuration then pool.closeAvailableNonPrimaryConnections env else pool

def reconfigure (pool : Pool) (configuration : Configuration) :
    Pool × Except PoolException (List ConnectionWaiter) :=
  if !pool.isOpen then (pool, .error .closed)
  else if pool.walModeChanged configuration && !pool.acquiredConnections.isEmpty then
    (pool, .error .walModeInUse)
  else
    let pool := pool.withoutNonPrimary env configuration
    if configuration.foreignKeyConstraintsEnabled ≠ pool.configuration.foreignKeyConstraintsEnabled
        ∧ !pool.acquiredConnections.isEmpty then
      (pool, .error .foreignKeysInUse)
    else pool.applyConfiguration env configuration

end Lifecycle

end Pool

end LSTAndroid.ConnectionPool
