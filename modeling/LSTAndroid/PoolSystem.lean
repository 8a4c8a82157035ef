import LSTAndroid.ConnectionPool

/-!
The pool with the threads that use it: requests that wait, connections that are held
or have been dropped, and the garbage collector.
-/

namespace LSTAndroid.PoolSystem

open LSTAndroid.ConnectionPool

/-- `unparked` are the waiters that have left the queue while their threads have not
run yet; `abandoned` are those whose threads have found the pool closed; `recycled` counts
the uses of waiter objects that are over; `collected` are connections that the pool has lost
and that are not finalized, `leftOpen` those that their finalizers could not close;
`pendingWakes` counts the threads that have cleared the leak flag and not yet woken the
others. -/
structure System where
  pool : Pool
  now : Nat
  unparked : List ConnectionWaiter
  abandoned : List ConnectionWaiter
  recycled : Nat
  held : List Connection
  collected : List Connection
  leftOpen : List Connection
  pendingWakes : Nat
  deriving DecidableEq

inductive Event where
  | tick (elapsed : Nat)
  | acquireConnection (thread : Nat) (sql : Option String) (connectionFlags : BitVec 32)
      (canceled : Bool)
  | poll (object : Nat) (nonce : BitVec 32)
  | cancel (object : Nat) (nonce : BitVec 32)
  | releaseConnection (connection : Connection)
  | drop (connection : Connection)
  | collect (connection : Connection)
  | finalize (connection : Connection)
  | testLeaked
  | wakeForLeak
  | reconfigure (configuration : Configuration)
  | close

inductive Reply where
  | nothing
  | connection (connection : Connection)
  | waiting (waiter : ConnectionWaiter)
  | exception (exception : PoolException)
  deriving DecidableEq

def isTicket (object : Nat) (nonce : BitVec 32) (waiter : ConnectionWaiter) : Bool :=
  waiter.object == object && waiter.nonce == nonce

namespace System

variable (env : Environment)

def start (pool : Pool) : System :=
  ⟨pool, 0, [], [], 0, [], [], [], 0⟩

def unpark (system : System) (answer : Pool × List ConnectionWaiter) : System :=
  { system with pool := answer.1, unparked := system.unparked ++ answer.2 }

def acquireConnection (system : System) (thread : Nat) (sql : Option String)
    (connectionFlags : BitVec 32) (canceled : Bool) : System × Reply :=
  match system.pool.waitForConnection env thread system.now sql connectionFlags canceled with
  | (pool, .error failure) => ({ system with pool := pool }, .exception failure)
  | (pool, .ok (.inl connection)) =>
      ({ system with pool := pool, held := connection :: system.held }, .connection connection)
  | (pool, .ok (.inr waiter)) => ({ system with pool := pool }, .waiting waiter)

/-- The block in the loop of `waitForConnection`, for a thread that has been unparked.  Once
the pool is closed it throws before it recycles the waiter. -/
def poll (system : System) (object : Nat) (nonce : BitVec 32) : System × Reply :=
  match system.unparked.find? (isTicket object nonce) with
  | none => (system, .nothing)
  | some waiter =>
      let left := { system with unparked := system.unparked.eraseP (isTicket object nonce) }
      if !system.pool.isOpen then
        ({ left with abandoned := waiter :: left.abandoned }, .exception .closed)
      else
        let recycled := { left with
          pool := left.pool.recycleConnectionWaiter waiter, recycled := left.recycled + 1 }
        match waiter.assignedConnection, waiter.exception with
        | some connection, _ =>
            ({ recycled with held := connection :: recycled.held }, .connection connection)
        | none, some failure => (recycled, .exception failure)
        | none, none => (system, .nothing)

/-- `onCancel`: a nonce that does not match leaves the waiter alone.  A waiter without a
connection or an exception is searched for in the queue until its end. -/
def cancel (system : System) (object : Nat) (nonce : BitVec 32) : System × Reply :=
  match system.pool.connectionWaiterQueue.find? (isTicket object nonce) with
  | some waiter =>
      let pool := { system.pool with
        connectionWaiterQueue :=
          system.pool.connectionWaiterQueue.eraseP (isTicket object nonce) }
      let system := { system with
        unparked := system.unparked ++ [{ waiter with exception := some .canceled }] }
      (system.unpark (pool.wakeConnectionWaiters env), .nothing)
  | none =>
      match (system.unparked ++ system.abandoned).find? (isTicket object nonce) with
      | some waiter =>
          if waiter.assignedConnection.isSome || waiter.exception.isSome then (system, .nothing)
          else (system, .exception .nullPointer)
      | none => (system, .nothing)

def releaseConnection (system : System) (connection : Connection) : System × Reply :=
  match system.pool.releaseConnection env connection with
  | (pool, .error failure) => ({ system with pool := pool }, .exception failure)
  | (pool, .ok unparked) =>
      ({ system with held := system.held.erase connection }.unpark (pool, unparked), .nothing)

def collect (system : System) (connection : Connection) : System :=
  { system with
    pool := { system.pool with
      acquiredConnections := system.pool.acquiredConnections.eraseP fun entry =>
        entry.1.connectionId == connection.connectionId }
    collected := connection :: system.collected }

/-- The garbage collector comes to a connection that nothing refers to. -/
def forget (system : System) (connection : Connection) : System :=
  if connection ∈ system.collected then
    { system with collected := system.collected.erase connection }
  else
    { system with pool := { system.pool with
        unclosedConnections := system.pool.unclosedConnections.erase connection } }

/-- `SQLiteConnection.finalize`, with `onConnectionLeaked` and `dispose(true)`. -/
def finalize (system : System) (connection : Connection) : System :=
  let left := system.forget connection
  let pool := { left.pool with connectionLeaked := true }
  if env.closeThrows connection.connectionId then
    { left with pool := pool, leftOpen := connection :: left.leftOpen }
  else
    { left with pool := { pool with
        closedConnections := pool.closedConnections ++ [connection] } }

def testLeaked (system : System) : System :=
  if system.pool.connectionLeaked then
    { system with
      pool := { system.pool with connectionLeaked := false }
      pendingWakes := system.pendingWakes + 1 }
  else system

def wakeForLeak (system : System) : System :=
  match system.pendingWakes with
  | 0 => system
  | pendingWakes + 1 =>
      { system with pendingWakes := pendingWakes }.unpark (system.pool.wakeConnectionWaiters env)

def answer (system : System) :
    Pool × Except PoolException (List ConnectionWaiter) → System × Reply
  | (pool, .error failure) => ({ system with pool := pool }, .exception failure)
  | (pool, .ok unparked) => (system.unpark (pool, unparked), .nothing)

def step (system : System) : Event → System × Reply
  | .tick elapsed => ({ system with now := system.now + elapsed }, .nothing)
  | .acquireConnection thread sql connectionFlags canceled =>
      system.acquireConnection env thread sql connectionFlags canceled
  | .poll object nonce => system.poll object nonce
  | .cancel object nonce => system.cancel env object nonce
  | .releaseConnection connection => system.releaseConnection env connection
  | .drop connection => ({ system with held := system.held.erase connection }, .nothing)
  | .collect connection => (system.collect connection, .nothing)
  | .finalize connection => (system.finalize env connection, .nothing)
  | .testLeaked => (system.testLeaked, .nothing)
  | .wakeForLeak => (system.wakeForLeak env, .nothing)
  | .reconfigure configuration => system.answer (system.pool.reconfigure env configuration)
  | .close => system.answer (system.pool.close env)

/-- Threads give back and drop what they hold; only what nothing refers to is collected, and
a connection is finalized once. -/
def Allowed (system : System) : Event → Prop
  | .releaseConnection connection => connection ∈ system.held
  | .drop connection => connection ∈ system.held
  | .collect connection =>
      connection ∈ system.pool.acquiredConnections.map Prod.fst ∧ connection ∉ system.held ∧
        ∀ waiter ∈ system.unparked, waiter.assignedConnection ≠ some connection
  | .finalize connection =>
      connection ∈ system.collected ∨ connection ∈ system.pool.unclosedConnections
  | _ => True

end System

/-- The states of a pool after any events in any order, under any answers of the native
library. -/
inductive Reachable : System → Prop
  | opened {env hasCodec configuration pool} :
      Pool.open? env hasCodec configuration = some pool → Reachable (.start pool)
  | step {system} (env : Environment) (event : Event) :
      Reachable system → system.Allowed event → Reachable (system.step env event).1

/-- What holds at the start and is kept by every step holds in every reachable state. -/
theorem Reachable.invariant {P : System → Prop}
    (hopen : ∀ {env hasCodec configuration pool},
      Pool.open? env hasCodec configuration = some pool → P (.start pool))
    (hstep : ∀ system env event, P system → system.Allowed event → P (system.step env event).1)
    {system : System} (h : Reachable system) : P system := by
  induction h with
  | opened hpool => exact hopen hpool
  | step env event _ hallowed ih => exact hstep _ env event ih hallowed

inductive Run : System → System → Prop
  | refl {system} : Run system system
  | step {before system} (env : Environment) (event : Event) :
      Run before system → system.Allowed event → Run before (system.step env event).1

theorem Reachable.run {before after : System} (h : Reachable before) (hrun : Run before after) :
    Reachable after := by
  induction hrun with
  | refl => exact h
  | step env event _ hallowed ih => exact .step env event ih hallowed

theorem Run.head {before after : System} (env : Environment) (event : Event)
    (hallowed : before.Allowed event) (hrun : Run (before.step env event).1 after) :
    Run before after := by
  induction hrun with
  | refl => exact .step env event .refl hallowed
  | step env event _ hallowed ih => exact .step env event ih hallowed

section Scripts

variable (env : Environment)

def System.perform : System → List Event → System
  | system, [] => system
  | system, event :: events => (system.step env event).1.perform events

def System.AllowedAll : System → List Event → Prop
  | _, [] => True
  | system, event :: events =>
      system.Allowed event ∧ (system.step env event).1.AllowedAll events

instance decidableAllowed (system : System) :
    (event : Event) → Decidable (system.Allowed event)
  | .releaseConnection connection => inferInstanceAs (Decidable (connection ∈ system.held))
  | .drop connection => inferInstanceAs (Decidable (connection ∈ system.held))
  | .collect _ => inferInstanceAs (Decidable (_ ∧ _ ∧ ∀ waiter ∈ system.unparked, _))
  | .finalize _ => inferInstanceAs (Decidable (_ ∨ _))
  | .tick _ | .acquireConnection _ _ _ _ | .poll _ _ | .cancel _ _ | .testLeaked | .wakeForLeak
  | .reconfigure _ | .close => isTrue trivial

instance decidableAllowedAll : (system : System) → (events : List Event) →
    Decidable (system.AllowedAll env events)
  | _, [] => isTrue trivial
  | system, event :: events =>
      have := decidableAllowedAll (system.step env event).1 events
      inferInstanceAs (Decidable (_ ∧ _))

theorem Run.perform {system : System} {events : List Event}
    (hallowed : system.AllowedAll env events) : Run system (system.perform env events) := by
  induction events generalizing system with
  | nil => exact .refl
  | cons event events ih => exact .head env event hallowed.1 (ih hallowed.2)

def faultless : Environment :=
  ⟨fun _ => false, fun _ => false, fun _ => false, fun _ _ => false⟩

def sampleConfiguration (openFlags : BitVec 32) : Configuration :=
  ⟨openFlags, 25, "en_US", false, []⟩

def opened (openFlags : BitVec 32) : System :=
  .start
    { hasCodec := false
      configuration := sampleConfiguration openFlags
      maxConnectionPoolSize := connectionPoolSize false (sampleConfiguration openFlags)
      isOpen := true
      nextConnectionId := 1
      connectionWaiterObjects := 0
      connectionWaiterPool := []
      connectionWaiterQueue := []
      availableNonPrimaryConnections := []
      availablePrimaryConnection := some ⟨0, true, sampleConfiguration openFlags, false⟩
      acquiredConnections := []
      connectionLeaked := false
      closedConnections := []
      unclosedConnections := [] }

theorem reachable_opened (openFlags : BitVec 32) : Reachable (opened openFlags) := by
  have hopen : Pool.open? faultless false (sampleConfiguration openFlags) =
      some (opened openFlags).pool := rfl
  exact .opened hopen

def wanting (thread : Nat) (connectionFlags : BitVec 32) : Event :=
  .acquireConnection thread none connectionFlags false

/-- All ten connections are lent, and one more thread waits for the primary one, another
for any. -/
def crowded : System :=
  (opened enableWriteAheadLogging).perform faultless
    (wanting 0 connectionFlagPrimaryConnectionAffinity :: List.replicate 9 (wanting 1 0) ++
      [wanting 2 connectionFlagPrimaryConnectionAffinity, wanting 3 0])

theorem reachable_crowded : Reachable crowded :=
  (reachable_opened enableWriteAheadLogging).run (.perform faultless (by decide))

end Scripts

end LSTAndroid.PoolSystem
