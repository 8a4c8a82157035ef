import LSTAndroid.PoolGrants
import LSTAndroid.PoolSystem

namespace LSTAndroid.PoolSystem

open LSTAndroid.ConnectionPool
open LSTAndroid.ConnectionPool.Pool

variable (env : Environment) (system : System)

def newlyHeld : Except PoolException (Connection ⊕ ConnectionWaiter) → List Connection
  | .ok (.inl connection) => [connection]
  | _ => []

def replyTo : Except PoolException (Connection ⊕ ConnectionWaiter) → Reply
  | .error failure => .exception failure
  | .ok (.inl connection) => .connection connection
  | .ok (.inr waiter) => .waiting waiter

theorem step_acquireConnection (thread : Nat) (sql : Option String)
    (connectionFlags : BitVec 32) (canceled : Bool) :
    ∃ pool answer, Requested system.now connectionFlags system.pool pool answer ∧
      system.step env (.acquireConnection thread sql connectionFlags canceled) =
        ({ system with pool := pool, held := newlyHeld answer ++ system.held },
          replyTo answer) := by
  rcases hcall : system.pool.waitForConnection env thread system.now sql connectionFlags canceled
    with ⟨pool, answer⟩
  refine ⟨pool, answer, waitForConnection_requested hcall, ?_⟩
  simp only [System.step, System.acquireConnection, hcall]
  rcases answer with failure | connection | waiter
  · rfl
  · rfl
  · rfl

theorem find?_isTicket {object : Nat} {nonce : BitVec 32} {waiters : List ConnectionWaiter}
    {waiter : ConnectionWaiter} (h : waiters.find? (isTicket object nonce) = some waiter) :
    waiter.ticket = (object, nonce) ∧ ∃ before others, waiters = before ++ waiter :: others ∧
      waiters.eraseP (isTicket object nonce) = before ++ others := by
  obtain ⟨hticket, before, others, hsplit, hbefore⟩ := List.find?_eq_some_iff_append.mp h
  refine ⟨?_, before, others, hsplit, ?_⟩
  · simpa [isTicket, ConnectionWaiter.ticket] using hticket
  · rw [hsplit]
    exact eraseP_append_cons (by simpa using hbefore) hticket

theorem step_poll (object : Nat) (nonce : BitVec 32) :
    system.step env (.poll object nonce) = (system, .nothing) ∨
      ∃ waiter before others, waiter.ticket = (object, nonce) ∧
        system.unparked = before ++ waiter :: others ∧
        (system.step env (.poll object nonce)).2 ≠ .nothing ∧
        ((system.pool.isOpen = false ∧ (system.step env (.poll object nonce)).1 =
            { system with
              unparked := before ++ others
              abandoned := waiter :: system.abandoned }) ∨
          (system.pool.isOpen = true ∧ ¬ waiter.Unanswered ∧
            (system.step env (.poll object nonce)).1 =
              { system with
                pool := system.pool.recycleConnectionWaiter waiter
                unparked := before ++ others
                recycled := system.recycled + 1
                held := waiter.assignedConnection.toList ++ system.held })) := by
  simp only [System.step, System.poll]
  rcases hfind : system.unparked.find? (isTicket object nonce) with _ | waiter
  · exact .inl rfl
  obtain ⟨hticket, before, others, hsplit, herase⟩ := find?_isTicket hfind
  simp only [herase]
  rcases hopen : system.pool.isOpen with _ | _
  · exact .inr ⟨waiter, before, others, hticket, hsplit, nofun, .inl ⟨rfl, rfl⟩⟩
  rcases hassigned : waiter.assignedConnection with _ | connection
  · rcases hexception : waiter.exception with _ | failure
    · exact .inl rfl
    · refine .inr ⟨waiter, before, others, hticket, hsplit, nofun,
        .inr ⟨rfl, fun hnot => ?_, ?_⟩⟩
      · exact absurd (hexception.symm.trans hnot.2) nofun
      · rw [hassigned]
        rfl
  · refine .inr ⟨waiter, before, others, hticket, hsplit, nofun,
      .inr ⟨rfl, fun hnot => ?_, ?_⟩⟩
    · exact absurd (hassigned.symm.trans hnot.1) nofun
    · rw [hassigned]
      rfl

theorem step_cancel (object : Nat) (nonce : BitVec 32) :
    (system.step env (.cancel object nonce)).1 = system ∨
      ∃ waiter before others, waiter.ticket = (object, nonce) ∧
        system.pool.connectionWaiterQueue = before ++ waiter :: others ∧
        (system.step env (.cancel object nonce)).1 =
          { system with
            unparked := system.unparked ++ [{ waiter with exception := some .canceled }] }.unpark
              ({ system.pool with
                connectionWaiterQueue := before ++ others }.wakeConnectionWaiters env) := by
  simp only [System.step, System.cancel]
  rcases hfind : system.pool.connectionWaiterQueue.find? (isTicket object nonce) with _ | waiter
  · left
    rcases (system.unparked ++ system.abandoned).find? (isTicket object nonce) with _ | waiter
    · rfl
    · dsimp only
      split <;> rfl
  · obtain ⟨hticket, before, others, hsplit, herase⟩ := find?_isTicket hfind
    refine .inr ⟨waiter, before, others, hticket, hsplit, ?_⟩
    simp only [herase]

theorem step_releaseConnection (connection : Connection) :
    ((system.step env (.releaseConnection connection)).1 = system ∧
        ∀ entry ∈ system.pool.acquiredConnections,
          entry.1.connectionId ≠ connection.connectionId) ∨
      ∃ before entry others between wakes,
        system.pool.acquiredConnections = before ++ entry :: others ∧
        entry.1.connectionId = connection.connectionId ∧
        Returned env { system.pool with acquiredConnections := before ++ others } entry between
          wakes ∧
        (system.step env (.releaseConnection connection)).1 =
          { system with held := system.held.erase connection }.unpark
            (wakeIf env between wakes) := by
  simp only [System.step, System.releaseConnection]
  rcases releaseConnection_cases (rfl : system.pool.releaseConnection env connection = _) with
    ⟨hanswer, hnone⟩ | ⟨before, entry, others, between, wakes, hacquired, hid, -, hreturned,
      hanswer⟩
  · rw [hanswer]
    exact .inl ⟨rfl, hnone⟩
  · rw [hanswer]
    exact .inr ⟨before, entry, others, between, wakes, hacquired, hid, hreturned, rfl⟩

theorem step_finalize (connection : Connection) :
    ∃ closed unclosed collected leftOpen, (system.step env (.finalize connection)).1 =
      { system with
        pool := { system.pool with
          connectionLeaked := true
          closedConnections := closed
          unclosedConnections := unclosed }
        collected := collected
        leftOpen := leftOpen } := by
  simp only [System.step, System.finalize, System.forget]
  split <;> split <;> exact ⟨_, _, _, _, rfl⟩

theorem step_wakeForLeak :
    (system.step env .wakeForLeak).1 = system ∨
      ∃ pendingWakes, system.pendingWakes = pendingWakes + 1 ∧
        (system.step env .wakeForLeak).1 = { system with pendingWakes := pendingWakes }.unpark
          (system.pool.wakeConnectionWaiters env) := by
  simp only [System.step, System.wakeForLeak]
  rcases hpending : system.pendingWakes with _ | pendingWakes
  · exact .inl rfl
  · exact .inr ⟨pendingWakes, rfl, rfl⟩

theorem step_close :
    (system.step env .close).1 = system ∨ system.pool.isOpen = true ∧
      (system.step env .close).1 = system.unpark
        (wakeIf env ({ system.pool with isOpen := false }.closeAvailableConnections env) true) := by
  simp only [System.step]
  rcases close_cases (rfl : system.pool.close env = _) with hanswer | ⟨hopen, hanswer⟩
  · rw [hanswer]
    exact .inl rfl
  · rw [hanswer]
    exact .inr ⟨hopen, rfl⟩

/-- What `reconfigure` leaves before it wakes waiters, if it does. -/
inductive Reconfigured (env : Environment) (configuration : Configuration) (pool : Pool) :
    Pool → Bool → Prop
  | failed :
      Reconfigured env configuration pool
        { (pool.withoutNonPrimary env configuration).withoutAvailable env configuration with
          nextConnectionId := pool.nextConnectionId + 1 } false
  | reopened :
      Reconfigured env configuration pool
        ({ (pool.withoutNonPrimary env configuration).withoutAvailable env configuration with
          nextConnectionId := pool.nextConnectionId + 1 }.adoptPrimaryConnection env
            ⟨pool.nextConnectionId, true, configuration, false⟩ configuration) true
  | inPlace :
      pool.configuration.openFlags = configuration.openFlags →
        Reconfigured env configuration pool
          ((pool.withoutNonPrimary env configuration).reconfigureInPlace env configuration) true

theorem withoutNonPrimary_frame (env : Environment) (pool : Pool)
    (configuration : Configuration) :
    (pool.withoutNonPrimary env configuration).nextConnectionId = pool.nextConnectionId ∧
      (pool.withoutNonPrimary env configuration).configuration = pool.configuration := by
  unfold withoutNonPrimary
  split <;> exact ⟨rfl, rfl⟩

theorem Reconfigured.sameWaiters {env : Environment} {configuration : Configuration}
    {pool after : Pool} {wakes : Bool} (h : Reconfigured env configuration pool after wakes) :
    SameWaiters pool after := by
  have hbase : SameWaiters pool (pool.withoutNonPrimary env configuration) :=
    sameWaiters_withoutNonPrimary env configuration
  have hclosed := hbase.trans (sameWaiters_withoutAvailable env configuration)
  cases h with
  | failed => exact ⟨hclosed.isOpen, hclosed.queue, hclosed.pooled, hclosed.objects⟩
  | reopened =>
      refine SameWaiters.trans ?_ sameWaiters_adoptPrimaryConnection
      exact ⟨hclosed.isOpen, hclosed.queue, hclosed.pooled, hclosed.objects⟩
  | inPlace => exact hbase.trans sameWaiters_reconfigureInPlace

theorem step_reconfigure (configuration : Configuration) :
    (system.step env (.reconfigure configuration)).1 = system ∨
      system.pool.isOpen = true ∧
      (system.pool.walModeChanged configuration = true → system.pool.acquiredConnections = []) ∧
      ∃ between wakes, Reconfigured env configuration system.pool between wakes ∧
        (system.step env (.reconfigure configuration)).1 =
          system.unpark (wakeIf env between wakes) := by
  simp only [System.step]
  rcases reconfigure_cases (rfl : system.pool.reconfigure env configuration = _) with
    ⟨failure, hanswer⟩ | ⟨hopen, hlent, happly⟩
  · rw [hanswer]
    exact .inl rfl
  refine .inr ⟨hopen, hlent, ?_⟩
  rw [← happly]
  obtain ⟨hnext, hconfiguration⟩ := withoutNonPrimary_frame env system.pool configuration
  rcases applyConfiguration_cases (rfl : (system.pool.withoutNonPrimary env
      configuration).applyConfiguration env configuration = _) with
    ⟨after, failure, hfailed, hanswer⟩ | ⟨between, hanswer, hdone | ⟨hflags, rfl⟩⟩
  · rw [hanswer]
    rcases reopen_cases hfailed with hcase | hcase
    · obtain ⟨rfl, -⟩ := Prod.mk.inj hcase
      rw [hnext]
      refine ⟨_, false, .failed, ?_⟩
      simp [System.answer, System.unpark, wakeIf]
    · cases (Prod.mk.inj hcase).2
  · rw [hanswer]
    rcases reopen_cases hdone with hcase | hcase
    · cases (Prod.mk.inj hcase).2
    · obtain ⟨rfl, -⟩ := Prod.mk.inj hcase
      rw [hnext]
      exact ⟨_, true, .reopened, rfl⟩
  · rw [hanswer]
    rw [hconfiguration] at hflags
    exact ⟨_, true, .inPlace hflags, rfl⟩

end LSTAndroid.PoolSystem
