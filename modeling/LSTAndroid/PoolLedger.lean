import LSTAndroid.Library.ResourceLedger
import LSTAndroid.PoolSafety
import Mathlib.Algebra.Order.Group.Multiset
import Mathlib.Tactic.Abel

namespace LSTAndroid.PoolSystem

open LSTAndroid.Library.ResourceLedger LSTAndroid.Library.ResourceLedger.Ledger
open LSTAndroid.ConnectionPool
open LSTAndroid.ConnectionPool.Pool

variable {env : Environment}

def ids (connections : List Connection) : Multiset Nat :=
  (connections.map Connection.connectionId : List Nat)

@[simp] theorem ids_nil : ids [] = 0 := rfl

@[simp] theorem ids_cons (connection : Connection) (connections : List Connection) :
    ids (connection :: connections) = connection.connectionId ::ₘ ids connections := rfl

@[simp] theorem ids_append (first second : List Connection) :
    ids (first ++ second) = ids first + ids second := by
  simp [ids]

theorem ids_perm {first second : List Connection} (h : first.Perm second) :
    ids first = ids second :=
  Multiset.coe_eq_coe.mpr (h.map _)

theorem ids_filter (p : Connection → Bool) (connections : List Connection) :
    ids (connections.filter fun connection => !p connection) + ids (connections.filter p) =
      ids connections := by
  rw [add_comm, ← ids_append]
  exact ids_perm (List.filter_append_perm p connections)

/-- The idle, the lent and the closed connections; `gone` are those that are lost together
with those that could not be closed. -/
def ledger (pool : Pool) (gone : List Connection) : Ledger where
  next := pool.nextConnectionId
  idle := ids pool.availablePrimaryConnection.toList + ids pool.availableNonPrimaryConnections
  lent := ids (pool.acquiredConnections.map Prod.fst) + (ids pool.unclosedConnections + ids gone)
  retired := ids pool.closedConnections

theorem moves_close (env : Environment) {before after : Ledger} (connections : List Connection)
    (hnext : after.next = before.next) (hidle : before.idle = ids connections + after.idle)
    (hlent : after.lent =
      ids (connections.filter fun connection => env.closeThrows connection.connectionId) +
        before.lent)
    (hretired : after.retired =
      ids (connections.filter fun connection => !env.closeThrows connection.connectionId) +
        before.retired) : Moves before after := by
  refine .of_giveUp _ _ hnext ?_ hlent hretired
  rw [ids_filter fun connection => env.closeThrows connection.connectionId]
  exact hidle

theorem toList_getElem?_append_eraseIdx {α : Type} (items : List α) (index : Nat) :
    (items[index]?.toList ++ items.eraseIdx index).Perm items := by
  induction items generalizing index with
  | nil => simp
  | cons item items ih =>
      cases index with
      | zero => simp
      | succ index =>
          simp only [List.getElem?_cons_succ, List.eraseIdx_cons_succ]
          exact List.perm_middle.trans ((ih index).cons item)

section Blocks

variable {pool after : Pool} {gone connections : List Connection}
variable {answer : Except PoolException (Option Connection)}

theorem moves_of_attempt (h : Attempt pool after answer) :
    Moves (ledger pool gone) (ledger after gone) := by
  cases h with
  | @primary connection connectionFlags hsome =>
      exact .of_lend connection.connectionId rfl (by simp [ledger, hsome]) (by simp [ledger]) rfl
  | @nonPrimary connection before after connectionFlags hsplit =>
      refine .of_lend connection.connectionId rfl ?_ (by simp [ledger]) rfl
      simp [ledger, hsplit]
  | @opened connection connectionFlags hid hconfiguration hopened hother =>
      refine Relation.ReflTransGen.trans (b := ⟨pool.nextConnectionId + 1,
        pool.nextConnectionId ::ₘ (ledger pool gone).idle, (ledger pool gone).lent,
        (ledger pool gone).retired⟩) (Moves.of_create rfl rfl rfl rfl) ?_
      exact Moves.of_lend pool.nextConnectionId rfl rfl (by simp [ledger, hid]) rfl
  | failed => exact .of_skip rfl rfl rfl rfl
  | nothing => exact .refl

theorem moves_of_attempts (h : Attempts pool after connections) :
    Moves (ledger pool gone) (ledger after gone) := by
  induction h with
  | refl => exact .refl
  | head hattempt _ ih => exact (moves_of_attempt hattempt).trans ih

theorem moves_wakeConnectionWaiters (env : Environment)
    (hqueue : ∀ waiter ∈ pool.connectionWaiterQueue, waiter.Unanswered) :
    Moves (ledger pool gone) (ledger (pool.wakeConnectionWaiters env).1 gone) := by
  rcases hopen : pool.isOpen with _ | _
  · rw [wakeConnectionWaiters_closed hopen]
    exact .refl
  · rcases hwake : pool.wakeConnectionWaiters env with ⟨after, unparked⟩
    obtain ⟨last, hafter, hwoken⟩ := wakeConnectionWaiters_woken hopen hqueue hwake
    have hmoves : Moves (ledger pool gone) (ledger last gone) := moves_of_attempts hwoken.attempts
    rw [hafter]
    exact hmoves

theorem moves_closeAvailableNonPrimaryConnections (env : Environment) :
    Moves (ledger pool gone) (ledger (pool.closeAvailableNonPrimaryConnections env) gone) := by
  refine moves_close env pool.availableNonPrimaryConnections rfl ?_ ?_ ?_
  · simp [ledger, closeAvailableNonPrimaryConnections, closeConnections, add_comm]
  · simp only [ledger, closeAvailableNonPrimaryConnections, closeConnections, ids_append]
    abel
  · simp only [ledger, closeAvailableNonPrimaryConnections, closeConnections, ids_append]
    abel

theorem moves_closeAvailableConnections (env : Environment) :
    Moves (ledger pool gone) (ledger (pool.closeAvailableConnections env) gone) := by
  unfold closeAvailableConnections
  refine (moves_closeAvailableNonPrimaryConnections env).trans ?_
  generalize pool.closeAvailableNonPrimaryConnections env = base
  refine moves_close env base.availablePrimaryConnection.toList rfl ?_ ?_ ?_
  · simp [ledger, closeConnections]
  · simp only [ledger, closeConnections, ids_append]
    abel
  · simp only [ledger, closeConnections, ids_append]
    abel

theorem moves_closeExcessConnectionsFrom (availableCount : Nat) :
    Moves (ledger pool gone)
      (ledger (closeExcessConnectionsFrom env availableCount pool) gone) := by
  induction availableCount generalizing pool with
  | zero => exact .refl
  | succ availableCount ih =>
      simp only [closeExcessConnectionsFrom]
      split
      · refine Moves.trans ?_ ih
        refine moves_close env pool.availableNonPrimaryConnections[availableCount]?.toList rfl
          ?_ ?_ ?_
        · have herase := ids_perm (toList_getElem?_append_eraseIdx
            pool.availableNonPrimaryConnections availableCount)
          rw [ids_append] at herase
          simp only [ledger, closeConnections]
          rw [← herase]
          abel
        · simp only [ledger, closeConnections, ids_append]
          abel
        · simp only [ledger, closeConnections, ids_append]
          abel
      · exact Moves.refl

theorem moves_closeExcessConnections :
    Moves (ledger pool gone) (ledger (pool.closeExcessConnections env) gone) :=
  moves_closeExcessConnectionsFrom _

theorem ledger_markAcquiredConnections (status : AcquiredConnectionStatus) :
    ledger (pool.markAcquiredConnections status) gone = ledger pool gone := by
  simp only [ledger, markAcquiredConnections, List.map_map, Function.comp_def, markStatus_fst]

theorem ids_reconfigureEach (configuration : Configuration) (connections : List Connection) :
    ids (reconfigureEach env configuration connections).1 +
      ids (reconfigureEach env configuration connections).2 = ids connections := by
  induction connections with
  | nil => rfl
  | cons connection connections ih =>
      rw [ids_cons, ← ih]
      rcases hone : reconfigureConnection env configuration connection with _ | reconfigured
      · simp [reconfigureEach, hone]
      · simp [reconfigureEach, hone, reconfigureConnection_eq_some hone]

theorem moves_reconfigureAllConnections :
    Moves (ledger pool gone) (ledger (pool.reconfigureAllConnections env) gone) := by
  have hprimary : ids (reconfigureEach env pool.configuration
        pool.availablePrimaryConnection.toList).1.head?.toList +
      ids (reconfigureEach env pool.configuration pool.availablePrimaryConnection.toList).2 =
      ids pool.availablePrimaryConnection.toList := by
    rw [head?_toList_reconfigureEach]
    exact ids_reconfigureEach _ _
  have hnonPrimary : ids (reconfigureEach env pool.configuration
        pool.availableNonPrimaryConnections).1 +
      ids (reconfigureEach env pool.configuration pool.availableNonPrimaryConnections).2 =
      ids pool.availableNonPrimaryConnections := ids_reconfigureEach _ _
  rw [reconfigureAllConnections, ledger_markAcquiredConnections]
  refine moves_close env
    ((reconfigureEach env pool.configuration pool.availablePrimaryConnection.toList).2 ++
      (reconfigureEach env pool.configuration pool.availableNonPrimaryConnections).2)
    rfl ?_ ?_ ?_
  · simp only [ledger, closeConnections, ids_append]
    rw [← hprimary, ← hnonPrimary]
    abel
  · simp only [ledger, closeConnections, ids_append]
    abel
  · simp only [ledger, closeConnections, ids_append]
    abel

theorem moves_returned {entry : Connection × AcquiredConnectionStatus}
    {before others : List (Connection × AcquiredConnectionStatus)} {wakes : Bool}
    (hsound : Sound pool) (hacquired : pool.acquiredConnections = before ++ entry :: others)
    (h : Returned env { pool with acquiredConnections := before ++ others } entry after wakes) :
    Moves (ledger pool gone) (ledger after gone) := by
  have hgive : Moves (ledger pool gone) ⟨pool.nextConnectionId,
      entry.1.connectionId ::ₘ (ledger pool gone).idle,
      ids ((before ++ others).map Prod.fst) + (ids pool.unclosedConnections + ids gone),
      (ledger pool gone).retired⟩ := by
    refine Moves.of_giveBack entry.1.connectionId rfl rfl ?_ rfl
    simp [ledger, hacquired]
  have hretire : Moves (ledger pool gone) (ledger ({ pool with
      acquiredConnections := before ++ others }.closeConnections env [entry.1]) gone) := by
    refine hgive.trans (moves_close env [entry.1] rfl ?_ ?_ ?_)
    · simp [ledger, closeConnections]
    · simp only [ledger, closeConnections, ids_append]
      abel
    · simp only [ledger, closeConnections, ids_append]
      abel
  cases h with
  | closedPool => exact hretire
  | retired => exact hretire
  | overflow => exact hretire
  | primary same hopen hprimary hsame =>
      have hnone := (hsound.availablePrimaryConnection_eq_none hacquired hprimary
        hsame.not_discard).1
      have hid := hsame.connectionId
      convert hgive using 1
      simp [ledger, hnone, hid]
  | nonPrimary same hopen hprimary hroom hsame =>
      have hid := hsame.connectionId
      convert hgive using 1
      simp [ledger, hid, add_comm]

theorem moves_withoutNonPrimary (env : Environment) (configuration : Configuration) :
    Moves (ledger pool gone) (ledger (pool.withoutNonPrimary env configuration) gone) := by
  unfold withoutNonPrimary
  split
  · exact moves_closeAvailableNonPrimaryConnections env
  · exact .refl

theorem moves_withoutAvailable (env : Environment) (configuration : Configuration) :
    Moves (ledger pool gone) (ledger (pool.withoutAvailable env configuration) gone) := by
  unfold withoutAvailable
  split
  · exact moves_closeAvailableConnections env
  · exact .refl

theorem ledger_adoptPrimaryConnection (connection : Connection) (configuration : Configuration) :
    ledger (pool.adoptPrimaryConnection env connection configuration) gone =
      { ledger (pool.closeAvailableConnections env) gone with idle := ids [connection] } := by
  have hmark : ledger ((pool.closeAvailableConnections env).markAcquiredConnections .discard)
      gone = ledger (pool.closeAvailableConnections env) gone :=
    ledger_markAcquiredConnections .discard
  have hempty : (pool.closeAvailableConnections env).availableNonPrimaryConnections = [] := rfl
  unfold adoptPrimaryConnection
  generalize pool.closeAvailableConnections env = closed at hmark hempty ⊢
  rw [← hmark]
  simp [ledger, Pool.setMaxConnectionPoolSizeLocked, markAcquiredConnections, hempty]

/-- A primary connection that has just been opened takes the place of all idle ones. -/
theorem moves_adoptPrimaryConnection (configuration : Configuration) :
    Moves (ledger pool gone)
      (ledger ({ pool with nextConnectionId := pool.nextConnectionId + 1 }.adoptPrimaryConnection
        env ⟨pool.nextConnectionId, true, configuration, false⟩ configuration) gone) := by
  rw [ledger_adoptPrimaryConnection]
  exact (moves_closeAvailableConnections env).trans (Moves.of_create rfl rfl rfl rfl)

theorem moves_reconfigured {configuration : Configuration} {wakes : Bool}
    (h : Reconfigured env configuration pool after wakes) :
    Moves (ledger pool gone) (ledger after gone) := by
  have hbase : Moves (ledger pool gone) (ledger (pool.withoutNonPrimary env configuration) gone) :=
    moves_withoutNonPrimary env configuration
  have hclosed := hbase.trans (moves_withoutAvailable env configuration)
  have hnext : ((pool.withoutNonPrimary env configuration).withoutAvailable env
      configuration).nextConnectionId = pool.nextConnectionId := by
    rw [withoutAvailable_nextConnectionId]
    exact (withoutNonPrimary_frame env pool configuration).1
  cases h with
  | failed =>
      rw [← hnext]
      exact hclosed.trans (Moves.of_skip rfl rfl rfl rfl)
  | reopened =>
      rw [← hnext]
      exact hclosed.trans (moves_adoptPrimaryConnection configuration)
  | inPlace hflags =>
      unfold reconfigureInPlace
      refine hbase.trans ?_
      generalize pool.withoutNonPrimary env configuration = base
      refine Moves.trans ?_ moves_reconfigureAllConnections
      refine Moves.trans ?_ moves_closeExcessConnections
      exact .refl

end Blocks

section Runs

variable {pool : Pool} {system : System} {gone : List Connection}

theorem moves_wakeIf (wakes : Bool)
    (hqueue : ∀ waiter ∈ pool.connectionWaiterQueue, waiter.Unanswered) :
    Moves (ledger pool gone) (ledger (wakeIf env pool wakes).1 gone) := by
  cases wakes with
  | false => exact .refl
  | true => exact moves_wakeConnectionWaiters env hqueue

theorem moves_requested {after : Pool} {now : Nat} {connectionFlags : BitVec 32}
    {answer : Except PoolException (Connection ⊕ ConnectionWaiter)}
    (h : Requested now connectionFlags pool after answer) :
    Moves (ledger pool gone) (ledger after gone) := by
  cases h with
  | closed => exact .refl
  | canceled => exact .refl
  | failed failure hopen hattempts => exact moves_of_attempts hattempts
  | served connection hopen hattempts => exact moves_of_attempts hattempts
  | waits waiter hopen hbusy hobtained =>
      rw [hobtained.frame]
      exact .refl

/-- The entry that the pool loses when it is asked for a connection that it has lent. -/
theorem exists_entry_of_mem {connection : Connection}
    (h : connection ∈ pool.acquiredConnections.map Prod.fst) :
    ∃ before entry others, pool.acquiredConnections = before ++ entry :: others ∧
      entry.1.connectionId = connection.connectionId ∧
      (pool.acquiredConnections.eraseP fun entry =>
        entry.1.connectionId == connection.connectionId) = before ++ others := by
  obtain ⟨lent, hlent, rfl⟩ := List.mem_map.mp h
  obtain ⟨entry, before, others, -, hid, hsplit, herase⟩ := List.exists_of_eraseP
    (p := fun entry : Connection × AcquiredConnectionStatus =>
      entry.1.connectionId == lent.1.connectionId) hlent (by simp)
  exact ⟨before, entry, others, hsplit, by simpa using hid, herase⟩

def System.ledger (system : System) : Ledger :=
  PoolSystem.ledger system.pool (system.collected ++ system.leftOpen)

theorem ids_forget {connection : Connection}
    (h : connection ∈ system.collected ∨ connection ∈ system.pool.unclosedConnections) :
    ids system.pool.unclosedConnections + ids system.collected =
      connection.connectionId ::ₘ (ids (system.forget connection).pool.unclosedConnections +
        ids (system.forget connection).collected) := by
  unfold System.forget
  by_cases hcollected : connection ∈ system.collected
  · have hperm := ids_perm (List.perm_cons_erase hcollected)
    rw [if_pos hcollected, hperm, ids_cons, Multiset.add_cons]
  · have hperm := ids_perm (List.perm_cons_erase (h.resolve_left hcollected))
    rw [if_neg hcollected, hperm, ids_cons, Multiset.cons_add]

/-- A connection that the garbage collector comes to leaves those that are lost. -/
theorem ledger_forget {connection : Connection}
    (h : connection ∈ system.collected ∨ connection ∈ system.pool.unclosedConnections) :
    system.ledger = { (system.forget connection).ledger with
      lent := connection.connectionId ::ₘ (system.forget connection).ledger.lent } := by
  have hlost := ids_forget h
  have hlent : system.ledger.lent =
      connection.connectionId ::ₘ (ids (system.pool.acquiredConnections.map Prod.fst) +
        (ids (system.forget connection).pool.unclosedConnections +
          (ids (system.forget connection).collected + ids system.leftOpen))) := by
    simp only [System.ledger, ledger, ids_append]
    rw [← add_assoc (ids system.pool.unclosedConnections), hlost, ← Multiset.singleton_add,
      ← Multiset.singleton_add]
    abel
  refine Ledger.ext ?_ ?_ ?_ ?_
  · unfold System.forget
    split <;> rfl
  · unfold System.forget
    split <;> rfl
  · rw [hlent]
    unfold System.forget
    split <;> simp [System.ledger, ledger]
  · unfold System.forget
    split <;> rfl

theorem moves_finalize {connection : Connection}
    (h : connection ∈ system.collected ∨ connection ∈ system.pool.unclosedConnections) :
    Moves system.ledger (system.finalize env connection).ledger := by
  rw [ledger_forget h]
  unfold System.finalize
  generalize system.forget connection = left
  rcases hclose : env.closeThrows connection.connectionId with _ | _
  · have hgive : Moves
        { left.ledger with lent := connection.connectionId ::ₘ left.ledger.lent }
        { left.ledger with idle := connection.connectionId ::ₘ left.ledger.idle } :=
      Moves.of_giveBack connection.connectionId rfl rfl rfl rfl
    refine hgive.trans (Moves.of_retire (ids [connection]) rfl ?_ rfl ?_)
    · simp [System.ledger, ledger]
    · simp [System.ledger, ledger, add_comm]
  · have hsame : { left.ledger with lent := connection.connectionId ::ₘ left.ledger.lent } =
        ledger { left.pool with connectionLeaked := true }
          (left.collected ++ connection :: left.leftOpen) := by
      simp [System.ledger, ledger]
    rw [hsame]
    exact .refl

theorem moves_step (event : Event) (hinv : PoolInv system.pool)
    (hallowed : system.Allowed event) :
    Moves system.ledger (system.step env event).1.ledger := by
  cases event with
  | tick elapsed => exact .refl
  | acquireConnection thread sql connectionFlags canceled =>
      obtain ⟨pool, answer, hrequested, hstep⟩ :=
        step_acquireConnection env system thread sql connectionFlags canceled
      rw [hstep]
      exact moves_requested hrequested
  | poll object nonce =>
      rcases step_poll env system object nonce with
        hstep | ⟨waiter, before, others, -, -, -, ⟨-, hstep⟩ | ⟨-, -, hstep⟩⟩
      · rw [hstep]
      · rw [hstep]
        exact .refl
      · rw [hstep]
        exact .refl
  | cancel object nonce =>
      rcases step_cancel env system object nonce with
        hstep | ⟨waiter, before, others, -, hsplit, hstep⟩
      · rw [hstep]
      · rw [hstep]
        exact moves_wakeConnectionWaiters env (hinv.dequeue hsplit).unanswered
  | releaseConnection connection =>
      rcases step_releaseConnection env system connection with
        ⟨hstep, -⟩ | ⟨before, entry, others, between, wakes, hacquired, -, hreturned, hstep⟩
      · rw [hstep]
      · rw [hstep]
        refine (moves_returned hinv.sound hacquired hreturned).trans (moves_wakeIf wakes ?_)
        rw [hreturned.sameWaiters.queue]
        exact hinv.unanswered
  | drop connection => exact .refl
  | collect connection =>
      obtain ⟨before, entry, others, hsplit, hid, herase⟩ := exists_entry_of_mem hallowed.1
      have hledger : (system.collect connection).ledger = system.ledger := by
        simp only [System.ledger, System.collect, ledger]
        rw [herase, hsplit]
        simp [hid]
      exact hledger ▸ .refl
  | finalize connection => exact moves_finalize hallowed
  | testLeaked =>
      simp only [System.step, System.testLeaked]
      split <;> exact .refl
  | wakeForLeak =>
      rcases step_wakeForLeak env system with hstep | ⟨pendingWakes, -, hstep⟩
      · rw [hstep]
      · rw [hstep]
        exact moves_wakeConnectionWaiters env hinv.unanswered
  | reconfigure configuration =>
      rcases step_reconfigure env system configuration with
        hstep | ⟨hopen, -, between, wakes, hreconfigured, hstep⟩
      · rw [hstep]
      · rw [hstep]
        refine (moves_reconfigured hreconfigured).trans (moves_wakeIf wakes ?_)
        rw [hreconfigured.sameWaiters.queue]
        exact hinv.unanswered
  | close =>
      rcases step_close env system with hstep | ⟨hopen, hstep⟩
      · rw [hstep]
      · rw [hstep]
        have hclosed : Moves system.ledger
            (ledger ({ system.pool with isOpen := false }.closeAvailableConnections env)
              (system.collected ++ system.leftOpen)) := moves_closeAvailableConnections env
        exact hclosed.trans (moves_wakeIf true hinv.unanswered)

theorem Reachable.valid (h : Reachable system) : system.ledger.Valid := by
  induction h with
  | opened hopen =>
      obtain rfl := open?_eq_some hopen
      refine ⟨?_, fun resource hresource => ?_⟩
      · simp [System.ledger, System.start, ledger, Ledger.all]
      · simp [System.ledger, System.start, ledger, Ledger.all] at hresource ⊢
        omega
  | step env event hbefore hallowed ih =>
      exact (moves_step event hbefore.poolInv hallowed).valid ih

end Runs

end LSTAndroid.PoolSystem
