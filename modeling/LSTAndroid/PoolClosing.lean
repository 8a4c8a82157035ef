import LSTAndroid.PoolExclusion

namespace LSTAndroid.PoolSystem

open LSTAndroid.Library.ResourceLedger
open LSTAndroid.ConnectionPool
open LSTAndroid.ConnectionPool.Pool

variable {env : Environment} {pool middle after : Pool}

/-- The pool gives up no open connection but those that the native library refuses to
close. -/
def GivesUp (env : Environment) (pool after : Pool) : Prop :=
  ∀ connection ∈ after.unclosedConnections,
    connection ∈ pool.unclosedConnections ∨ env.closeThrows connection.connectionId = true

section Blocks

theorem GivesUp.of_eq (h : after.unclosedConnections = pool.unclosedConnections) :
    GivesUp env pool after := by
  intro connection hconnection
  rw [h] at hconnection
  exact .inl hconnection

theorem GivesUp.trans (hfirst : GivesUp env pool middle) (hsecond : GivesUp env middle after) :
    GivesUp env pool after := by
  intro connection hconnection
  rcases hsecond connection hconnection with hmiddle | hrefused
  · exact hfirst connection hmiddle
  · exact .inr hrefused

theorem givesUp_close (connections : List Connection)
    (h : after.unclosedConnections = pool.unclosedConnections ++
      connections.filter fun connection => env.closeThrows connection.connectionId) :
    GivesUp env pool after := by
  intro connection hconnection
  rw [h] at hconnection
  rcases List.mem_append.mp hconnection with hbefore | hrefused
  · exact .inl hbefore
  · exact .inr (List.mem_filter.mp hrefused).2

theorem givesUp_of_attempts {connections : List Connection} (h : Attempts pool after connections) :
    GivesUp env pool after := by
  rw [h.frame]
  exact .of_eq rfl

theorem givesUp_wakeConnectionWaiters
    (hqueue : ∀ waiter ∈ pool.connectionWaiterQueue, waiter.Unanswered) :
    GivesUp env pool (pool.wakeConnectionWaiters env).1 := by
  rcases hopen : pool.isOpen with _ | _
  · rw [wakeConnectionWaiters_closed hopen]
    exact .of_eq rfl
  · rcases hwake : pool.wakeConnectionWaiters env with ⟨after, unparked⟩
    obtain ⟨last, hafter, hwoken⟩ := wakeConnectionWaiters_woken hopen hqueue hwake
    have hlast : GivesUp env pool last := givesUp_of_attempts hwoken.attempts
    rw [hafter]
    exact hlast

theorem givesUp_wakeIf (wakes : Bool)
    (hqueue : ∀ waiter ∈ pool.connectionWaiterQueue, waiter.Unanswered) :
    GivesUp env pool (wakeIf env pool wakes).1 := by
  cases wakes with
  | false => exact .of_eq rfl
  | true => exact givesUp_wakeConnectionWaiters hqueue

theorem givesUp_of_requested {now : Nat} {connectionFlags : BitVec 32}
    {answer : Except PoolException (Connection ⊕ ConnectionWaiter)}
    (h : Requested now connectionFlags pool after answer) : GivesUp env pool after := by
  cases h with
  | closed => exact .of_eq rfl
  | canceled => exact .of_eq rfl
  | failed failure hopen hattempts => exact givesUp_of_attempts hattempts
  | served connection hopen hattempts => exact givesUp_of_attempts hattempts
  | waits waiter hopen hbusy hobtained =>
      rw [hobtained.frame]
      exact .of_eq rfl

theorem givesUp_of_returned {entry : Connection × AcquiredConnectionStatus} {wakes : Bool}
    (h : Returned env pool entry after wakes) : GivesUp env pool after := by
  cases h with
  | closedPool => exact givesUp_close [entry.1] rfl
  | retired => exact givesUp_close [entry.1] rfl
  | overflow => exact givesUp_close [entry.1] rfl
  | primary => exact .of_eq rfl
  | nonPrimary => exact .of_eq rfl

theorem givesUp_closeAvailableConnections :
    GivesUp env pool (pool.closeAvailableConnections env) := by
  have hnonPrimary : GivesUp env pool (pool.closeAvailableNonPrimaryConnections env) :=
    givesUp_close pool.availableNonPrimaryConnections rfl
  exact hnonPrimary.trans (givesUp_close pool.availablePrimaryConnection.toList rfl)

theorem givesUp_withoutNonPrimary (configuration : Configuration) :
    GivesUp env pool (pool.withoutNonPrimary env configuration) := by
  unfold withoutNonPrimary
  split
  · exact givesUp_close pool.availableNonPrimaryConnections rfl
  · exact .of_eq rfl

theorem givesUp_withoutAvailable (configuration : Configuration) :
    GivesUp env pool (pool.withoutAvailable env configuration) := by
  unfold withoutAvailable
  split
  · exact givesUp_closeAvailableConnections
  · exact .of_eq rfl

theorem givesUp_closeExcessConnectionsFrom (availableCount : Nat) :
    GivesUp env pool (closeExcessConnectionsFrom env availableCount pool) := by
  induction availableCount generalizing pool with
  | zero => exact .of_eq rfl
  | succ availableCount ih =>
      rw [closeExcessConnectionsFrom]
      split
      · refine GivesUp.trans ?_ ih
        exact givesUp_close pool.availableNonPrimaryConnections[availableCount]?.toList rfl
      · exact .of_eq rfl

theorem givesUp_reconfigureInPlace (configuration : Configuration) :
    GivesUp env pool (pool.reconfigureInPlace env configuration) := by
  unfold reconfigureInPlace closeExcessConnections
  have hsized : GivesUp env pool
      { pool with configuration := configuration }.setMaxConnectionPoolSizeLocked := .of_eq rfl
  generalize { pool with configuration := configuration }.setMaxConnectionPoolSizeLocked = sized
    at hsized ⊢
  have hexcess : GivesUp env sized
      (closeExcessConnectionsFrom env sized.availableNonPrimaryConnections.length sized) :=
    givesUp_closeExcessConnectionsFrom _
  exact hsized.trans (hexcess.trans (givesUp_close _ rfl))

theorem givesUp_of_reconfigured {configuration : Configuration} {wakes : Bool}
    (h : Reconfigured env configuration pool after wakes) : GivesUp env pool after := by
  have hbase : GivesUp env pool (pool.withoutNonPrimary env configuration) :=
    givesUp_withoutNonPrimary configuration
  have hclosed := hbase.trans (givesUp_withoutAvailable configuration)
  cases h with
  | failed => exact hclosed
  | reopened => exact hclosed.trans givesUp_closeAvailableConnections
  | inPlace => exact hbase.trans (givesUp_reconfigureInPlace configuration)

end Blocks

section Runs

variable {system before after : System}

def System.notClosed (system : System) : List Connection :=
  system.pool.unclosedConnections ++ system.leftOpen

theorem notClosed_of_givesUp {connection : Connection}
    (h : connection ∈ after.notClosed) (hgives : GivesUp env before.pool after.pool)
    (hleft : after.leftOpen = before.leftOpen) :
    connection ∈ before.notClosed ∨ env.closeThrows connection.connectionId = true := by
  simp only [System.notClosed, hleft, List.mem_append] at h ⊢
  rcases h with hgiven | hleftOpen
  · exact (hgives connection hgiven).imp_left .inl
  · exact .inl (.inr hleftOpen)

theorem notClosed_forget {connection other : Connection}
    (h : other ∈ (system.forget connection).notClosed) : other ∈ system.notClosed := by
  unfold System.forget at h
  split at h
  · exact h
  · exact (List.mem_append.mp h).elim (fun hgiven => List.mem_append_left _
      (List.mem_of_mem_erase hgiven)) (List.mem_append_right _)

theorem notClosed_finalize {connection other : Connection}
    (h : other ∈ (system.finalize env connection).notClosed) :
    other ∈ system.notClosed ∨ env.closeThrows other.connectionId = true := by
  have hforgotten : other ∈ (system.forget connection).notClosed → other ∈ system.notClosed :=
    notClosed_forget
  unfold System.finalize at h
  generalize system.forget connection = left at h hforgotten
  rcases hclose : env.closeThrows connection.connectionId with _ | _
  · simp only [hclose] at h
    exact .inl (hforgotten h)
  · simp only [hclose, if_true, System.notClosed, List.mem_append, List.mem_cons] at h
    rcases h with hgiven | rfl | hleftOpen
    · exact .inl (hforgotten (List.mem_append_left _ hgiven))
    · exact .inr hclose
    · exact .inl (hforgotten (List.mem_append_right _ hleftOpen))

theorem notClosed_step (event : Event) (hinv : PoolInv system.pool) {connection : Connection}
    (h : connection ∈ (system.step env event).1.notClosed) :
    connection ∈ system.notClosed ∨ env.closeThrows connection.connectionId = true := by
  cases event with
  | tick elapsed => exact .inl h
  | acquireConnection thread sql connectionFlags canceled =>
      obtain ⟨pool, answer, hrequested, hstep⟩ :=
        step_acquireConnection env system thread sql connectionFlags canceled
      rw [hstep] at h
      exact notClosed_of_givesUp h (givesUp_of_requested hrequested) rfl
  | poll object nonce =>
      rcases step_poll env system object nonce with
        hstep | ⟨waiter, first, others, -, -, -, ⟨-, hstep⟩ | ⟨-, -, hstep⟩⟩
      · rw [hstep] at h
        exact .inl h
      · rw [hstep] at h
        exact .inl h
      · rw [hstep] at h
        exact .inl h
  | cancel object nonce =>
      rcases step_cancel env system object nonce with
        hstep | ⟨waiter, first, others, -, hsplit, hstep⟩
      · rw [hstep] at h
        exact .inl h
      · rw [hstep] at h
        have hremoved : GivesUp env system.pool
            { system.pool with connectionWaiterQueue := first ++ others } := .of_eq rfl
        exact notClosed_of_givesUp h
          (hremoved.trans (givesUp_wakeConnectionWaiters (hinv.dequeue hsplit).unanswered)) rfl
  | releaseConnection released =>
      rcases step_releaseConnection env system released with
        ⟨hstep, -⟩ | ⟨first, entry, others, between, wakes, hacquired, -, hreturned, hstep⟩
      · rw [hstep] at h
        exact .inl h
      · rw [hstep] at h
        have htaken : GivesUp env system.pool
            { system.pool with acquiredConnections := first ++ others } := .of_eq rfl
        refine notClosed_of_givesUp h (htaken.trans ((givesUp_of_returned hreturned).trans
          (givesUp_wakeIf wakes ?_))) rfl
        rw [hreturned.sameWaiters.queue]
        exact hinv.unanswered
  | drop dropped => exact .inl h
  | collect collected => exact .inl h
  | finalize finalized => exact notClosed_finalize h
  | testLeaked =>
      simp only [System.step, System.testLeaked] at h
      split at h
      · exact .inl h
      · exact .inl h
  | wakeForLeak =>
      rcases step_wakeForLeak env system with hstep | ⟨pendingWakes, -, hstep⟩
      · rw [hstep] at h
        exact .inl h
      · rw [hstep] at h
        exact notClosed_of_givesUp h (givesUp_wakeConnectionWaiters hinv.unanswered) rfl
  | reconfigure configuration =>
      rcases step_reconfigure env system configuration with
        hstep | ⟨hopen, -, between, wakes, hreconfigured, hstep⟩
      · rw [hstep] at h
        exact .inl h
      · rw [hstep] at h
        refine notClosed_of_givesUp h ((givesUp_of_reconfigured hreconfigured).trans
          (givesUp_wakeIf wakes ?_)) rfl
        rw [hreconfigured.sameWaiters.queue]
        exact hinv.unanswered
  | close =>
      rcases step_close env system with hstep | ⟨hopen, hstep⟩
      · rw [hstep] at h
        exact .inl h
      · rw [hstep] at h
        have hclosed : GivesUp env system.pool
            ({ system.pool with isOpen := false }.closeAvailableConnections env) :=
          givesUp_closeAvailableConnections
        exact notClosed_of_givesUp h (hclosed.trans (givesUp_wakeIf true hinv.unanswered)) rfl

/-- A run in which the native library refuses to close no other connections than those of
`refused`. -/
inductive RunRefusing (refused : Nat → Prop) : System → System → Prop
  | refl {system : System} : RunRefusing refused system system
  | step {before system : System} (env : Environment) (event : Event) :
      RunRefusing refused before system → system.Allowed event →
      (∀ connectionId, env.closeThrows connectionId = true → refused connectionId) →
        RunRefusing refused before (system.step env event).1

variable {refused : Nat → Prop}

theorem RunRefusing.run (hrun : RunRefusing refused before after) : Run before after := by
  induction hrun with
  | refl => exact .refl
  | step env event _ hallowed _ ih => exact .step env event ih hallowed

theorem RunRefusing.head (env : Environment) (event : Event) (hallowed : before.Allowed event)
    (hrefused : ∀ connectionId, env.closeThrows connectionId = true → refused connectionId)
    (hrun : RunRefusing refused (before.step env event).1 after) :
    RunRefusing refused before after := by
  induction hrun with
  | refl => exact .step env event .refl hallowed hrefused
  | step env event _ hallowed hrefused ih => exact .step env event ih hallowed hrefused

theorem RunRefusing.perform {events : List Event} (hallowed : system.AllowedAll env events)
    (hrefused : ∀ connectionId, env.closeThrows connectionId = true → refused connectionId) :
    RunRefusing refused system (system.perform env events) := by
  induction events generalizing system with
  | nil => exact .refl
  | cons event events ih => exact .head env event hallowed.1 hrefused (ih hallowed.2)

theorem RunRefusing.notClosed (hbefore : Reachable before)
    (hrun : RunRefusing refused before after) {connection : Connection}
    (h : connection ∈ after.notClosed) :
    connection ∈ before.notClosed ∨ refused connection.connectionId := by
  induction hrun with
  | refl => exact .inl h
  | step env event hrun hallowed hrefused ih =>
      have hinv := (hbefore.run hrun.run).poolInv
      rcases notClosed_step event hinv h with hsystem | hthrows
      · exact ih hsystem
      · exact .inr (hrefused _ hthrows)

/-- Once the pool is closed and has got everything back, each connection that was ever open
has been closed once, or has been given up once because the native library refused to close
it. -/
theorem RunRefusing.closes_every_connection (hbefore : Reachable before)
    (hrun : RunRefusing refused before after) (hclosed : after.pool.isOpen = false)
    (hback : after.pool.acquiredConnections = []) (hcollected : after.collected = []) :
    (∀ connection ∈ before.lentOut ++ before.notLent ++ before.collected ++ before.notClosed,
      ((after.pool.closedConnections ++ after.notClosed).map Connection.connectionId).count
        connection.connectionId = 1) ∧
      ∀ connection ∈ after.notClosed,
        connection ∈ before.notClosed ∨ refused connection.connectionId := by
  refine ⟨fun connection hconnection => ?_, fun connection h => hrun.notClosed hbefore h⟩
  obtain ⟨hall, -, hnodup⟩ := hrun.run.conserves_connections hbefore
  have hsound := (hbefore.run hrun.run).poolInv.sound
  obtain ⟨hprimary, hnonPrimary, -⟩ := hsound.closed hclosed
  have hrest : after.ledger.all = ids (after.pool.closedConnections ++ after.notClosed) := by
    simp [System.ledger, ledger, Ledger.all, System.notClosed, hprimary, hnonPrimary, hback,
      hcollected, add_comm]
  rw [hrest] at hall hnodup
  have hlent : ids before.lentOut ≤ ids (before.pool.acquiredConnections.map Prod.fst) :=
    Multiset.map_le_map hbefore.accounted (f := Connection.connectionId)
  have hmem : connection.connectionId ∈ before.ledger.all := by
    have hid : connection.connectionId ∈
        ids (before.lentOut ++ before.notLent ++ before.collected ++ before.notClosed) :=
      List.mem_map_of_mem hconnection
    simp only [System.notLent, System.notClosed, ids_append, Multiset.mem_add] at hid
    simp only [System.ledger, ledger, Ledger.all, ids_append, Multiset.mem_add]
    have hacquired := fun hlentOut => Multiset.mem_of_le hlent (a := connection.connectionId)
      hlentOut
    tauto
  exact List.count_eq_one_of_mem (Multiset.coe_nodup.mp hnodup) (Multiset.mem_of_le hall hmem)

/-- The native library refuses to close the first connection. -/
def stubborn : Environment :=
  { faultless with closeThrows := fun connectionId => connectionId == 0 }

def bothLent : System :=
  (opened enableWriteAheadLogging).perform faultless
    [wanting 0 0, wanting 1 connectionFlagPrimaryConnectionAffinity]

/-- The pool is closed while two threads hold connections; the first one of these is refused
again when its finalizer closes it. -/
def finished : System :=
  bothLent.perform stubborn
    [.close, .releaseConnection ⟨1, false, sampleConfiguration enableWriteAheadLogging, false⟩,
      .releaseConnection ⟨0, true, sampleConfiguration enableWriteAheadLogging, false⟩,
      .finalize ⟨0, true, sampleConfiguration enableWriteAheadLogging, false⟩]

theorem finished_closes_every_connection :
    (∀ connection ∈
        bothLent.lentOut ++ bothLent.notLent ++ bothLent.collected ++ bothLent.notClosed,
      ((finished.pool.closedConnections ++ finished.notClosed).map
        Connection.connectionId).count connection.connectionId = 1) ∧
      ∀ connection ∈ finished.notClosed,
        connection ∈ bothLent.notClosed ∨ connection.connectionId = 0 :=
  have hbefore : Reachable bothLent :=
    (reachable_opened enableWriteAheadLogging).run (.perform faultless (by decide))
  have hrun : RunRefusing (fun connectionId => connectionId = 0) bothLent finished :=
    .perform (by decide) (by simp [stubborn])
  RunRefusing.closes_every_connection hbefore hrun rfl rfl rfl

end Runs

end LSTAndroid.PoolSystem
