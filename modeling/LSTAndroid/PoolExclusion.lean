import LSTAndroid.PoolLedger

namespace LSTAndroid.PoolSystem

open LSTAndroid.Library.ResourceLedger LSTAndroid.Library.ResourceLedger.Ledger
open LSTAndroid.ConnectionPool
open LSTAndroid.ConnectionPool.Pool

variable {env : Environment} {pool : Pool} {system : System}

def acquired (pool : Pool) : Multiset Connection :=
  (pool.acquiredConnections.map Prod.fst : List Connection)

theorem acquired_of_attempts {after : Pool} {connections : List Connection}
    (h : Attempts pool after connections) :
    acquired after = (connections : Multiset Connection) + acquired pool := by
  induction h with
  | refl => simp
  | @head pool middle after answer connections hattempt _ ih =>
      have hone : acquired middle =
          (granted answer : Multiset Connection) + acquired pool := by
        cases hattempt <;> simp [acquired, granted]
      rw [ih, hone, ← Multiset.coe_add]
      abel

theorem acquired_markAcquiredConnections (status : AcquiredConnectionStatus) :
    acquired (pool.markAcquiredConnections status) = acquired pool := by
  simp only [acquired, markAcquiredConnections, List.map_map, Function.comp_def, markStatus_fst]

theorem acquired_wakeIf (env : Environment) (wakes : Bool)
    (hqueue : ∀ waiter ∈ pool.connectionWaiterQueue, waiter.Unanswered) :
    acquired (wakeIf env pool wakes).1 =
      ((wakeIf env pool wakes).2.filterMap ConnectionWaiter.assignedConnection :
        Multiset Connection) + acquired pool := by
  cases wakes with
  | false => simp [wakeIf]
  | true =>
      rw [wakeIf]
      rcases hopen : pool.isOpen with _ | _
      · have hnone : pool.connectionWaiterQueue.filterMap
            ConnectionWaiter.assignedConnection = [] := by
          simpa using fun waiter hwaiter => (hqueue waiter hwaiter).1
        rw [wakeConnectionWaiters_closed hopen, hnone]
        simp [acquired]
      · rcases hwake : pool.wakeConnectionWaiters env with ⟨after, unparked⟩
        obtain ⟨last, hafter, hwoken⟩ := wakeConnectionWaiters_woken hopen hqueue hwake
        have hlast := acquired_of_attempts hwoken.attempts
        rw [hafter]
        exact hlast

theorem acquired_closeExcessConnectionsFrom (availableCount : Nat) :
    acquired (closeExcessConnectionsFrom env availableCount pool) = acquired pool := by
  induction availableCount generalizing pool with
  | zero => rfl
  | succ availableCount ih =>
      rw [closeExcessConnectionsFrom]
      split
      · exact ih
      · rfl

theorem acquired_reconfigured {configuration : Configuration} {after : Pool} {wakes : Bool}
    (h : Reconfigured env configuration pool after wakes) : acquired after = acquired pool := by
  have hbase : acquired (pool.withoutNonPrimary env configuration) = acquired pool := by
    unfold withoutNonPrimary
    split <;> rfl
  have hclosed : acquired ((pool.withoutNonPrimary env configuration).withoutAvailable
      env configuration) = acquired pool := by
    rw [← hbase]
    generalize pool.withoutNonPrimary env configuration = base
    unfold withoutAvailable
    split <;> rfl
  cases h with
  | failed => exact hclosed
  | reopened =>
      rw [← hclosed]
      exact acquired_markAcquiredConnections _
  | inPlace hflags =>
      rw [← hbase]
      exact (acquired_markAcquiredConnections _).trans (acquired_closeExcessConnectionsFrom _)

def System.lentOut (system : System) : List Connection :=
  system.held ++ system.unparked.filterMap ConnectionWaiter.assignedConnection

/-- What has been lent is acquired in the pool, each connection once. -/
def System.Accounted (system : System) : Prop :=
  (system.lentOut : Multiset Connection) ≤ acquired system.pool

theorem accounted_unpark {between : Pool} (wakes : Bool)
    (hqueue : ∀ waiter ∈ between.connectionWaiterQueue, waiter.Unanswered)
    (h : (system.lentOut : Multiset Connection) ≤ acquired between) :
    (system.unpark (wakeIf env between wakes)).Accounted := by
  have hacquired := acquired_wakeIf env wakes hqueue
  unfold System.Accounted
  have hlent : ((system.unpark (wakeIf env between wakes)).lentOut : Multiset Connection) =
      ((wakeIf env between wakes).2.filterMap ConnectionWaiter.assignedConnection :
        Multiset Connection) + system.lentOut := by
    simp [System.lentOut, System.unpark, add_comm]
  rw [hlent]
  change _ ≤ acquired (wakeIf env between wakes).1
  rw [hacquired]
  exact Multiset.add_le_add_left h

theorem accounted_of_subset {after : System} (haccounted : system.Accounted)
    (hlent : after.lentOut.Subperm system.lentOut) (hacquired : acquired after.pool =
      acquired system.pool) : after.Accounted := by
  unfold System.Accounted
  rw [hacquired]
  exact le_trans (Multiset.coe_le.mpr hlent) haccounted

theorem acquired_of_removed {after : Pool} {entry : Connection × AcquiredConnectionStatus}
    {before others : List (Connection × AcquiredConnectionStatus)}
    (hacquired : pool.acquiredConnections = before ++ entry :: others)
    (hafter : after.acquiredConnections = before ++ others) :
    acquired after = (acquired pool).erase entry.1 := by
  have hperm : (pool.acquiredConnections.map Prod.fst).Perm
      (entry.1 :: after.acquiredConnections.map Prod.fst) := by
    rw [hacquired, hafter, List.map_append, List.map_append, List.map_cons]
    exact List.perm_middle
  rw [acquired, acquired, Multiset.coe_eq_coe.mpr hperm, Multiset.coe_erase, List.erase_cons_head]

theorem eq_of_connectionId {connection : Connection} {entry : Connection × AcquiredConnectionStatus}
    {before others : List (Connection × AcquiredConnectionStatus)}
    (hvalid : system.ledger.Valid) (hmem : connection ∈ acquired system.pool)
    (hacquired : system.pool.acquiredConnections = before ++ entry :: others)
    (hid : entry.1.connectionId = connection.connectionId) : entry.1 = connection := by
  have hnodup : ((system.pool.acquiredConnections.map Prod.fst).map
      Connection.connectionId).Nodup := by
    have hlent := hvalid.nodup_lent
    exact Multiset.coe_nodup.mp (Multiset.nodup_of_le (Multiset.le_add_right _ _) hlent)
  refine List.inj_on_of_nodup_map hnodup ?_ hmem hid
  rw [hacquired]
  simp

theorem accounted_step (event : Event) (hinv : PoolInv system.pool)
    (hvalid : system.ledger.Valid) (haccounted : system.Accounted)
    (hallowed : system.Allowed event) : (system.step env event).1.Accounted := by
  cases event with
  | tick elapsed => exact haccounted
  | acquireConnection thread sql connectionFlags canceled =>
      obtain ⟨pool, answer, hrequested, hstep⟩ :=
        step_acquireConnection env system thread sql connectionFlags canceled
      rw [hstep]
      have hacquired : acquired pool =
          (newlyHeld answer : Multiset Connection) + acquired system.pool := by
        cases hrequested with
        | closed => simp [newlyHeld]
        | canceled => simp [newlyHeld]
        | failed failure hopen hattempts => exact acquired_of_attempts hattempts
        | served connection hopen hattempts => exact acquired_of_attempts hattempts
        | waits waiter hopen hbusy hobtained =>
            rw [hobtained.frame]
            simp [newlyHeld, acquired]
      unfold System.Accounted System.lentOut
      rw [hacquired, List.append_assoc, ← Multiset.coe_add]
      exact Multiset.add_le_add_left haccounted
  | poll object nonce =>
      rcases step_poll env system object nonce with
        hstep | ⟨waiter, before, others, -, hsplit, -, ⟨-, hstep⟩ | ⟨-, -, hstep⟩⟩
      · rw [hstep]
        exact haccounted
      · rw [hstep]
        refine accounted_of_subset haccounted (List.Sublist.subperm ?_) rfl
        rw [System.lentOut, System.lentOut, hsplit]
        refine List.Sublist.append_left (List.Sublist.filterMap _ ?_) _
        exact List.Sublist.append_left (List.sublist_cons_self _ _) _
      · rw [hstep]
        refine accounted_of_subset haccounted (List.Perm.subperm ?_) rfl
        rw [System.lentOut, System.lentOut, hsplit]
        rcases hassigned : waiter.assignedConnection with _ | connection
        · simp [hassigned]
        · simp only [List.filterMap_append, List.filterMap_cons, hassigned, Option.toList_some]
          rw [← List.append_assoc, ← List.append_assoc]
          exact List.perm_middle.symm
  | cancel object nonce =>
      rcases step_cancel env system object nonce with
        hstep | ⟨waiter, before, others, -, hsplit, hstep⟩
      · rw [hstep]
        exact haccounted
      · rw [hstep]
        refine accounted_unpark true (hinv.dequeue hsplit).unanswered ?_
        have hwaiter : waiter.assignedConnection = none :=
          (hinv.unanswered waiter (by simp [hsplit])).1
        have hlent : system.lentOut = ({ system with
            unparked := system.unparked ++
              [{ waiter with exception := some .canceled }] } : System).lentOut := by
          simp [System.lentOut, hwaiter]
        rw [← hlent]
        exact haccounted
  | releaseConnection connection =>
      rcases step_releaseConnection env system connection with
        ⟨hstep, -⟩ | ⟨before, entry, others, between, wakes, hacquired, hid, hreturned, hstep⟩
      · rw [hstep]
        exact haccounted
      · rw [hstep]
        refine accounted_unpark wakes ?_ ?_
        · rw [hreturned.sameWaiters.queue]
          exact hinv.unanswered
        · have hheld : connection ∈ system.held := hallowed
          have hmem : connection ∈ acquired system.pool :=
            Multiset.mem_of_le haccounted (List.mem_append_left _ hheld)
          have hentry := eq_of_connectionId hvalid hmem hacquired hid
          rw [acquired_of_removed hacquired hreturned.acquired, hentry, System.lentOut,
            ← List.erase_append_left _ hheld, ← Multiset.coe_erase]
          exact Multiset.erase_le_erase connection haccounted
  | drop connection =>
      refine accounted_of_subset haccounted (List.Sublist.subperm ?_) rfl
      exact List.Sublist.append_right List.erase_sublist _
  | collect connection =>
      obtain ⟨hmem, hheld, hunparked⟩ := hallowed
      obtain ⟨before, entry, others, hacquired, hid, herase⟩ := exists_entry_of_mem hmem
      have hentry := eq_of_connectionId hvalid hmem hacquired hid
      have hlent : connection ∉ (system.lentOut : Multiset Connection) := by
        simpa [System.lentOut, hheld] using hunparked
      have hpool : acquired (system.step env (.collect connection)).1.pool =
          (acquired system.pool).erase entry.1 := acquired_of_removed hacquired herase
      unfold System.Accounted
      rw [hpool, hentry]
      have hle := Multiset.erase_le_erase connection haccounted
      rwa [Multiset.erase_of_notMem hlent] at hle
  | finalize connection =>
      obtain ⟨closed, unclosed, collected, leftOpen, hstep⟩ := step_finalize env system connection
      rw [hstep]
      exact haccounted
  | testLeaked =>
      simp only [System.step, System.testLeaked]
      split <;> exact haccounted
  | wakeForLeak =>
      rcases step_wakeForLeak env system with hstep | ⟨pendingWakes, -, hstep⟩
      · rw [hstep]
        exact haccounted
      · rw [hstep]
        exact accounted_unpark true hinv.unanswered haccounted
  | reconfigure configuration =>
      rcases step_reconfigure env system configuration with
        hstep | ⟨hopen, -, between, wakes, hreconfigured, hstep⟩
      · rw [hstep]
        exact haccounted
      · rw [hstep]
        refine accounted_unpark wakes ?_ ?_
        · rw [hreconfigured.sameWaiters.queue]
          exact hinv.unanswered
        · rw [acquired_reconfigured hreconfigured]
          exact haccounted
  | close =>
      rcases step_close env system with hstep | ⟨hopen, hstep⟩
      · rw [hstep]
        exact haccounted
      · rw [hstep]
        exact accounted_unpark true hinv.unanswered haccounted

theorem Reachable.accounted (h : Reachable system) : system.Accounted := by
  induction h with
  | opened hopen => exact Multiset.zero_le _
  | step env event hbefore hallowed ih =>
      exact accounted_step event hbefore.poolInv hbefore.valid ih hallowed

def System.notLent (system : System) : List Connection :=
  system.pool.availablePrimaryConnection.toList ++ system.pool.availableNonPrimaryConnections ++
    system.pool.closedConnections

theorem Reachable.lentOut_exclusive (h : Reachable system) :
    (system.lentOut.map Connection.connectionId).Nodup ∧
      ∀ connection ∈ system.lentOut,
        connection ∈ system.pool.acquiredConnections.map Prod.fst ∧
        ∀ other ∈ system.notLent, other.connectionId ≠ connection.connectionId := by
  have hvalid := h.valid
  have haccounted := h.accounted
  have hle : ids system.lentOut ≤ system.ledger.lent := by
    have hmap := Multiset.map_le_map haccounted (f := Connection.connectionId)
    exact le_trans hmap (Multiset.le_add_right _ _)
  refine ⟨Multiset.coe_nodup.mp (Multiset.nodup_of_le hle hvalid.nodup_lent), ?_⟩
  intro connection hconnection
  refine ⟨Multiset.mem_of_le haccounted hconnection, fun other hother hsame => ?_⟩
  have hlent : connection.connectionId ∈ system.ledger.lent :=
    Multiset.mem_of_le hle (List.mem_map_of_mem hconnection)
  obtain ⟨hidle, hretired⟩ := hvalid.not_idle_of_lent hlent
  rw [← hsame] at hidle hretired
  have hid : other.connectionId ∈ ids system.notLent := List.mem_map_of_mem hother
  rw [System.notLent, ids_append, ids_append, Multiset.mem_add] at hid
  rcases hid with hid | hid
  · exact hidle hid
  · exact hretired hid

theorem crowded_exclusive :
    (crowded.lentOut.map Connection.connectionId).Nodup ∧
      ∀ connection ∈ crowded.lentOut,
        connection ∈ crowded.pool.acquiredConnections.map Prod.fst ∧
        ∀ other ∈ crowded.notLent, other.connectionId ≠ connection.connectionId :=
  reachable_crowded.lentOut_exclusive

section Runs

variable {before after : System}

theorem Run.moves (hbefore : Reachable before) (hrun : Run before after) :
    Moves before.ledger after.ledger := by
  induction hrun with
  | refl => exact .refl
  | step env event hrun hallowed ih =>
      exact ih.trans (moves_step event (hbefore.run hrun).poolInv hallowed)

/-- A connection that is open now is later idle, lent, lost or closed, and only one of
these; and a connection that is closed stays closed and is closed once. -/
theorem Run.conserves_connections (hbefore : Reachable before) (hrun : Run before after) :
    before.ledger.all ≤ after.ledger.all ∧ before.ledger.retired ≤ after.ledger.retired ∧
      after.ledger.all.Nodup := by
  have hmoves := hrun.moves hbefore
  exact ⟨hmoves.all_le, hmoves.retired_le, (hmoves.valid hbefore.valid).nodup⟩

theorem opened_conserves_connections :
    (opened 0).ledger.all ≤ ((opened 0).perform faultless [wanting 0 0, .close]).ledger.all ∧
      (opened 0).ledger.retired ≤
        ((opened 0).perform faultless [wanting 0 0, .close]).ledger.retired ∧
      ((opened 0).perform faultless [wanting 0 0, .close]).ledger.all.Nodup :=
  Run.conserves_connections (reachable_opened 0) (.perform faultless (by decide))

end Runs

end LSTAndroid.PoolSystem
