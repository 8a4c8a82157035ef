import LSTAndroid.PoolExclusion
import LSTAndroid.PoolWaiters

namespace LSTAndroid.PoolSystem

open LSTAndroid.ConnectionPool
open LSTAndroid.ConnectionPool.Pool

variable {env : Environment} {pool : Pool} {system : System}

section Overtaking

variable {kept unparked queue : List ConnectionWaiter} {first second waiter : ConnectionWaiter}
variable {connection : Connection}

theorem notMem_of_pair {ticket other : Nat × BitVec 32}
    {rest : List (Nat × BitVec 32)}
    (hnodup : (ticket :: rest).Nodup) (horder : [other, ticket].Sublist rest) : False :=
  (List.nodup_cons.mp hnodup).1 (horder.subset (by simp))

/-- In the loop over the waiters, the one that stays wants a primary connection, and
those behind it get others. -/
theorem wakeWaiters_in_order {offers : Offers} (hopen : offers.pool.isOpen = true)
    (hoffers : offers.Sound) (hsound : Sound offers.pool)
    (hqueue : ∀ waiter ∈ queue, waiter.Unanswered)
    (hnodup : (queue.map ConnectionWaiter.ticket).Nodup)
    (h : wakeWaiters env queue offers = (kept, unparked, pool))
    (hfirst : first ∈ kept) (hsecond : second ∈ unparked)
    (hconnection : second.assignedConnection = some connection)
    (horder : [first.ticket, second.ticket].Sublist (queue.map ConnectionWaiter.ticket)) :
    first.wantPrimaryConnection = true ∧ connection.isPrimaryConnection = false := by
  induction queue generalizing offers kept unparked pool with
  | nil =>
      simp only [wakeWaiters, Prod.mk.injEq] at h
      obtain ⟨rfl, -, -⟩ := h
      cases hfirst
  | cons waiter successors ih =>
      have hwaiter := hqueue waiter List.mem_cons_self
      have hsuccessors := fun other hother => hqueue other (List.mem_cons_of_mem _ hother)
      rcases hoffer : offer env offers waiter with ⟨between, answer⟩
      obtain ⟨hattempts, hbetween, hnone⟩ := offer_spec hoffers hoffer
      have hstill := hattempts.sameWaiters.isOpen.trans hopen
      have hkeeps := sound_of_attempts hattempts hopen hsound
      rcases hrest : wakeWaiters env successors between with ⟨rest, others, last⟩
      have hwoken := wakeWaiters_woken hstill hbetween hsuccessors hrest
      have hlater : first ∈ rest → second ∈ others →
          first.wantPrimaryConnection = true ∧ connection.isPrimaryConnection = false := by
        intro hmem hother
        refine ih hstill hbetween hkeeps hsuccessors (List.nodup_cons.mp hnodup).2 hrest hmem hother
          (horder.of_cons_of_ne fun hsame => (List.nodup_cons.mp hnodup).1 ?_)
        rw [← hsame]
        exact List.mem_map_of_mem (hwoken.kept_sublist.subset hmem)
      have hpast : ∀ {other : ConnectionWaiter}, first ∈ rest → other.ticket = waiter.ticket →
          ¬ [first.ticket, other.ticket].Sublist
            ((waiter :: successors).map ConnectionWaiter.ticket) := by
        intro other hmem hticket hpair
        rw [hticket] at hpair
        refine notMem_of_pair hnodup
          (hpair.of_cons_of_ne fun hsame => (List.nodup_cons.mp hnodup).1 ?_)
        rw [← hsame]
        exact List.mem_map_of_mem (hwoken.kept_sublist.subset hmem)
      simp only [wakeWaiters, hopen, Bool.not_true, Bool.false_eq_true, if_false, hoffer] at h
      rcases answer with failure | _ | granted
      · simp only [hrest, Prod.mk.injEq] at h
        obtain ⟨rfl, rfl, rfl⟩ := h
        rcases List.mem_cons.mp hsecond with rfl | hsecond
        · exact absurd horder (hpast hfirst rfl)
        · exact hlater hfirst hsecond
      · obtain ⟨hprimary, hnonPrimary⟩ := hnone rfl
        by_cases hbreak : (between.nonPrimaryConnectionNotAvailable &&
            between.primaryConnectionNotAvailable) = true
        · simp only [hbreak, if_true, Prod.mk.injEq] at h
          obtain ⟨-, rfl, -⟩ := h
          cases hsecond
        · simp only [hbreak, hrest, Bool.false_eq_true, if_false, Prod.mk.injEq] at h
          obtain ⟨rfl, rfl, rfl⟩ := h
          rcases List.mem_cons.mp hfirst with rfl | hfirst
          · have hbusy : between.pool.Exhausted [first] := by
              intro other hother
              obtain rfl := List.mem_singleton.mp hother
              exact ⟨hbetween.primary hprimary,
                fun hwant => hbetween.nonPrimary (hnonPrimary hwant)⟩
            exact attempts_exhausted hwoken.attempts hstill hkeeps hbusy connection
              (List.mem_filterMap.mpr ⟨second, hsecond, hconnection⟩)
          · exact hlater hfirst hsecond
      · simp only [hrest, Prod.mk.injEq] at h
        obtain ⟨rfl, rfl, rfl⟩ := h
        rcases List.mem_cons.mp hsecond with rfl | hsecond
        · exact absurd horder (hpast hfirst rfl)
        · exact hlater hfirst hsecond

theorem wakeIf_in_order {between : Pool} (wakes : Bool)
    (hsound : between.isOpen = true → Sound between)
    (hqueue : ∀ waiter ∈ between.connectionWaiterQueue, waiter.Unanswered)
    (hnodup : (between.connectionWaiterQueue.map ConnectionWaiter.ticket).Nodup)
    (hfirst : first ∈ (wakeIf env between wakes).1.connectionWaiterQueue)
    (hsecond : second ∈ (wakeIf env between wakes).2)
    (hconnection : second.assignedConnection = some connection)
    (horder : [first.ticket, second.ticket].Sublist
      (between.connectionWaiterQueue.map ConnectionWaiter.ticket)) :
    first.wantPrimaryConnection = true ∧ connection.isPrimaryConnection = false := by
  cases wakes with
  | false => cases hsecond
  | true =>
      rw [wakeIf] at hfirst hsecond
      rcases hopen : between.isOpen with _ | _
      · rw [wakeConnectionWaiters_closed hopen] at hfirst
        cases hfirst
      · rcases hwake : wakeWaiters env between.connectionWaiterQueue ⟨between, false, false⟩ with
          ⟨kept, unparked, last⟩
        simp only [wakeConnectionWaiters, hwake] at hfirst hsecond
        exact wakeWaiters_in_order hopen (.start between) (hsound hopen) hqueue hnodup hwake hfirst
          hsecond hconnection horder

theorem queue_nodup (h : Reachable system) :
    (system.pool.connectionWaiterQueue.map ConnectionWaiter.ticket).Nodup :=
  Multiset.coe_nodup.mp (Multiset.nodup_of_le (Multiset.le_add_right _ _) h.waiting_nodup)

theorem notMem_unparked (h : Reachable system)
    (hsecond : second ∈ system.pool.connectionWaiterQueue) (hwaiter : waiter ∈ system.unparked) :
    waiter.ticket ≠ second.ticket := by
  intro hsame
  have hdisjoint := (Multiset.nodup_add.mp h.waiting_nodup).2.2
  refine Multiset.disjoint_left.mp hdisjoint (List.mem_map_of_mem hsecond) ?_
  rw [← hsame]
  exact List.mem_map_of_mem hwaiter

/-- A wake after which an earlier waiter stays gives a later one nothing that the earlier
one could use. -/
theorem not_overtaken_wakeIf {between : Pool} (wakes : Bool) (h : Reachable system)
    (hsound : between.isOpen = true → Sound between)
    (hqueue : between.connectionWaiterQueue = system.pool.connectionWaiterQueue)
    (horder : [first, second].Sublist system.pool.connectionWaiterQueue)
    (hfirst : first ∈ (wakeIf env between wakes).1.connectionWaiterQueue)
    (hwaiter : waiter ∈ system.unparked ++ (wakeIf env between wakes).2)
    (hticket : waiter.ticket = second.ticket)
    (hconnection : waiter.assignedConnection = some connection) :
    first.wantPrimaryConnection = true ∧ connection.isPrimaryConnection = false := by
  rcases List.mem_append.mp hwaiter with hwaiter | hwaiter
  · exact absurd hticket (notMem_unparked h (horder.subset (by simp)) hwaiter)
  · refine wakeIf_in_order wakes hsound ?_ ?_ hfirst hwaiter hconnection ?_
    · rw [hqueue]
      exact h.poolInv.unanswered
    · rw [hqueue]
      exact queue_nodup h
    · rw [hqueue, hticket]
      exact horder.map ConnectionWaiter.ticket

theorem sublist_of_dequeued {queue before others : List ConnectionWaiter}
    {canceled : ConnectionWaiter} (hsplit : queue = before ++ canceled :: others)
    (hnot : ∀ other ∈ before ++ others, other.ticket ≠ canceled.ticket)
    (horder : [first, second].Sublist queue) (hfirst : first.ticket ≠ canceled.ticket)
    (hsecond : second.ticket ≠ canceled.ticket) :
    [first.ticket, second.ticket].Sublist ((before ++ others).map ConnectionWaiter.ticket) := by
  have herase : (queue.map ConnectionWaiter.ticket).erase canceled.ticket =
      (before ++ others).map ConnectionWaiter.ticket := by
    rw [hsplit, List.map_append, List.map_cons, List.erase_append_right, List.erase_cons_head,
      List.map_append]
    intro hmem
    obtain ⟨other, hother, hsame⟩ := List.mem_map.mp hmem
    exact hnot other (List.mem_append_left _ hother) hsame
  have hpair := (horder.map ConnectionWaiter.ticket).erase canceled.ticket
  rw [herase] at hpair
  simpa [List.erase_cons, hfirst, hsecond] using hpair

section Events

variable (h : Reachable system)
  (horder : [first, second].Sublist system.pool.connectionWaiterQueue)
  (hticket : waiter.ticket = second.ticket)
  (hconnection : waiter.assignedConnection = some connection)
include h horder hticket

theorem notMem_unparked_of_order : waiter ∉ system.unparked := fun hmem =>
  notMem_unparked h (horder.subset (by simp)) hmem hticket

theorem notMem_unparked_poll (env : Environment) (object : Nat) (nonce : BitVec 32) :
    waiter ∉ (system.step env (.poll object nonce)).1.unparked := by
  have hnone := notMem_unparked_of_order h horder hticket
  rcases step_poll env system object nonce with
    hstep | ⟨told, before, others, -, hsplit, -, hcases⟩
  · rw [hstep]
    exact hnone
  · have hsublist : (before ++ others).Sublist system.unparked := by
      rw [hsplit]
      exact List.Sublist.append_left (List.sublist_cons_self _ _) _
    rcases hcases with ⟨-, hstep⟩ | ⟨-, -, hstep⟩
    · rw [hstep]
      exact fun hmem => hnone (hsublist.subset hmem)
    · rw [hstep]
      exact fun hmem => hnone (hsublist.subset hmem)

include hconnection

theorem not_overtaken_cancel (object : Nat) (nonce : BitVec 32)
    (hfirst : first ∈ (system.step env (.cancel object nonce)).1.pool.connectionWaiterQueue)
    (hwaiter : waiter ∈ (system.step env (.cancel object nonce)).1.unparked) :
    first.wantPrimaryConnection = true ∧ connection.isPrimaryConnection = false := by
  have hinv := h.poolInv
  have hnone := notMem_unparked_of_order h horder hticket
  rcases step_cancel env system object nonce with
    hstep | ⟨canceled, before, others, -, hsplit, hstep⟩
  · rw [hstep] at hwaiter
    exact absurd hwaiter hnone
  rw [hstep] at hwaiter hfirst
  have hbetween := hinv.dequeue hsplit
  have hnodup := queue_nodup h
  rw [hsplit, List.map_append, List.map_cons] at hnodup
  have hothers := hnodup.sublist (List.Sublist.append_left (List.sublist_cons_self _ _) _)
  rw [← List.map_append] at hothers
  have hnot : ∀ other ∈ before ++ others, other.ticket ≠ canceled.ticket := by
    intro other hother hsame
    have hperm := (List.perm_middle.nodup_iff.mp hnodup)
    refine (List.nodup_cons.mp hperm).1 ?_
    rw [← hsame, ← List.map_append]
    exact List.mem_map_of_mem hother
  rcases List.mem_append.mp hwaiter with hwaiter | hwaiter
  · rcases List.mem_append.mp hwaiter with hwaiter | hwaiter
    · exact absurd hwaiter hnone
    · -- the canceled waiter has no connection
      obtain rfl := List.mem_singleton.mp hwaiter
      have hcanceled := (hinv.unanswered canceled (by simp [hsplit])).1
      cases hcanceled.symm.trans hconnection
  · have hkept : first ∈ before ++ others :=
      (sublist_wakeIf hbetween.unanswered env true).subset hfirst
    have hgranted : waiter.ticket ∈ (before ++ others).map ConnectionWaiter.ticket := by
      have htickets := tickets_wakeIf env true hbetween.unanswered
      rw [← Multiset.mem_coe]
      refine Multiset.mem_of_le (le_of_le_of_eq (Multiset.le_add_left _ _) htickets) ?_
      exact List.mem_map_of_mem hwaiter
    obtain ⟨other, hother, hsame⟩ := List.mem_map.mp hgranted
    refine wakeIf_in_order true (fun _ => hbetween.sound) hbetween.unanswered hothers hfirst
      hwaiter hconnection ?_
    rw [hticket]
    refine sublist_of_dequeued hsplit hnot horder (hnot first hkept) ?_
    rw [← hticket, ← hsame]
    exact hnot other hother

theorem not_overtaken_releaseConnection (released : Connection)
    (hfirst : first ∈ (system.step env (.releaseConnection released)).1.pool.connectionWaiterQueue)
    (hwaiter : waiter ∈ (system.step env (.releaseConnection released)).1.unparked) :
    first.wantPrimaryConnection = true ∧ connection.isPrimaryConnection = false := by
  rcases step_releaseConnection env system released with
    ⟨hstep, -⟩ | ⟨before, entry, others, between, wakes, hacquired, hid, hreturned, hstep⟩
  · rw [hstep] at hwaiter
    exact absurd hwaiter (notMem_unparked_of_order h horder hticket)
  · rw [hstep] at hwaiter hfirst
    exact not_overtaken_wakeIf wakes h
      (fun _ => sound_of_returned h.poolInv.sound hacquired hreturned)
      hreturned.sameWaiters.queue horder hfirst hwaiter hticket hconnection

theorem not_overtaken_wakeForLeak
    (hfirst : first ∈ (system.step env .wakeForLeak).1.pool.connectionWaiterQueue)
    (hwaiter : waiter ∈ (system.step env .wakeForLeak).1.unparked) :
    first.wantPrimaryConnection = true ∧ connection.isPrimaryConnection = false := by
  rcases step_wakeForLeak env system with hstep | ⟨pendingWakes, -, hstep⟩
  · rw [hstep] at hwaiter
    exact absurd hwaiter (notMem_unparked_of_order h horder hticket)
  · rw [hstep] at hwaiter hfirst
    exact not_overtaken_wakeIf true h (fun _ => h.poolInv.sound) rfl horder hfirst hwaiter hticket
      hconnection

theorem not_overtaken_reconfigure (configuration : Configuration)
    (hfirst : first ∈ (system.step env (.reconfigure configuration)).1.pool.connectionWaiterQueue)
    (hwaiter : waiter ∈ (system.step env (.reconfigure configuration)).1.unparked) :
    first.wantPrimaryConnection = true ∧ connection.isPrimaryConnection = false := by
  rcases step_reconfigure env system configuration with
    hstep | ⟨hopen, -, between, wakes, hreconfigured, hstep⟩
  · rw [hstep] at hwaiter
    exact absurd hwaiter (notMem_unparked_of_order h horder hticket)
  · rw [hstep] at hwaiter hfirst
    exact not_overtaken_wakeIf wakes h
      (fun _ => sound_of_reconfigured hopen h.poolInv.sound hreconfigured)
      hreconfigured.sameWaiters.queue horder hfirst hwaiter hticket hconnection

theorem not_overtaken_close
    (hfirst : first ∈ (system.step env .close).1.pool.connectionWaiterQueue)
    (hwaiter : waiter ∈ (system.step env .close).1.unparked) :
    first.wantPrimaryConnection = true ∧ connection.isPrimaryConnection = false := by
  rcases step_close env system with hstep | ⟨hopen, hstep⟩
  · rw [hstep] at hwaiter
    exact absurd hwaiter (notMem_unparked_of_order h horder hticket)
  · rw [hstep] at hwaiter hfirst
    refine not_overtaken_wakeIf true h ?_ ?_ horder hfirst hwaiter hticket hconnection
    · exact fun hopened => Bool.noConfusion hopened
    · rfl

end Events

/-- No step gives a waiter a connection that an earlier waiter, who stays, could use. -/
theorem Reachable.not_overtaken (h : Reachable system) (event : Event)
    (hallowed : system.Allowed event)
    (horder : [first, second].Sublist system.pool.connectionWaiterQueue)
    (hfirst : first ∈ (system.step env event).1.pool.connectionWaiterQueue)
    (hwaiter : waiter ∈ (system.step env event).1.unparked)
    (hticket : waiter.ticket = second.ticket)
    (hconnection : waiter.assignedConnection = some connection) :
    first.wantPrimaryConnection = true ∧ connection.isPrimaryConnection = false := by
  have hnone := notMem_unparked_of_order h horder hticket
  cases event with
  | tick elapsed => exact absurd hwaiter hnone
  | acquireConnection thread sql connectionFlags canceled =>
      obtain ⟨pool, answer, hrequested, hstep⟩ :=
        step_acquireConnection env system thread sql connectionFlags canceled
      rw [hstep] at hwaiter
      exact absurd hwaiter hnone
  | poll object nonce =>
      exact absurd hwaiter (notMem_unparked_poll h horder hticket env object nonce)
  | cancel object nonce =>
      exact not_overtaken_cancel h horder hticket hconnection object nonce hfirst hwaiter
  | releaseConnection released =>
      exact not_overtaken_releaseConnection h horder hticket hconnection released hfirst hwaiter
  | drop connection => exact absurd hwaiter hnone
  | collect connection => exact absurd hwaiter hnone
  | finalize connection =>
      obtain ⟨closed, unclosed, collected, leftOpen, hstep⟩ := step_finalize env system connection
      rw [hstep] at hwaiter
      exact absurd hwaiter hnone
  | testLeaked =>
      simp only [System.step, System.testLeaked] at hwaiter
      split at hwaiter
      · exact absurd hwaiter hnone
      · exact absurd hwaiter hnone
  | wakeForLeak => exact not_overtaken_wakeForLeak h horder hticket hconnection hfirst hwaiter
  | reconfigure configuration =>
      exact not_overtaken_reconfigure h horder hticket hconnection configuration hfirst hwaiter
  | close => exact not_overtaken_close h horder hticket hconnection hfirst hwaiter

/-- A connection that comes back goes past the thread that waits for the primary one. -/
theorem crowded_not_overtaken :
    ∃ first second waiter : ConnectionWaiter, ∃ connection : Connection,
      [first, second].Sublist crowded.pool.connectionWaiterQueue ∧
      waiter.ticket = second.ticket ∧ waiter.assignedConnection = some connection ∧
      first.wantPrimaryConnection = true ∧ connection.isPrimaryConnection = false := by
  let lent : Connection := ⟨1, false, sampleConfiguration enableWriteAheadLogging, false⟩
  let first : ConnectionWaiter := ⟨0, 0, 2, 0, 0, true, none, 2, none, none⟩
  let second : ConnectionWaiter := ⟨1, 0, 3, 0, 0, false, none, 0, none, none⟩
  let served : ConnectionWaiter := { second with assignedConnection := some lent }
  have horder : [first, second].Sublist crowded.pool.connectionWaiterQueue := by decide
  have hfirst : first ∈ (crowded.step faultless
      (.releaseConnection lent)).1.pool.connectionWaiterQueue := by decide
  have hserved : served ∈ (crowded.step faultless (.releaseConnection lent)).1.unparked := by
    decide
  have hboth := reachable_crowded.not_overtaken (.releaseConnection lent) (by decide) horder
    hfirst hserved rfl rfl
  exact ⟨first, second, served, lent, horder, rfl, rfl, hboth⟩

end Overtaking

section Yielding

variable {connection : Connection} {connectionFlags : BitVec 32}

theorem isBlockingImportantWaiters_eq_true {holdingPrimaryConnection : Bool} {priority : Nat}
    {queue : List ConnectionWaiter} (hordered : queue.Pairwise Precedes) :
    isBlockingImportantWaiters holdingPrimaryConnection priority queue = true ↔
      ∃ waiter ∈ queue, priority ≤ waiter.priority ∧
        (holdingPrimaryConnection = true ∨ waiter.wantPrimaryConnection = false) := by
  induction queue with
  | nil => simp [isBlockingImportantWaiters]
  | cons waiter successors ih =>
      obtain ⟨hfirst, hrest⟩ := List.pairwise_cons.mp hordered
      unfold isBlockingImportantWaiters
      split
      · -- the scan stops here, and all waiters behind have lower priorities too
        rename_i hlower
        refine iff_of_false Bool.false_ne_true ?_
        rintro ⟨other, hother, hpriority, -⟩
        rcases List.mem_cons.mp hother with rfl | hother
        · exact Nat.not_le_of_lt hlower hpriority
        · have hprecedes := hfirst other hother
          unfold Precedes at hprecedes
          omega
      · rename_i hpriority
        split
        · rename_i husable
          refine iff_of_true rfl ⟨waiter, List.mem_cons_self, Nat.le_of_not_lt hpriority, ?_⟩
          simpa using husable
        · rename_i husable
          rw [ih hrest]
          simp only [Bool.or_eq_true, Bool.not_eq_true', not_or] at husable
          constructor
          · rintro ⟨other, hother, hrest⟩
            exact ⟨other, List.mem_cons_of_mem _ hother, hrest⟩
          · rintro ⟨other, hother, hrest⟩
            rcases List.mem_cons.mp hother with rfl | hother
            · exact absurd hrest.2 (not_or.mpr husable)
            · exact ⟨other, hother, hrest⟩

/-- The pool asks a thread to yield exactly if some waiter of its priority or a higher one
could use what it holds. -/
theorem Reachable.shouldYieldConnection_iff (h : Reachable system)
    (hheld : connection ∈ system.held) :
    system.pool.shouldYieldConnection connection connectionFlags = .ok true ↔
      ∃ waiter ∈ system.pool.connectionWaiterQueue,
        getPriority connectionFlags ≤ waiter.priority ∧
        (connection.isPrimaryConnection = true ∨ waiter.wantPrimaryConnection = false) := by
  have hacquired : connection ∈ system.pool.acquiredConnections.map Prod.fst :=
    Multiset.mem_of_le h.accounted (List.mem_append_left _ hheld)
  have hany : (system.pool.acquiredConnections.any fun entry =>
      entry.1.connectionId == connection.connectionId) = true := by
    obtain ⟨entry, hentry, rfl⟩ := List.mem_map.mp hacquired
    exact List.any_eq_true.mpr ⟨entry, hentry, by simp⟩
  rw [← isBlockingImportantWaiters_eq_true h.queueInv.ordered]
  simp only [shouldYieldConnection, hany, Bool.not_true, Bool.false_eq_true, if_false]
  rcases hopen : system.pool.isOpen with _ | _
  · have hempty := (h.poolInv.sound.closed hopen).2.2
    simp [hempty, isBlockingImportantWaiters]
  · simp

theorem crowded_shouldYieldConnection :
    crowded.pool.shouldYieldConnection
        ⟨0, true, sampleConfiguration enableWriteAheadLogging, false⟩ 0 = .ok true ↔
      ∃ waiter ∈ crowded.pool.connectionWaiterQueue, getPriority 0 ≤ waiter.priority ∧
        ((⟨0, true, sampleConfiguration enableWriteAheadLogging, false⟩ :
          Connection).isPrimaryConnection = true ∨ waiter.wantPrimaryConnection = false) :=
  reachable_crowded.shouldYieldConnection_iff (by decide)

theorem eq_of_attempts_nil {after : Pool} {connections : List Connection}
    (h : Attempts pool after connections) (hnone : connections = []) :
    after = { pool with nextConnectionId := after.nextConnectionId } := by
  induction h with
  | refl => rfl
  | @head pool middle after answer connections hattempt _ ih =>
      obtain ⟨hgranted, hrest⟩ := List.append_eq_nil_iff.mp hnone
      have hafter := ih hrest
      cases hattempt with
      | failed => exact hafter
      | nothing => exact hafter
      | primary => cases hgranted
      | nonPrimary => cases hgranted
      | opened => cases hgranted

theorem exhausted_of_unparked_eq_nil {between : Pool} (hopen : between.isOpen = true)
    (hqueue : ∀ waiter ∈ between.connectionWaiterQueue, waiter.Unanswered)
    (h : (wakeIf env between true).2 = []) : between.Exhausted between.connectionWaiterQueue := by
  rw [wakeIf] at h
  rcases hwake : between.wakeConnectionWaiters env with ⟨after, unparked⟩
  rw [hwake] at h
  obtain rfl : unparked = [] := h
  obtain ⟨last, -, hwoken⟩ := wakeConnectionWaiters_woken hopen hqueue hwake
  have hlength : after.connectionWaiterQueue.length = between.connectionWaiterQueue.length := by
    simpa using hwoken.tickets.length_eq
  have hexhausted := hwoken.exhausted
  rw [hwoken.kept_sublist.eq_of_length hlength] at hexhausted
  have hlast := eq_of_attempts_nil hwoken.attempts rfl
  rw [hlast] at hexhausted
  exact exhausted_of_pool hexhausted rfl rfl rfl rfl

theorem entry_of_normal {entry : Connection × AcquiredConnectionStatus}
    (h : Reachable system) (hnormal : (connection, .normal) ∈ system.pool.acquiredConnections)
    (hentry : entry ∈ system.pool.acquiredConnections)
    (hid : entry.1.connectionId = connection.connectionId) : entry = (connection, .normal) := by
  have hnodup : (system.pool.acquiredConnections.map
      fun entry => entry.1.connectionId).Nodup := by
    have hlent := Multiset.nodup_of_le (Multiset.le_add_right _ _) h.valid.nodup_lent
    have hids := Multiset.coe_nodup.mp hlent
    rwa [List.map_map] at hids
  exact List.inj_on_of_nodup_map hnodup hentry hnormal hid

/-- Giving back a connection that somebody waits for serves a waiter at once. -/
theorem Reachable.releaseConnection_serves (h : Reachable system)
    (hleak : ¬ system.LeakPending)
    (hnormal : (connection, .normal) ∈ system.pool.acquiredConnections)
    (hroom : connection.isPrimaryConnection = false → 2 ≤ system.pool.maxConnectionPoolSize)
    (hyield : system.pool.shouldYieldConnection connection connectionFlags = .ok true) :
    system.unparked.length <
      (system.step env (.releaseConnection connection)).1.unparked.length := by
  have hinv := h.poolInv
  obtain ⟨hopen, waiter, hwaiter, husable⟩ : system.pool.isOpen = true ∧
      ∃ waiter ∈ system.pool.connectionWaiterQueue,
        connection.isPrimaryConnection = true ∨ waiter.wantPrimaryConnection = false := by
    unfold shouldYieldConnection at hyield
    split at hyield
    · cases hyield
    · split at hyield
      · cases hyield
      · rename_i hopen
        obtain ⟨waiter, hwaiter, -, husable⟩ :=
          (isBlockingImportantWaiters_eq_true h.queueInv.ordered).mp (Except.ok.inj hyield)
        exact ⟨by simpa using hopen, waiter, hwaiter, husable⟩
  obtain ⟨hprimaryBusy, hnonPrimaryBusy⟩ := h.queueInv.exhausted hopen hleak waiter hwaiter
  rcases step_releaseConnection env system connection with
    ⟨-, hnone⟩ | ⟨before, entry, others, between, wakes, hacquired, hid, hreturned, hstep⟩
  · exact absurd rfl (hnone _ hnormal)
  obtain rfl := entry_of_normal h hnormal (by simp [hacquired]) hid
  rw [hstep]
  have hsame := hreturned.sameWaiters
  suffices hserved : wakes = true ∧ (wakeIf env between true).2 ≠ [] by
    obtain ⟨rfl, hne⟩ := hserved
    have hpos := List.length_pos_iff.mpr hne
    simp only [System.unpark, List.length_append]
    omega
  have hwaits : between.isOpen = true → (wakeIf env between true).2 = [] →
      between.Exhausted system.pool.connectionWaiterQueue := by
    intro hstill hnil
    have hexhausted := exhausted_of_unparked_eq_nil hstill (by rw [hsame.queue]; exact
      hinv.unanswered) hnil
    rw [hsame.queue] at hexhausted
    exact hexhausted
  cases hreturned with
  | closedPool hclosed => exact Bool.noConfusion (hopen.symm.trans hclosed)
  | retired hstill hstatus => exact absurd rfl hstatus
  | overflow hstill hkind hfull =>
      have hwant := husable.resolve_left fun hprimary =>
        Bool.noConfusion (hkind.symm.trans hprimary)
      have hempty := (hnonPrimaryBusy hwant).1
      have hlength : system.pool.availableNonPrimaryConnections.length = 0 := by rw [hempty]; rfl
      have htwo := hroom hkind
      dsimp only at hfull
      omega
  | primary same hstill hkind hsame =>
      refine ⟨rfl, fun hnil => ?_⟩
      exact absurd (hwaits hstill hnil waiter hwaiter).1.1 (Option.some_ne_none _)
  | nonPrimary same hstill hkind hspace hsame =>
      refine ⟨rfl, fun hnil => ?_⟩
      have hwant := husable.resolve_left fun hprimary =>
        Bool.noConfusion (hkind.symm.trans hprimary)
      have hempty := ((hwaits hstill hnil waiter hwaiter).2 hwant).1
      simp at hempty

theorem crowded_releaseConnection_serves :
    crowded.unparked.length < (crowded.step faultless (.releaseConnection
      ⟨0, true, sampleConfiguration enableWriteAheadLogging, false⟩)).1.unparked.length := by
  have hyield : crowded.pool.shouldYieldConnection
      ⟨0, true, sampleConfiguration enableWriteAheadLogging, false⟩ 0 = .ok true := by decide
  exact reachable_crowded.releaseConnection_serves (by unfold System.LeakPending; decide)
    (by decide) (by decide) hyield

end Yielding

section Canceling

end Canceling

end LSTAndroid.PoolSystem
