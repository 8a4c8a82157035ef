import LSTAndroid.PoolTickets

namespace LSTAndroid.PoolSystem

open LSTAndroid.ConnectionPool
open LSTAndroid.ConnectionPool.Pool

variable {env : Environment} {pool : Pool} {system : System}

/-- A connection has been lost, and the waiters have not all been told yet. -/
def System.LeakPending (system : System) : Prop :=
  system.collected ≠ [] ∨ system.pool.connectionLeaked = true ∨ system.pendingWakes ≠ 0

/-- Higher priorities come first, and among equals the earlier request. -/
def Precedes (first second : ConnectionWaiter) : Prop :=
  second.priority < first.priority ∨
    second.priority = first.priority ∧ first.startTime ≤ second.startTime

structure QueueInv (system : System) : Prop where
  exhausted : system.pool.isOpen = true → ¬ system.LeakPending →
    system.pool.Exhausted system.pool.connectionWaiterQueue
  ordered : system.pool.connectionWaiterQueue.Pairwise Precedes
  started : ∀ waiter ∈ system.pool.connectionWaiterQueue, waiter.startTime ≤ system.now
  answered : system.pool.isOpen = true →
    ∀ waiter ∈ system.unparked ++ system.abandoned, ¬ waiter.Unanswered

section Waking

variable (hqueue : ∀ waiter ∈ pool.connectionWaiterQueue, waiter.Unanswered) (env : Environment)
include hqueue

theorem wakeIf_isOpen (wakes : Bool) : (wakeIf env pool wakes).1.isOpen = pool.isOpen := by
  cases wakes with
  | false => rfl
  | true =>
      rw [wakeIf]
      rcases hopen : pool.isOpen with _ | _
      · rw [wakeConnectionWaiters_closed hopen]
        exact hopen
      · rcases hwake : pool.wakeConnectionWaiters env with ⟨after, unparked⟩
        obtain ⟨last, hafter, hwoken⟩ := wakeConnectionWaiters_woken hopen hqueue hwake
        rw [hafter]
        exact hwoken.attempts.sameWaiters.isOpen.trans hopen

theorem sublist_wakeIf (wakes : Bool) :
    (wakeIf env pool wakes).1.connectionWaiterQueue.Sublist pool.connectionWaiterQueue := by
  cases wakes with
  | false => exact .refl _
  | true =>
      rw [wakeIf]
      rcases hopen : pool.isOpen with _ | _
      · rw [wakeConnectionWaiters_closed hopen]
        exact List.nil_sublist _
      · rcases hwake : pool.wakeConnectionWaiters env with ⟨after, unparked⟩
        obtain ⟨last, -, hwoken⟩ := wakeConnectionWaiters_woken hopen hqueue hwake
        exact hwoken.kept_sublist

theorem exhausted_wake (hopen : pool.isOpen = true) :
    (wakeIf env pool true).1.Exhausted (wakeIf env pool true).1.connectionWaiterQueue := by
  rw [wakeIf]
  rcases hwake : pool.wakeConnectionWaiters env with ⟨after, unparked⟩
  obtain ⟨last, hafter, hwoken⟩ := wakeConnectionWaiters_woken hopen hqueue hwake
  dsimp only
  generalize after.connectionWaiterQueue = kept at hafter hwoken
  rw [hafter]
  exact hwoken.exhausted

theorem answered_wakeIf (hopen : pool.isOpen = true) (wakes : Bool) :
    ∀ waiter ∈ (wakeIf env pool wakes).2, ¬ waiter.Unanswered := by
  cases wakes with
  | false => nofun
  | true =>
      rw [wakeIf]
      rcases hwake : pool.wakeConnectionWaiters env with ⟨after, unparked⟩
      obtain ⟨last, -, hwoken⟩ := wakeConnectionWaiters_woken hopen hqueue hwake
      exact hwoken.answered

end Waking

section Steps

variable {between : Pool}

theorem queueInv_wakeIf (wakes : Bool)
    (hqueue : ∀ waiter ∈ between.connectionWaiterQueue, waiter.Unanswered)
    (hordered : between.connectionWaiterQueue.Pairwise Precedes)
    (hstarted : ∀ waiter ∈ between.connectionWaiterQueue, waiter.startTime ≤ system.now)
    (hanswered : between.isOpen = true →
      ∀ waiter ∈ system.unparked ++ system.abandoned, ¬ waiter.Unanswered)
    (hskipped : wakes = false → between.isOpen = true →
      ¬ { system with pool := between }.LeakPending →
        between.Exhausted between.connectionWaiterQueue) :
    QueueInv (system.unpark (wakeIf env between wakes)) := by
  have hsublist := sublist_wakeIf hqueue env wakes
  have hopened := wakeIf_isOpen hqueue env wakes
  refine ⟨fun hopen hleak => ?_, hordered.sublist hsublist,
    fun waiter hwaiter => hstarted waiter (hsublist.subset hwaiter), fun hopen => ?_⟩
  · have hbetween : between.isOpen = true := hopened.symm.trans hopen
    cases wakes with
    | true => exact exhausted_wake hqueue env hbetween
    | false => exact hskipped rfl hbetween hleak
  · have hbetween : between.isOpen = true := hopened.symm.trans hopen
    intro waiter hwaiter
    rcases List.mem_append.mp hwaiter with hwaiter | hwaiter
    · rcases List.mem_append.mp hwaiter with hwaiter | hwaiter
      · exact hanswered hbetween waiter (List.mem_append_left _ hwaiter)
      · exact answered_wakeIf hqueue env hbetween wakes waiter hwaiter
    · exact hanswered hbetween waiter (List.mem_append_right _ hwaiter)

theorem mem_enqueue {waiter other : ConnectionWaiter} {queue : List ConnectionWaiter}
    (h : other ∈ enqueue waiter queue) : other = waiter ∨ other ∈ queue :=
  List.mem_cons.mp ((enqueue_perm waiter queue).subset h)

theorem pairwise_enqueue {waiter : ConnectionWaiter} {queue : List ConnectionWaiter}
    (hordered : queue.Pairwise Precedes)
    (hlatest : ∀ other ∈ queue, other.startTime ≤ waiter.startTime) :
    (enqueue waiter queue).Pairwise Precedes := by
  induction queue with
  | nil => exact List.pairwise_singleton _ _
  | cons successor successors ih =>
      obtain ⟨hfirst, hrest⟩ := List.pairwise_cons.mp hordered
      unfold enqueue
      split
      · rename_i hhigher
        refine List.pairwise_cons.mpr ⟨fun other hother => .inl ?_, hordered⟩
        rcases List.mem_cons.mp hother with rfl | hother
        · exact hhigher
        · have hbefore := hfirst other hother
          unfold Precedes at hbefore
          omega
      · rename_i hnot
        refine List.pairwise_cons.mpr ⟨fun other hother => ?_,
          ih hrest fun other hother => hlatest other (List.mem_cons_of_mem _ hother)⟩
        rcases mem_enqueue hother with rfl | hother
        · have hstart := hlatest successor List.mem_cons_self
          unfold Precedes
          omega
        · exact hfirst other hother

theorem exhausted_overflow {entry : Connection × AcquiredConnectionStatus}
    {before others : List (Connection × AcquiredConnectionStatus)}
    {queue : List ConnectionWaiter}
    (hacquired : pool.acquiredConnections = before ++ entry :: others)
    (hprimary : entry.1.isPrimaryConnection = false)
    (hfull : pool.maxConnectionPoolSize - 1 ≤ pool.availableNonPrimaryConnections.length)
    (h : pool.Exhausted queue) :
    { pool with acquiredConnections := before ++ others }.Exhausted queue := by
  intro waiter hwaiter
  obtain ⟨⟨havailable, lent, hlent, hkind⟩, hother⟩ := h waiter hwaiter
  have hmem : lent ∈ before ++ others := by
    rw [hacquired] at hlent
    rcases List.mem_append.mp hlent with hlent | hlent
    · exact List.mem_append_left _ hlent
    · rcases List.mem_cons.mp hlent with rfl | hlent
      · exact absurd (hkind.symm.trans hprimary) nofun
      · exact List.mem_append_right _ hlent
  refine ⟨⟨havailable, lent, hmem, hkind⟩, fun hwant => ?_⟩
  obtain ⟨hempty, -⟩ := hother hwant
  refine ⟨hempty, ?_⟩
  -- nothing is available, so at most one connection may be open, and the primary one is
  rw [hempty, List.length_nil] at hfull
  have hpos := List.length_pos_of_mem hmem
  simp only [openConnections]
  omega

theorem exhausted_of_pool {after : Pool} {queue : List ConnectionWaiter} (h : pool.Exhausted queue)
    (hacquired : after.acquiredConnections = pool.acquiredConnections)
    (havailable : after.availablePrimaryConnection = pool.availablePrimaryConnection)
    (hnonPrimary : after.availableNonPrimaryConnections = pool.availableNonPrimaryConnections)
    (hmax : after.maxConnectionPoolSize = pool.maxConnectionPoolSize) : after.Exhausted queue := by
  intro waiter hwaiter
  obtain ⟨hprimary, hother⟩ := h waiter hwaiter
  refine ⟨⟨havailable.trans hprimary.1, ?_⟩, fun hwant => ⟨hnonPrimary.trans (hother hwant).1, ?_⟩⟩
  · rw [hasAcquiredPrimary, hacquired]
    exact hprimary.2
  · rw [openConnections, hacquired, havailable, hmax]
    exact (hother hwant).2

theorem acquired_ne_nil_of_exhausted {waiter : ConnectionWaiter}
    {queue : List ConnectionWaiter} (h : pool.Exhausted queue) (hwaiter : waiter ∈ queue) :
    pool.acquiredConnections ≠ [] := by
  obtain ⟨⟨-, entry, hentry, -⟩, -⟩ := h waiter hwaiter
  exact List.ne_nil_of_mem hentry

/-- A primary connection that could not be opened leaves every waiter where it is. -/
theorem exhausted_failed {configuration : Configuration}
    (hlent : pool.walModeChanged configuration = true → pool.acquiredConnections = [])
    (h : pool.Exhausted pool.connectionWaiterQueue) :
    { (pool.withoutNonPrimary env configuration).withoutAvailable env configuration with
      nextConnectionId := pool.nextConnectionId + 1 }.Exhausted pool.connectionWaiterQueue := by
  rcases hchanged : pool.walModeChanged configuration with _ | _
  · have hfirst : pool.withoutNonPrimary env configuration = pool := by
      simp [withoutNonPrimary, hchanged]
    have hsecond : pool.withoutAvailable env configuration = pool := by
      simp [withoutAvailable, hchanged]
    rw [hfirst, hsecond]
    exact exhausted_of_pool h rfl rfl rfl rfl
  · intro waiter hwaiter
    exact absurd (hlent hchanged) (acquired_ne_nil_of_exhausted h hwaiter)

theorem connectionLeaked_withoutAvailable (configuration : Configuration) :
    ((pool.withoutNonPrimary env configuration).withoutAvailable env
        configuration).connectionLeaked =
      pool.connectionLeaked := by
  have hfirst : (pool.withoutNonPrimary env configuration).connectionLeaked =
      pool.connectionLeaked := by
    unfold withoutNonPrimary
    split <;> rfl
  rw [← hfirst]
  generalize pool.withoutNonPrimary env configuration = base
  unfold withoutAvailable
  split <;> rfl

theorem queueInv_step (event : Event) (hpool : PoolInv system.pool)
    (hinv : QueueInv system) : QueueInv (system.step env event).1 := by
  have hqueue := hpool.unanswered
  cases event with
  | tick elapsed =>
      exact ⟨hinv.exhausted, hinv.ordered,
        fun waiter hwaiter => Nat.le_add_right_of_le (hinv.started waiter hwaiter),
        hinv.answered⟩
  | acquireConnection thread sql connectionFlags canceled =>
      obtain ⟨pool, answer, hrequested, hstep⟩ :=
        step_acquireConnection env system thread sql connectionFlags canceled
      rw [hstep]
      have hattempted : ∀ {connections}, Attempts system.pool pool connections →
          QueueInv { system with pool := pool, held := newlyHeld answer ++ system.held } := by
        intro connections hattempts
        have hsame := hattempts.sameWaiters
        have hleaked : pool.connectionLeaked = system.pool.connectionLeaked := by
          rw [hattempts.frame]
        refine ⟨fun hopen hleak => ?_, ?_, ?_, fun hopen => ?_⟩
        · rw [System.LeakPending, hleaked] at hleak
          rw [hsame.queue]
          exact hattempts.exhausted (hinv.exhausted (hsame.isOpen.symm.trans hopen) hleak)
        · rw [hsame.queue]
          exact hinv.ordered
        · rw [hsame.queue]
          exact hinv.started
        · exact hinv.answered (hsame.isOpen.symm.trans hopen)
      cases hrequested with
      | closed => exact hattempted .refl
      | canceled => exact hattempted .refl
      | failed failure hopen hattempts => exact hattempted hattempts
      | served connection hopen hattempts => exact hattempted hattempts
      | waits waiter hopen hbusy hobtained hpriority hstart =>
          rw [hobtained.frame]
          refine ⟨fun _ hleak => ?_, ?_, fun other hother => ?_, fun _ => hinv.answered hopen⟩
          · have hbefore := hinv.exhausted hopen hleak
            have hboth : system.pool.Exhausted (enqueue waiter
                system.pool.connectionWaiterQueue) := by
              intro other hother
              rcases mem_enqueue hother with rfl | hother
              · exact hbusy other List.mem_cons_self
              · exact hbefore other hother
            exact exhausted_of_pool hboth rfl rfl rfl rfl
          · refine pairwise_enqueue hinv.ordered fun other hother => ?_
            rw [hstart]
            exact hinv.started other hother
          · rcases mem_enqueue hother with rfl | hother
            · exact Nat.le_of_eq hstart
            · exact hinv.started other hother
  | poll object nonce =>
      rcases step_poll env system object nonce with
        hstep | ⟨waiter, before, others, -, hsplit, -, hcases⟩
      · rw [hstep]
        exact hinv
      · have hsublist : (before ++ others).Sublist system.unparked := by
          rw [hsplit]
          exact List.Sublist.append_left (List.sublist_cons_self _ _) _
        rcases hcases with ⟨hclosed, hstep⟩ | ⟨-, -, hstep⟩
        · rw [hstep]
          exact ⟨hinv.exhausted, hinv.ordered, hinv.started,
            fun hopen => absurd (hopen.symm.trans hclosed) nofun⟩
        · rw [hstep]
          exact ⟨fun hopen hleak => exhausted_of_pool (hinv.exhausted hopen hleak) rfl rfl rfl rfl,
            hinv.ordered, hinv.started, fun hopen other hother =>
              hinv.answered hopen other ((hsublist.append_right _).subset hother)⟩
  | cancel object nonce =>
      rcases step_cancel env system object nonce with
        hstep | ⟨waiter, before, others, hticket, hsplit, hstep⟩
      · rw [hstep]
        exact hinv
      · rw [hstep]
        have hsublist : (before ++ others).Sublist system.pool.connectionWaiterQueue := by
          rw [hsplit]
          exact List.Sublist.append_left (List.sublist_cons_self _ _) _
        refine queueInv_wakeIf true (fun other hother => hqueue other (hsublist.subset hother))
          (hinv.ordered.sublist hsublist)
          (fun other hother => hinv.started other (hsublist.subset hother)) ?_
          (fun hnever => Bool.noConfusion hnever)
        intro hopen other hother
        rcases List.mem_append.mp hother with hother | hother
        · rcases List.mem_append.mp hother with hother | hother
          · exact hinv.answered hopen other (List.mem_append_left _ hother)
          · obtain rfl := List.mem_singleton.mp hother
            exact fun hnot => absurd hnot.2 (Option.some_ne_none _)
        · exact hinv.answered hopen other (List.mem_append_right _ hother)
  | releaseConnection connection =>
      rcases step_releaseConnection env system connection with
        ⟨hstep, -⟩ | ⟨before, entry, others, between, wakes, hacquired, hid, hreturned, hstep⟩
      · rw [hstep]
        exact hinv
      · rw [hstep]
        have hsame := hreturned.sameWaiters
        refine queueInv_wakeIf wakes ?_ ?_ ?_ ?_ ?_
        · rw [hsame.queue]
          exact hqueue
        · rw [hsame.queue]
          exact hinv.ordered
        · rw [hsame.queue]
          exact hinv.started
        · intro hopen
          exact hinv.answered (hsame.isOpen.symm.trans hopen)
        · intro hwakes hopen hleak
          cases hreturned with
          | closedPool hclosed => exact Bool.noConfusion (hopen.symm.trans hclosed)
          | overflow hopen hprimary hfull =>
              have hbefore := hinv.exhausted hopen hleak
              exact exhausted_of_pool (exhausted_overflow hacquired hprimary hfull hbefore)
                rfl rfl rfl rfl
          | retired => cases hwakes
          | primary => cases hwakes
          | nonPrimary => cases hwakes
  | drop connection => exact ⟨hinv.exhausted, hinv.ordered, hinv.started, hinv.answered⟩
  | collect connection =>
      exact ⟨fun _ hleak => absurd (.inl (List.cons_ne_nil _ _)) hleak, hinv.ordered,
        hinv.started, hinv.answered⟩
  | finalize connection =>
      obtain ⟨closed, unclosed, collected, leftOpen, hstep⟩ := step_finalize env system connection
      rw [hstep]
      exact ⟨fun _ hleak => absurd (.inr (.inl rfl)) hleak, hinv.ordered, hinv.started,
        hinv.answered⟩
  | testLeaked =>
      simp only [System.step, System.testLeaked]
      split
      · exact ⟨fun _ hleak => absurd (.inr (.inr (Nat.succ_ne_zero _))) hleak, hinv.ordered,
          hinv.started, hinv.answered⟩
      · exact hinv
  | wakeForLeak =>
      rcases step_wakeForLeak env system with hstep | ⟨pendingWakes, -, hstep⟩
      · rw [hstep]
        exact hinv
      · rw [hstep]
        exact queueInv_wakeIf true hqueue hinv.ordered hinv.started hinv.answered
          (fun hnever => Bool.noConfusion hnever)
  | reconfigure configuration =>
      rcases step_reconfigure env system configuration with
        hstep | ⟨hopen, hlent, between, wakes, hreconfigured, hstep⟩
      · rw [hstep]
        exact hinv
      · rw [hstep]
        have hsame := hreconfigured.sameWaiters
        refine queueInv_wakeIf wakes ?_ ?_ ?_ (fun _ => hinv.answered hopen) ?_
        · rw [hsame.queue]
          exact hqueue
        · rw [hsame.queue]
          exact hinv.ordered
        · rw [hsame.queue]
          exact hinv.started
        · intro hwakes hstill hleak
          rw [hsame.queue]
          cases hreconfigured with
          | failed =>
              simp only [System.LeakPending, connectionLeaked_withoutAvailable] at hleak
              exact exhausted_failed hlent (hinv.exhausted hopen hleak)
          | reopened => cases hwakes
          | inPlace => cases hwakes
  | close =>
      rcases step_close env system with hstep | ⟨hopen, hstep⟩
      · rw [hstep]
        exact hinv
      · rw [hstep]
        exact queueInv_wakeIf true hqueue hinv.ordered hinv.started
          (fun hnever => Bool.noConfusion hnever) (fun hnever => Bool.noConfusion hnever)

theorem Reachable.queueInv (h : Reachable system) : QueueInv system := by
  induction h with
  | opened hopen =>
      obtain rfl := open?_eq_some hopen
      refine ⟨fun _ _ => ?_, ?_, ?_, fun _ _ hmem => absurd hmem List.not_mem_nil⟩
      · simp [System.start, Exhausted]
      · simp [System.start]
      · simp [System.start]
  | step env event hbefore hallowed ih => exact queueInv_step event hbefore.poolInv ih

end Steps

section Waits

theorem offer_exhausted (env : Environment) {offers : Offers} {waiter : ConnectionWaiter}
    (hsound : offers.Sound)
    (h : offers.pool.Exhausted [waiter]) :
    (offer env offers waiter).2 = .ok none ∧
      (offer env offers waiter).1.pool = offers.pool ∧ (offer env offers waiter).1.Sound := by
  obtain ⟨hprimary, hnonPrimary⟩ := h waiter List.mem_cons_self
  have hfirst : (offerNonPrimary env offers waiter).2 = .ok none ∧
      (offerNonPrimary env offers waiter).1.pool = offers.pool := by
    unfold offerNonPrimary
    split
    · rename_i htried
      simp only [Bool.and_eq_true, Bool.not_eq_true'] at htried
      rcases hcall : offers.pool.tryAcquireNonPrimaryConnection env waiter.sql
        waiter.connectionFlags with ⟨after, answer⟩
      obtain ⟨hattempt, hnone⟩ := tryAcquireNonPrimaryConnection_attempt hcall
      obtain rfl := hnone.mpr (hnonPrimary htried.1)
      obtain rfl := hattempt.eq_of_none
      exact ⟨rfl, rfl⟩
    · exact ⟨rfl, rfl⟩
  have hsecond : ∀ between : Offers, between.pool = offers.pool →
      (offerPrimary env between waiter).2 = .ok none ∧
        (offerPrimary env between waiter).1.pool = offers.pool := by
    intro between hbetween
    unfold offerPrimary
    split
    · rcases hcall : between.pool.tryAcquirePrimaryConnection env waiter.connectionFlags with
        ⟨after, answer⟩
      obtain ⟨hattempt, hnone⟩ := tryAcquirePrimaryConnection_attempt hcall
      rw [hbetween] at hattempt hnone
      obtain rfl := hnone.mpr hprimary
      obtain rfl := hattempt.eq_of_none
      exact ⟨rfl, rfl⟩
    · exact ⟨rfl, hbetween⟩
  rcases hoffer : offer env offers waiter with ⟨after, answer⟩
  obtain ⟨-, hafter, -⟩ := offer_spec hsound hoffer
  unfold offer at hoffer
  rcases hcall : offerNonPrimary env offers waiter with ⟨between, first⟩
  rw [hcall] at hoffer hfirst
  obtain ⟨hanswer, hpool⟩ := hfirst
  obtain rfl : first = .ok none := hanswer
  obtain ⟨hlast, hlastPool⟩ := hsecond between hpool
  have hboth : offerPrimary env between waiter = (after, answer) := hoffer
  rw [hboth] at hlast hlastPool
  exact ⟨hlast, hlastPool, hafter⟩

theorem wakeWaiters_exhausted {offers : Offers} {queue : List ConnectionWaiter}
    (hopen : offers.pool.isOpen = true) (hsound : offers.Sound)
    (h : offers.pool.Exhausted queue) :
    wakeWaiters env queue offers = (queue, [], offers.pool) := by
  induction queue generalizing offers with
  | nil => rfl
  | cons waiter successors ih =>
      have hwaiter : offers.pool.Exhausted [waiter] := by
        intro other hother
        obtain rfl := List.mem_singleton.mp hother
        exact h other List.mem_cons_self
      obtain ⟨hanswer, hpool, hafter⟩ := offer_exhausted env hsound hwaiter
      rcases hoffer : offer env offers waiter with ⟨between, answer⟩
      rw [hoffer] at hanswer hpool hafter
      dsimp only at hanswer hpool hafter
      have hstill : between.pool.isOpen = true := by rwa [hpool]
      have hbusy : between.pool.Exhausted successors := by
        rw [hpool]
        exact fun other hother => h other (List.mem_cons_of_mem _ hother)
      have hrest := ih hstill hafter hbusy
      simp only [wakeWaiters, hopen, hoffer, hanswer, hrest, hpool, Bool.not_true,
        Bool.false_eq_true, if_false]
      split <;> rfl

/-- No wakeup is lost: unless a leak has yet to be told, one more wake would find nothing
to do, and every waiter waits for connections that are lent. -/
theorem Reachable.no_wakeup_lost (h : Reachable system) (hleak : ¬ system.LeakPending) :
    (∀ env, system.pool.wakeConnectionWaiters env = (system.pool, [])) ∧
      ∀ waiter ∈ system.pool.connectionWaiterQueue,
        (∃ entry ∈ system.pool.acquiredConnections, entry.1.isPrimaryConnection = true) ∧
        (waiter.wantPrimaryConnection = false →
          system.pool.maxConnectionPoolSize ≤ system.pool.acquiredConnections.length) := by
  rcases hopen : system.pool.isOpen with _ | _
  · have hempty := (h.poolInv.sound.closed hopen).2.2
    refine ⟨fun env => ?_, by simp [hempty]⟩
    rw [wakeConnectionWaiters_closed hopen, hempty]
    congr 1
    exact congrArg (fun queue => { system.pool with connectionWaiterQueue := queue }) hempty.symm
  · have hexhausted := h.queueInv.exhausted hopen hleak
    refine ⟨fun env => ?_, fun waiter hwaiter => ?_⟩
    · have hwake : wakeWaiters env system.pool.connectionWaiterQueue ⟨system.pool, false, false⟩ =
          (system.pool.connectionWaiterQueue, [], system.pool) :=
        wakeWaiters_exhausted hopen (.start _) hexhausted
      simp only [wakeConnectionWaiters, hwake]
    · obtain ⟨⟨havailable, hlent⟩, hother⟩ := hexhausted waiter hwaiter
      refine ⟨hlent, fun hwant => ?_⟩
      have hfull := (hother hwant).2
      simpa [openConnections, havailable] using hfull

theorem crowded_no_wakeup_lost :
    (∀ env, crowded.pool.wakeConnectionWaiters env = (crowded.pool, [])) ∧
      ∀ waiter ∈ crowded.pool.connectionWaiterQueue,
        (∃ entry ∈ crowded.pool.acquiredConnections, entry.1.isPrimaryConnection = true) ∧
        (waiter.wantPrimaryConnection = false →
          crowded.pool.maxConnectionPoolSize ≤ crowded.pool.acquiredConnections.length) :=
  reachable_crowded.no_wakeup_lost (by unfold System.LeakPending; decide)

theorem attempts_exhausted {after : Pool} {connections : List Connection}
    {waiter : ConnectionWaiter} (hattempts : Attempts pool after connections)
    (hopen : pool.isOpen = true) (hsound : Sound pool) (h : pool.Exhausted [waiter]) :
    ∀ connection ∈ connections,
      waiter.wantPrimaryConnection = true ∧ connection.isPrimaryConnection = false := by
  induction hattempts with
  | refl => nofun
  | @head pool middle after answer connections hattempt hrest ih =>
      have hmiddle : middle.Exhausted [waiter] := hattempt.attempts.exhausted h
      have hstill : middle.isOpen = true := hattempt.attempts.sameWaiters.isOpen.trans hopen
      have hlater := ih hstill (sound_of_attempt hattempt hopen hsound) hmiddle
      obtain ⟨⟨havailable, hlent⟩, hother⟩ := h waiter List.mem_cons_self
      have hwant : ∀ {P : Prop}, (waiter.wantPrimaryConnection = false → P) →
          (¬ P) → waiter.wantPrimaryConnection = true := by
        intro P hfalse hnot
        rcases hkind : waiter.wantPrimaryConnection with _ | _
        · exact absurd (hfalse hkind) hnot
        · rfl
      intro connection hconnection
      rcases List.mem_append.mp hconnection with hconnection | hconnection
      · cases hattempt with
        | primary connectionFlags hsome => exact absurd (hsome.symm.trans havailable) nofun
        | @nonPrimary available before others connectionFlags hsplit =>
            obtain rfl := List.mem_singleton.mp hconnection
            have hmem : available ∈ pool.availableNonPrimaryConnections := by simp [hsplit]
            refine ⟨hwant hother fun hbusy => ?_, (hsound.nonPrimary available hmem).1⟩
            rw [hbusy.1] at hmem
            cases hmem
        | @opened new connectionFlags hid hconfiguration hopened hfull =>
            obtain rfl := List.mem_singleton.mp hconnection
            rcases hkind : new.isPrimaryConnection with _ | _
            · exact ⟨hwant hother fun hbusy => Nat.not_le_of_lt (hfull hkind).2 hbusy.2, hkind⟩
            · exact absurd hlent (hopened hkind).2
        | failed => cases hconnection
        | nothing => cases hconnection
      · exact hlater connection hconnection

/-- A request that is served at once takes nothing that a waiter could use. -/
theorem Reachable.not_barged {thread : Nat} {sql : Option String} {connectionFlags : BitVec 32}
    {canceled : Bool} {connection : Connection} (h : Reachable system)
    (hleak : ¬ system.LeakPending)
    (hserved : (system.step env (.acquireConnection thread sql connectionFlags canceled)).2 =
      .connection connection) :
    ∀ waiter ∈ system.pool.connectionWaiterQueue,
      waiter.wantPrimaryConnection = true ∧ connection.isPrimaryConnection = false := by
  obtain ⟨pool, answer, hrequested, hstep⟩ :=
    step_acquireConnection env system thread sql connectionFlags canceled
  rw [hstep] at hserved
  intro waiter hwaiter
  cases hrequested with
  | served granted hopen hattempts =>
      obtain rfl : granted = connection := Reply.connection.inj hserved
      refine attempts_exhausted hattempts hopen h.poolInv.sound (fun other hother => ?_) granted
        List.mem_cons_self
      obtain rfl := List.mem_singleton.mp hother
      exact h.queueInv.exhausted hopen hleak other hwaiter
  | closed => cases hserved
  | canceled => cases hserved
  | failed => cases hserved
  | waits => cases hserved

/-- A thread has the primary connection, and another waits for it. -/
def primaryLent : System :=
  (opened enableWriteAheadLogging).perform faultless
    [wanting 0 connectionFlagPrimaryConnectionAffinity,
      wanting 1 connectionFlagPrimaryConnectionAffinity]

theorem reachable_primaryLent : Reachable primaryLent :=
  (reachable_opened enableWriteAheadLogging).run (.perform faultless (by decide))

theorem primaryLent_not_barged :
    (primaryLent.pool.connectionWaiterQueue.head (by decide)).wantPrimaryConnection = true ∧
      (⟨1, false, sampleConfiguration enableWriteAheadLogging, false⟩ :
        Connection).isPrimaryConnection = false := by
  have hserved : (primaryLent.step faultless (.acquireConnection 2 none 0 false)).2 =
      .connection ⟨1, false, sampleConfiguration enableWriteAheadLogging, false⟩ := by decide
  exact reachable_primaryLent.not_barged (by unfold System.LeakPending; decide) hserved _
    (List.head_mem _)

end Waits

end LSTAndroid.PoolSystem
