import LSTAndroid.Library.StampedObjects
import LSTAndroid.PoolSafety
import Mathlib.Algebra.Order.Group.Multiset
import Mathlib.Tactic.Abel

namespace LSTAndroid.PoolSystem

open LSTAndroid.Library.StampedObjects LSTAndroid.Library.StampedObjects.Stamps
open LSTAndroid.ConnectionPool
open LSTAndroid.ConnectionPool.Pool

variable {env : Environment} {pool : Pool} {system : System}

def tickets (waiters : List ConnectionWaiter) : Multiset (Nat × BitVec 32) :=
  (waiters.map ConnectionWaiter.ticket : List (Nat × BitVec 32))

@[simp] theorem tickets_append (first second : List ConnectionWaiter) :
    tickets (first ++ second) = tickets first + tickets second := by
  simp [tickets]

theorem tickets_split {waiter : ConnectionWaiter} {before others : List ConnectionWaiter} :
    tickets (before ++ waiter :: others) = waiter.ticket ::ₘ tickets (before ++ others) := by
  simp [tickets]

/-- The requests whose threads have not been told anything yet. -/
def System.waiting (system : System) : Multiset (Nat × BitVec 32) :=
  tickets system.pool.connectionWaiterQueue + tickets system.unparked

def System.stamps (system : System) : Stamps 32 where
  objects := system.pool.connectionWaiterObjects
  given := system.recycled
  current := system.waiting + (tickets system.abandoned +
    (system.pool.connectionWaiterPool : List (Nat × BitVec 32)))

theorem tickets_wakeIf (env : Environment) (wakes : Bool)
    (hqueue : ∀ waiter ∈ pool.connectionWaiterQueue, waiter.Unanswered) :
    tickets (wakeIf env pool wakes).1.connectionWaiterQueue +
      tickets (wakeIf env pool wakes).2 = tickets pool.connectionWaiterQueue := by
  cases wakes with
  | false => simp [wakeIf, tickets]
  | true =>
      rw [wakeIf]
      rcases hopen : pool.isOpen with _ | _
      · rw [wakeConnectionWaiters_closed hopen]
        simp [tickets]
      · rcases hwake : pool.wakeConnectionWaiters env with ⟨after, unparked⟩
        obtain ⟨last, -, hwoken⟩ := wakeConnectionWaiters_woken hopen hqueue hwake
        rw [← tickets_append]
        exact Multiset.coe_eq_coe.mpr hwoken.tickets

theorem wakeIf_frame (env : Environment) (wakes : Bool)
    (hqueue : ∀ waiter ∈ pool.connectionWaiterQueue, waiter.Unanswered) :
    (wakeIf env pool wakes).1.connectionWaiterPool = pool.connectionWaiterPool ∧
      (wakeIf env pool wakes).1.connectionWaiterObjects = pool.connectionWaiterObjects := by
  cases wakes with
  | false => exact ⟨rfl, rfl⟩
  | true =>
      rw [wakeIf]
      rcases hopen : pool.isOpen with _ | _
      · rw [wakeConnectionWaiters_closed hopen]
        exact ⟨rfl, rfl⟩
      · rcases hwake : pool.wakeConnectionWaiters env with ⟨after, unparked⟩
        obtain ⟨last, hafter, hwoken⟩ := wakeConnectionWaiters_woken hopen hqueue hwake
        have hsame := hwoken.attempts.sameWaiters
        rw [hafter]
        exact ⟨hsame.pooled, hsame.objects⟩

theorem unpark_wakeIf (env : Environment) (system : System) {between : Pool} (wakes : Bool)
    (hqueue : ∀ waiter ∈ between.connectionWaiterQueue, waiter.Unanswered) :
    (system.unpark (wakeIf env between wakes)).waiting =
        tickets between.connectionWaiterQueue + tickets system.unparked ∧
      (system.unpark (wakeIf env between wakes)).stamps =
        ⟨between.connectionWaiterObjects, system.recycled,
          tickets between.connectionWaiterQueue + tickets system.unparked +
            (tickets system.abandoned +
              (between.connectionWaiterPool : List (Nat × BitVec 32)))⟩ := by
  have htickets := tickets_wakeIf env wakes hqueue
  obtain ⟨hpooled, hobjects⟩ := wakeIf_frame env wakes hqueue
  have hwaiting : (system.unpark (wakeIf env between wakes)).waiting =
      tickets between.connectionWaiterQueue + tickets system.unparked := by
    rw [← htickets]
    simp only [System.waiting, System.unpark, tickets_append]
    abel
  refine ⟨hwaiting, ?_⟩
  rw [System.stamps, hwaiting]
  simp only [System.unpark, hpooled, hobjects]

/-- What an event does to the requests: none changes, one is new, or one is told, and its
waiter is recycled or, in a closed pool, abandoned. -/
inductive Served (before : System) : Event → System × Reply → Prop
  | same {event : Event} {after : System} {reply : Reply} :
      after.waiting = before.waiting → after.abandoned = before.abandoned →
      after.stamps = before.stamps →
      (∀ object nonce, event = .poll object nonce → reply = .nothing) →
        Served before event (after, reply)
  | waits {event : Event} {after : System} (waiter : ConnectionWaiter) :
      after.waiting = waiter.ticket ::ₘ before.waiting → after.abandoned = before.abandoned →
      Changes before.stamps after.stamps →
      (∀ object nonce, event ≠ .poll object nonce) →
        Served before event (after, .waiting waiter)
  | recycled {after : System} {reply : Reply} {object objects given : Nat}
      {nonce : BitVec 32} {current : Multiset (Nat × BitVec 32)} :
      before.pool.isOpen = true → before.waiting = (object, nonce) ::ₘ after.waiting →
      after.abandoned = before.abandoned →
      before.stamps = ⟨objects, given, (object, nonce) ::ₘ current⟩ →
      after.stamps = ⟨objects, given + 1, (object, nonce + 1) ::ₘ current⟩ → reply ≠ .nothing →
        Served before (.poll object nonce) (after, reply)
  | abandoned {after : System} {reply : Reply} (waiter : ConnectionWaiter) {object : Nat}
      {nonce : BitVec 32} :
      before.pool.isOpen = false → waiter ∈ before.unparked → waiter.ticket = (object, nonce) →
      before.waiting = (object, nonce) ::ₘ after.waiting →
      after.abandoned = waiter :: before.abandoned → after.stamps = before.stamps →
      reply ≠ .nothing →
        Served before (.poll object nonce) (after, reply)

theorem served_of_wakeIf {event : Event} {reply : Reply} {between : Pool} {before : System}
    (wakes : Bool) (hqueue : ∀ waiter ∈ between.connectionWaiterQueue, waiter.Unanswered)
    (hsame : between.connectionWaiterQueue = before.pool.connectionWaiterQueue)
    (hpooled : between.connectionWaiterPool = before.pool.connectionWaiterPool)
    (hobjects : between.connectionWaiterObjects = before.pool.connectionWaiterObjects)
    (hunparked : system.unparked = before.unparked)
    (habandoned : system.abandoned = before.abandoned)
    (hrecycled : system.recycled = before.recycled)
    (hevent : ∀ object nonce, event ≠ .poll object nonce) :
    Served before event (system.unpark (wakeIf env between wakes), reply) := by
  obtain ⟨hwaiting, hstamps⟩ := unpark_wakeIf env system wakes hqueue
  rw [hsame, hunparked] at hwaiting hstamps
  rw [hpooled, hobjects, habandoned, hrecycled] at hstamps
  exact .same hwaiting habandoned hstamps fun object nonce hpoll =>
    absurd hpoll (hevent object nonce)

theorem served_request {now : Nat} {event : Event} {connectionFlags : BitVec 32} {after : System}
    {answer : Except PoolException (Connection ⊕ ConnectionWaiter)}
    (h : Requested now connectionFlags system.pool after.pool answer)
    (hunparked : after.unparked = system.unparked)
    (habandoned : after.abandoned = system.abandoned)
    (hrecycled : after.recycled = system.recycled)
    (hevent : ∀ object nonce, event ≠ .poll object nonce) :
    Served system event (after, replyTo answer) := by
  have hsame : SameWaiters system.pool after.pool → Served system event (after, replyTo answer) :=
    fun hsame => by
      have hwaiting : after.waiting = system.waiting := by
        rw [System.waiting, hsame.queue, hunparked, System.waiting]
      refine .same hwaiting habandoned ?_ fun object nonce hpoll =>
        absurd hpoll (hevent object nonce)
      rw [System.stamps, System.stamps, hwaiting, hsame.pooled, hsame.objects, habandoned,
        hrecycled]
  rcases after with ⟨pool, time, unparked, abandoned, recycled, held, collected, leftOpen,
    pendingWakes⟩
  dsimp only at h hunparked habandoned hrecycled hsame
  cases h with
  | closed => exact hsame (.refl _)
  | canceled => exact hsame (.refl _)
  | failed failure hopen hattempts => exact hsame hattempts.sameWaiters
  | served connection hopen hattempts => exact hsame hattempts.sameWaiters
  | @waits obtained waiter hopen hbusy hobtained =>
      have hqueue : obtained.connectionWaiterQueue = system.pool.connectionWaiterQueue := by
        rw [hobtained.frame]
      have henqueue : tickets (enqueue waiter obtained.connectionWaiterQueue) =
          waiter.ticket ::ₘ tickets system.pool.connectionWaiterQueue := by
        rw [hqueue]
        exact Multiset.coe_eq_coe.mpr ((enqueue_perm _ _).map _)
      subst hunparked habandoned hrecycled
      refine .waits waiter ?_ rfl ?_ hevent
      · simp only [System.waiting, henqueue, Multiset.cons_add]
      · simp only [System.stamps, System.waiting, henqueue, Multiset.cons_add]
        rcases hobtained.ticket with ⟨hpooled, hobjects⟩ | ⟨hempty, hnone, hticket, hobjects⟩
        · rw [hpooled, hobjects, ← Multiset.cons_coe, Multiset.add_cons, Multiset.add_cons]
        · rw [hempty, hnone, hticket, hobjects]
          exact .single .create

theorem served_step (env : Environment) (event : Event) (hinv : PoolInv system.pool) :
    Served system event (system.step env event) := by
  have hlost : ∀ {after : System} {reply : Reply}, (after.waiting = system.waiting) →
      after.abandoned = system.abandoned → after.recycled = system.recycled →
      after.pool.connectionWaiterPool = system.pool.connectionWaiterPool →
      after.pool.connectionWaiterObjects = system.pool.connectionWaiterObjects →
      (∀ object nonce, event = .poll object nonce → reply = .nothing) →
        Served system event (after, reply) := by
    intro after reply hwaiting habandoned hrecycled hpooled hobjects hreply
    refine .same hwaiting habandoned ?_ hreply
    rw [System.stamps, System.stamps, hwaiting, hpooled, hobjects, habandoned, hrecycled]
  rcases hstep : system.step env event with ⟨after, reply⟩
  have hafter : (system.step env event).1 = after := by rw [hstep]
  have hanswer : (system.step env event).2 = reply := by rw [hstep]
  cases event with
  | tick elapsed =>
      obtain ⟨rfl, rfl⟩ := Prod.mk.inj hstep
      exact hlost rfl rfl rfl rfl rfl nofun
  | acquireConnection thread sql connectionFlags canceled =>
      obtain ⟨pool, answer, hrequested, hrequest⟩ :=
        step_acquireConnection env system thread sql connectionFlags canceled
      rw [← hstep, hrequest]
      exact served_request hrequested rfl rfl rfl nofun
  | poll object nonce =>
      rcases step_poll env system object nonce with
        hpoll | ⟨waiter, before, others, hticket, hsplit, htold, hcases⟩
      · obtain ⟨rfl, rfl⟩ := Prod.mk.inj (hstep.symm.trans hpoll)
        exact hlost rfl rfl rfl rfl rfl fun _ _ _ => rfl
      rw [hanswer] at htold
      have hwaiting : system.waiting = (object, nonce) ::ₘ
          { system with unparked := before ++ others }.waiting := by
        simp only [System.waiting, hsplit, tickets_split, hticket, Multiset.add_cons]
      rcases hcases with ⟨hclosed, hpoll⟩ | ⟨hopen, -, hpoll⟩
      · obtain rfl := hafter.symm.trans hpoll
        have hmem : waiter ∈ system.unparked := by simp [hsplit]
        refine .abandoned waiter hclosed hmem hticket hwaiting rfl ?_ htold
        have hcons : tickets (waiter :: system.abandoned) =
            (object, nonce) ::ₘ tickets system.abandoned := by
          simp [tickets, ← hticket]
        simp only [System.stamps, hwaiting, hcons, Multiset.cons_add, Multiset.add_cons]
        rfl
      · obtain rfl := hafter.symm.trans hpoll
        have hstamps : system.stamps = ⟨system.pool.connectionWaiterObjects, system.recycled,
            (object, nonce) ::ₘ ({ system with unparked := before ++ others }.waiting +
              (tickets system.abandoned +
                (system.pool.connectionWaiterPool : List (Nat × BitVec 32))))⟩ := by
          rw [System.stamps, hwaiting, Multiset.cons_add]
        refine .recycled hopen hwaiting rfl hstamps ?_ htold
        obtain ⟨rfl, rfl⟩ := Prod.mk.inj hticket
        simp only [System.stamps, System.waiting, recycleConnectionWaiter, ← Multiset.cons_coe,
          Multiset.add_cons]
  | cancel object nonce =>
      rcases step_cancel env system object nonce with
        hcancel | ⟨waiter, before, others, hticket, hsplit, hcancel⟩
      · obtain rfl := hafter.symm.trans hcancel
        exact hlost rfl rfl rfl rfl rfl nofun
      · obtain rfl := hafter.symm.trans hcancel
        have hqueue := (hinv.dequeue hsplit).unanswered
        obtain ⟨hwaiting, -⟩ := unpark_wakeIf env { system with
          unparked := system.unparked ++ [{ waiter with exception := some .canceled }] }
          true hqueue
        obtain ⟨hpooled, hobjects⟩ := wakeIf_frame env true hqueue
        refine hlost (hwaiting.trans ?_) rfl rfl hpooled hobjects nofun
        have hcanceled : tickets (system.unparked ++ [{ waiter with
            exception := some .canceled }]) = tickets system.unparked + {waiter.ticket} := by
          rw [tickets_append]
          rfl
        dsimp only
        rw [System.waiting, hcanceled, hsplit, tickets_split, ← Multiset.singleton_add]
        abel
  | releaseConnection connection =>
      rcases step_releaseConnection env system connection with
        ⟨hrelease, -⟩ | ⟨before, entry, others, between, wakes, hacquired, hid, hreturned,
          hrelease⟩
      · obtain rfl := hafter.symm.trans hrelease
        exact hlost rfl rfl rfl rfl rfl nofun
      · obtain rfl := hafter.symm.trans hrelease
        have hremoved : SameWaiters system.pool
            { system.pool with acquiredConnections := before ++ others } := ⟨rfl, rfl, rfl, rfl⟩
        have hsame := hremoved.trans hreturned.sameWaiters
        refine served_of_wakeIf wakes ?_ hsame.queue hsame.pooled hsame.objects rfl rfl rfl nofun
        rw [hsame.queue]
        exact hinv.unanswered
  | drop connection =>
      obtain ⟨rfl, rfl⟩ := Prod.mk.inj hstep
      exact hlost rfl rfl rfl rfl rfl nofun
  | collect connection =>
      obtain ⟨rfl, rfl⟩ := Prod.mk.inj hstep
      exact hlost rfl rfl rfl rfl rfl nofun
  | finalize connection =>
      obtain ⟨closed, unclosed, collected, leftOpen, hfinalize⟩ :=
        step_finalize env system connection
      obtain rfl := hafter.symm.trans hfinalize
      exact hlost rfl rfl rfl rfl rfl nofun
  | testLeaked =>
      obtain ⟨rfl, rfl⟩ := Prod.mk.inj hstep
      unfold System.testLeaked
      split <;> exact hlost rfl rfl rfl rfl rfl nofun
  | wakeForLeak =>
      rcases step_wakeForLeak env system with hwake | ⟨pendingWakes, -, hwake⟩
      · obtain rfl := hafter.symm.trans hwake
        exact hlost rfl rfl rfl rfl rfl nofun
      · obtain rfl := hafter.symm.trans hwake
        exact served_of_wakeIf true hinv.unanswered rfl rfl rfl rfl rfl rfl nofun
  | reconfigure configuration =>
      rcases step_reconfigure env system configuration with
        hreconfigure | ⟨hopen, -, between, wakes, hreconfigured, hreconfigure⟩
      · obtain rfl := hafter.symm.trans hreconfigure
        exact hlost rfl rfl rfl rfl rfl nofun
      · obtain rfl := hafter.symm.trans hreconfigure
        have hsame := hreconfigured.sameWaiters
        refine served_of_wakeIf wakes ?_ hsame.queue hsame.pooled hsame.objects rfl rfl rfl nofun
        rw [hsame.queue]
        exact hinv.unanswered
  | close =>
      rcases step_close env system with hclose | ⟨hopen, hclose⟩
      · obtain rfl := hafter.symm.trans hclose
        exact hlost rfl rfl rfl rfl rfl nofun
      · obtain rfl := hafter.symm.trans hclose
        exact served_of_wakeIf true hinv.unanswered rfl rfl rfl rfl rfl rfl nofun

theorem Served.changes {event : Event} {answer : System × Reply}
    (h : Served system event answer) : Changes system.stamps answer.1.stamps := by
  cases h with
  | same hwaiting habandoned hstamps => exact hstamps ▸ .refl
  | waits waiter hwaiting habandoned hchanges => exact hchanges
  | recycled hopen hwaiting habandoned hbefore hafter =>
      rw [hbefore, hafter]
      exact .single .restamp
  | abandoned waiter hclosed hmem hticket hwaiting habandoned hstamps => exact hstamps ▸ .refl

theorem Reachable.stamps_valid (h : Reachable system) : system.stamps.Valid := by
  induction h with
  | opened hopen =>
      obtain rfl := open?_eq_some hopen
      exact ⟨by simp [System.stamps, System.waiting, System.start, tickets],
        by simp [System.stamps, System.waiting, System.start, tickets]⟩
  | step env event hbefore hallowed ih =>
      exact (served_step env event hbefore.poolInv).changes.valid ih

theorem Reachable.known_nodup (h : Reachable system) :
    (system.waiting + tickets system.abandoned).Nodup := by
  have hnodup := Multiset.Nodup.of_map _ h.stamps_valid.nodup
  refine Multiset.nodup_of_le ?_ hnodup
  rw [System.stamps, ← add_assoc]
  exact Multiset.le_add_right _ _

theorem Reachable.waiting_nodup (h : Reachable system) : system.waiting.Nodup :=
  Multiset.nodup_of_le (Multiset.le_add_right _ _) h.known_nodup

section Canceling

variable {object : Nat} {nonce : BitVec 32}

theorem mem_tickets {waiters : List ConnectionWaiter} :
    (object, nonce) ∈ tickets waiters ↔ ∃ waiter ∈ waiters, waiter.ticket = (object, nonce) :=
  List.mem_map

theorem find?_isTicket_eq_none {waiters : List ConnectionWaiter}
    (h : (object, nonce) ∉ tickets waiters) :
    waiters.find? (isTicket object nonce) = none := by
  rcases hfind : waiters.find? (isTicket object nonce) with _ | waiter
  · rfl
  · obtain ⟨hticket, -⟩ := find?_isTicket hfind
    exact absurd (mem_tickets.mpr ⟨waiter, List.mem_of_find?_eq_some hfind, hticket⟩) h

theorem find?_isTicket_eq_some {waiters : List ConnectionWaiter} {waiter : ConnectionWaiter}
    (hnodup : (tickets waiters).Nodup) (hwaiter : waiter ∈ waiters)
    (hticket : waiter.ticket = (object, nonce)) :
    waiters.find? (isTicket object nonce) = some waiter := by
  rcases hfind : waiters.find? (isTicket object nonce) with _ | other
  · have hnot := List.find?_eq_none.mp hfind waiter hwaiter
    exact absurd (by simpa [isTicket, ConnectionWaiter.ticket] using hticket) hnot
  · obtain ⟨hother, -⟩ := find?_isTicket hfind
    rw [List.inj_on_of_nodup_map (Multiset.coe_nodup.mp hnodup) (List.mem_of_find?_eq_some hfind)
      hwaiter (hother.trans hticket.symm)]

theorem step_cancel_of_unknown
    (h : (object, nonce) ∉ system.waiting + tickets system.abandoned) :
    system.step env (.cancel object nonce) = (system, .nothing) := by
  simp only [System.waiting, Multiset.mem_add, not_or] at h
  obtain ⟨⟨hqueue, hunparked⟩, habandoned⟩ := h
  have hrest : (object, nonce) ∉ tickets (system.unparked ++ system.abandoned) := by
    rw [tickets_append, Multiset.mem_add]
    exact not_or.mpr ⟨hunparked, habandoned⟩
  simp only [System.step, System.cancel, find?_isTicket_eq_none hqueue,
    find?_isTicket_eq_none hrest]

theorem Reachable.left_nodup (h : Reachable system) :
    (tickets (system.unparked ++ system.abandoned)).Nodup := by
  have hnodup := h.known_nodup
  rw [System.waiting, add_assoc, ← tickets_append] at hnodup
  exact (Multiset.nodup_add.mp hnodup).2.1

/-- A waiter that has left the queue is left alone by the cancellation if it has an answer,
else it is searched for in a queue that does not have it. -/
theorem Reachable.step_cancel_of_left {waiter : ConnectionWaiter} (h : Reachable system)
    (hwaiter : waiter ∈ system.unparked ++ system.abandoned)
    (hticket : waiter.ticket = (object, nonce)) :
    system.step env (.cancel object nonce) = (system,
      if waiter.assignedConnection.isSome || waiter.exception.isSome then .nothing
      else .exception .nullPointer) := by
  have hnodup := h.known_nodup
  rw [System.waiting, add_assoc, ← tickets_append] at hnodup
  obtain ⟨-, -, hdisjoint⟩ := Multiset.nodup_add.mp hnodup
  have hqueue : (object, nonce) ∉ tickets system.pool.connectionWaiterQueue := fun hmem =>
    Multiset.disjoint_left.mp hdisjoint hmem (mem_tickets.mpr ⟨waiter, hwaiter, hticket⟩)
  simp only [System.step, System.cancel, find?_isTicket_eq_none hqueue,
    find?_isTicket_eq_some h.left_nodup hwaiter hticket]
  split <;> rfl

/-- The pool has been closed and has sent the request away without an answer. -/
def System.SentAway (system : System) (object : Nat) (nonce : BitVec 32) : Prop :=
  system.pool.isOpen = false ∧ ∃ waiter ∈ system.unparked ++ system.abandoned,
    waiter.ticket = (object, nonce) ∧ waiter.Unanswered

end Canceling

section Runs

variable {before after : System} {object since : Nat} {nonce : BitVec 32}

/-- A request whose thread has been told, when `since` uses of waiters were over. -/
def System.Told (system : System) (object : Nat) (nonce : BitVec 32) (since : Nat) : Prop :=
  system.stamps.Spent (object, nonce) since ∨ (object, nonce) ∈ tickets system.abandoned

theorem Served.told_of_answer {answer : System × Reply}
    (h : Served before (.poll object nonce) answer) (hvalid : before.stamps.Valid)
    (hanswer : answer.2 ≠ .nothing) :
    (object, nonce) ∈ before.waiting ∧ answer.1.Told object nonce before.recycled := by
  cases h with
  | same hwaiting habandoned hstamps hreply => exact absurd (hreply object nonce rfl) hanswer
  | waits waiter hwaiting habandoned hchanges hevent => exact absurd rfl (hevent object nonce)
  | recycled hopen hwaiting habandoned hbefore hafter =>
      have hgiven : before.recycled = _ := congrArg Stamps.given hbefore
      rw [hbefore] at hvalid
      refine ⟨hwaiting ▸ Multiset.mem_cons_self _ _, .inl ?_⟩
      rw [hafter, hgiven]
      exact hvalid.spent
  | abandoned waiter hclosed hmem hticket hwaiting habandoned hstamps =>
      refine ⟨hwaiting ▸ Multiset.mem_cons_self _ _, .inr (mem_tickets.mpr ⟨waiter, ?_, hticket⟩)⟩
      rw [habandoned]
      exact List.mem_cons_self

theorem Served.sublist_abandoned {event : Event} {answer : System × Reply}
    (h : Served before event answer) : before.abandoned.Sublist answer.1.abandoned := by
  cases h with
  | same hwaiting habandoned => exact habandoned ▸ .refl _
  | waits waiter hwaiting habandoned => exact habandoned ▸ .refl _
  | recycled hopen hwaiting habandoned => exact habandoned ▸ .refl _
  | abandoned waiter hclosed hmem hticket hwaiting habandoned =>
      rw [habandoned]
      exact List.sublist_cons_self _ _

theorem Run.sublist_abandoned (hbefore : Reachable before) (hrun : Run before after) :
    before.abandoned.Sublist after.abandoned := by
  induction hrun with
  | refl => exact .refl _
  | step env event hrun hallowed ih =>
      exact ih.trans (served_step env event (hbefore.run hrun).poolInv).sublist_abandoned

theorem Run.changes (hbefore : Reachable before) (hrun : Run before after) :
    Changes before.stamps after.stamps := by
  induction hrun with
  | refl => exact .refl
  | step env event hrun hallowed ih =>
      exact ih.trans (served_step env event (hbefore.run hrun).poolInv).changes

theorem Run.told (hbefore : Reachable before) (hrun : Run before after)
    (h : before.Told object nonce since) : after.Told object nonce since := by
  rcases h with hspent | habandoned
  · exact .inl ((hrun.changes hbefore).spent hspent)
  · obtain ⟨waiter, hmem, hticket⟩ := mem_tickets.mp habandoned
    exact .inr (mem_tickets.mpr ⟨waiter, (hrun.sublist_abandoned hbefore).subset hmem, hticket⟩)

theorem Reachable.notMem_waiting_of_told (h : Reachable system)
    (htold : system.Told object nonce since) (hfew : system.recycled < since + 2 ^ 32) :
    (object, nonce) ∉ system.waiting := by
  rcases htold with hspent | habandoned
  · exact fun hmem => hspent.notMem hfew (Multiset.mem_add.mpr (.inl hmem))
  · have hdisjoint := (Multiset.nodup_add.mp h.known_nodup).2.2
    exact fun hmem => Multiset.disjoint_left.mp hdisjoint hmem habandoned

/-- The thread of a request is told something between two states. -/
def ToldBetween (before after : System) (object : Nat) (nonce : BitVec 32) : Prop :=
  ∃ middle env, Run before middle ∧ (middle.step env (.poll object nonce)).2 ≠ .nothing ∧
    Run (middle.step env (.poll object nonce)).1 after

theorem Run.waiting_or_toldBetween (hbefore : Reachable before)
    (hwaiting : (object, nonce) ∈ before.waiting) (hrun : Run before after) :
    (object, nonce) ∈ after.waiting ∨ ToldBetween before after object nonce := by
  induction hrun with
  | refl => exact .inl hwaiting
  | @step middle env event hrun hallowed ih =>
      rcases ih with hmem | ⟨told, toldEnv, hfirst, hanswer, hlast⟩
      · have hserved := served_step env event (hbefore.run hrun).poolInv
        rcases hstep : middle.step env event with ⟨later, reply⟩
        rw [hstep] at hserved
        have htold : ∀ {other : Nat × BitVec 32}, event = .poll other.1 other.2 →
            reply ≠ .nothing → middle.waiting = other ::ₘ later.waiting →
            (object, nonce) ∈ later.waiting ∨ ToldBetween before later object nonce := by
          intro other hevent hreply hcons
          rw [hcons, Multiset.mem_cons] at hmem
          rcases hmem with rfl | hmem
          · subst hevent
            refine .inr ⟨middle, env, hrun, ?_, ?_⟩
            · rwa [hstep]
            · rw [hstep]
              exact .refl
          · exact .inl hmem
        cases hserved with
        | same hsame => exact .inl (hsame ▸ hmem)
        | waits waiter hnew => exact .inl (hnew ▸ Multiset.mem_cons_of_mem hmem)
        | recycled hopen hcons habandoned hbefore hafter hreply => exact htold rfl hreply hcons
        | abandoned waiter hclosed hunparked hticket hcons habandoned hstamps hreply =>
            exact htold rfl hreply hcons
      · exact .inr ⟨told, toldEnv, hfirst, hanswer, .step env event hlast hallowed⟩

/-- A request that waits is waiting in every later state, once, until its thread has been
told, and then never again as long as the nonces do not come round. -/
theorem Run.waiting_iff_not_told (hbefore : Reachable before)
    (hwaiting : (object, nonce) ∈ before.waiting) (hrun : Run before after)
    (hfew : after.recycled < before.recycled + 2 ^ 32) :
    after.waiting.Nodup ∧
      ((object, nonce) ∈ after.waiting ↔ ¬ ToldBetween before after object nonce) := by
  have hafter := hbefore.run hrun
  refine ⟨hafter.waiting_nodup, fun hmem => ?_, fun hnot => ?_⟩
  · rintro ⟨middle, env, hfirst, hanswer, hlast⟩
    have hmiddle := hbefore.run hfirst
    have hserved := served_step env (.poll object nonce) hmiddle.poolInv
    have htold := (hserved.told_of_answer hmiddle.stamps_valid hanswer).2
    have hrecycled : before.recycled ≤ middle.recycled := (hfirst.changes hbefore).given_le
    have hpolled : Reachable (middle.step env (.poll object nonce)).1 :=
      .step env (.poll object nonce) hmiddle trivial
    exact hafter.notMem_waiting_of_told (hlast.told hpolled htold) (by omega) hmem
  · exact (hrun.waiting_or_toldBetween hbefore hwaiting).resolve_right hnot

/-- One thread has the only connection and gives it to the next. -/
def handedOver : System :=
  (opened 0).perform faultless
    [wanting 0 0, wanting 1 0, .releaseConnection ⟨0, true, sampleConfiguration 0, false⟩]

theorem reachable_handedOver : Reachable handedOver :=
  (reachable_opened 0).run (.perform faultless (by decide))

theorem handedOver_waiting_iff :
    (handedOver.perform faultless [.poll 0 0]).waiting.Nodup ∧
      ((0, 0) ∈ (handedOver.perform faultless [.poll 0 0]).waiting ↔
        ¬ ToldBetween handedOver (handedOver.perform faultless [.poll 0 0]) 0 0) :=
  Run.waiting_iff_not_told reachable_handedOver (by decide) (.perform faultless (by decide))
    (by decide)

/-- When a thread has got its answer, a cancellation of its request changes nothing in any
later state, whatever has been done with the waiter object; it throws if the answer was no
more than that the pool is closed. -/
theorem Run.cancel_of_answered (hbefore : Reachable before)
    (hanswer : (before.step env (.poll object nonce)).2 ≠ .nothing)
    (hrun : Run (before.step env (.poll object nonce)).1 after)
    (hfew : after.recycled < before.recycled + 2 ^ 32) (later : Environment) :
    (¬ before.SentAway object nonce →
        after.step later (.cancel object nonce) = (after, .nothing)) ∧
      (before.SentAway object nonce →
        after.step later (.cancel object nonce) = (after, .exception .nullPointer)) := by
  have hserved := served_step env (.poll object nonce) hbefore.poolInv
  have hpolled : Reachable (before.step env (.poll object nonce)).1 :=
    .step env (.poll object nonce) hbefore trivial
  have hafter := hpolled.run hrun
  have hchanges := hrun.changes hpolled
  have hsublist := hrun.sublist_abandoned hpolled
  rcases hstep : before.step env (.poll object nonce) with ⟨polled, reply⟩
  rw [hstep] at hserved hanswer hchanges hsublist
  cases hserved with
  | same hwaiting habandoned hstamps hreply => exact absurd (hreply object nonce rfl) hanswer
  | waits waiter hwaiting habandoned hnew hevent => exact absurd rfl (hevent object nonce)
  | recycled hopen hwaiting habandoned hstamps hrestamped =>
      have hgiven : before.recycled = _ := congrArg Stamps.given hstamps
      have hvalid := hbefore.stamps_valid
      rw [hstamps] at hvalid
      rw [hrestamped] at hchanges
      rw [hgiven] at hfew
      have hnot := (hchanges.spent hvalid.spent).notMem hfew
      refine ⟨fun _ => step_cancel_of_unknown fun hmem => hnot ?_,
        fun hsent => absurd (hopen.symm.trans hsent.1) nofun⟩
      rw [System.stamps, ← add_assoc]
      exact Multiset.mem_add.mpr (.inl hmem)
  | abandoned waiter hclosed hunparked hticket hwaiting habandoned hstamps =>
      have hmem : waiter ∈ after.unparked ++ after.abandoned := by
        refine List.mem_append_right _ (hsublist.subset ?_)
        rw [habandoned]
        exact List.mem_cons_self
      rw [hafter.step_cancel_of_left hmem hticket]
      refine ⟨fun hnot => ?_, ?_⟩
      · rw [if_pos]
        have hanswered : ¬ waiter.Unanswered := fun hunanswered =>
          hnot ⟨hclosed, waiter, List.mem_append_left _ hunparked, hticket, hunanswered⟩
        rcases hassigned : waiter.assignedConnection with _ | connection
        · rcases hexception : waiter.exception with _ | failure
          · exact absurd ⟨hassigned, hexception⟩ hanswered
          · rfl
        · rfl
      · rintro ⟨-, other, hother, hsame, hassigned, hexception⟩
        obtain rfl := List.inj_on_of_nodup_map (Multiset.coe_nodup.mp hbefore.left_nodup) hother
          (List.mem_append_left _ hunparked) (hsame.trans hticket.symm)
        rw [hassigned, hexception]
        rfl

/-- The waiter object serves the next request, which the late cancellation spares. -/
theorem handedOver_cancel :
    ((handedOver.step faultless (.poll 0 0)).1.perform faultless [wanting 2 0]).step faultless
        (.cancel 0 0) =
      ((handedOver.step faultless (.poll 0 0)).1.perform faultless [wanting 2 0], .nothing) :=
  (Run.cancel_of_answered reachable_handedOver (by decide) (.perform faultless (by decide))
    (by decide) faultless).1 fun hsent => absurd hsent.1 (by decide)

end Runs

end LSTAndroid.PoolSystem
