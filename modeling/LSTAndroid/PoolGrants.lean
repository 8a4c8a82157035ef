import LSTAndroid.ConnectionPool
import Mathlib.Logic.Relation

namespace LSTAndroid.ConnectionPool

open Pool

variable {env : Environment}

def Connection.withFlags (connection : Connection) (connectionFlags : BitVec 32) : Connection :=
  { connection with
    onlyAllowReadOnlyOperations := connectionFlags &&& connectionFlagReadOnly != 0 }

@[simp] theorem Connection.withFlags_connectionId (connection : Connection)
    (connectionFlags : BitVec 32) :
    (connection.withFlags connectionFlags).connectionId = connection.connectionId := rfl

@[simp] theorem Connection.withFlags_isPrimaryConnection (connection : Connection)
    (connectionFlags : BitVec 32) :
    (connection.withFlags connectionFlags).isPrimaryConnection =
      connection.isPrimaryConnection := rfl

@[simp] theorem Connection.withFlags_configuration (connection : Connection)
    (connectionFlags : BitVec 32) :
    (connection.withFlags connectionFlags).configuration = connection.configuration := rfl

def Pool.hasAcquiredPrimary (pool : Pool) : Prop :=
  ∃ entry ∈ pool.acquiredConnections, entry.1.isPrimaryConnection = true

inductive Attempt : Pool → Pool → Except PoolException (Option Connection) → Prop
  | primary {pool : Pool} {connection : Connection} (connectionFlags : BitVec 32) :
      pool.availablePrimaryConnection = some connection →
        Attempt pool
          { pool with
            availablePrimaryConnection := none
            acquiredConnections :=
              (connection.withFlags connectionFlags, .normal) :: pool.acquiredConnections }
          (.ok (some (connection.withFlags connectionFlags)))
  | nonPrimary {pool : Pool} {connection : Connection} {before after : List Connection}
      (connectionFlags : BitVec 32) :
      pool.availableNonPrimaryConnections = before ++ connection :: after →
        Attempt pool
          { pool with
            availableNonPrimaryConnections := before ++ after
            acquiredConnections :=
              (connection.withFlags connectionFlags, .normal) :: pool.acquiredConnections }
          (.ok (some (connection.withFlags connectionFlags)))
  | opened {pool : Pool} {connection : Connection} (connectionFlags : BitVec 32) :
      connection.connectionId = pool.nextConnectionId →
      connection.configuration = pool.configuration →
      (connection.isPrimaryConnection = true →
        pool.availablePrimaryConnection = none ∧ ¬ pool.hasAcquiredPrimary) →
      (connection.isPrimaryConnection = false →
        pool.availableNonPrimaryConnections = [] ∧
          pool.openConnections < pool.maxConnectionPoolSize) →
        Attempt pool
          { pool with
            nextConnectionId := pool.nextConnectionId + 1
            acquiredConnections :=
              (connection.withFlags connectionFlags, .normal) :: pool.acquiredConnections }
          (.ok (some (connection.withFlags connectionFlags)))
  | failed {pool : Pool} :
      Attempt pool { pool with nextConnectionId := pool.nextConnectionId + 1 } (.error .openFailed)
  | nothing {pool : Pool} : Attempt pool pool (.ok none)

def Pool.PrimaryBusy (pool : Pool) : Prop :=
  pool.availablePrimaryConnection = none ∧ pool.hasAcquiredPrimary

def Pool.NonPrimaryBusy (pool : Pool) : Prop :=
  pool.availableNonPrimaryConnections = [] ∧ pool.maxConnectionPoolSize ≤ pool.openConnections

section Attempts

variable {pool after : Pool} {answer : Except PoolException (Option Connection)}

theorem openConnectionLocked_cases {configuration : Configuration} {primaryConnection : Bool}
    {opened : Pool × Except PoolException Connection}
    (h : pool.openConnectionLocked env configuration primaryConnection = opened) :
    opened = ({ pool with nextConnectionId := pool.nextConnectionId + 1 }, .error .openFailed) ∨
      opened = ({ pool with nextConnectionId := pool.nextConnectionId + 1 },
        .ok ⟨pool.nextConnectionId, primaryConnection, configuration, false⟩) := by
  simp only [openConnectionLocked] at h
  split at h
  · exact .inl h.symm
  · exact .inr h.symm

theorem open?_eq_some {hasCodec : Bool} {configuration : Configuration}
    (h : Pool.open? env hasCodec configuration = some pool) :
    pool =
      { hasCodec := hasCodec
        configuration := configuration
        maxConnectionPoolSize := connectionPoolSize hasCodec configuration
        isOpen := true
        nextConnectionId := 1
        connectionWaiterObjects := 0
        connectionWaiterPool := []
        connectionWaiterQueue := []
        availableNonPrimaryConnections := []
        availablePrimaryConnection := some ⟨0, true, configuration, false⟩
        acquiredConnections := []
        connectionLeaked := false
        closedConnections := []
        unclosedConnections := [] } := by
  simp only [Pool.open?] at h
  split at h
  · cases h
  · rename_i opened connection hopened
    rcases openConnectionLocked_cases hopened with hcase | hcase
    · cases (Prod.mk.inj hcase).2
    · obtain ⟨rfl, hconnection⟩ := Prod.mk.inj hcase
      obtain rfl := Except.ok.inj hconnection
      exact (Option.some.inj h).symm

theorem openAndAcquire_attempt (primaryConnection : Bool) (connectionFlags : BitVec 32)
    (hprimary : primaryConnection = true →
      pool.availablePrimaryConnection = none ∧ ¬ pool.hasAcquiredPrimary)
    (hnonPrimary : primaryConnection = false →
      pool.availableNonPrimaryConnections = [] ∧
        pool.openConnections < pool.maxConnectionPoolSize)
    (h : pool.openAndAcquire env primaryConnection connectionFlags = (after, answer)) :
    Attempt pool after answer ∧ answer ≠ .ok none := by
  unfold openAndAcquire at h
  rcases openConnectionLocked_cases (rfl : pool.openConnectionLocked env pool.configuration
    primaryConnection = _) with hopened | hopened
  · rw [hopened] at h
    obtain ⟨rfl, rfl⟩ := Prod.mk.inj h
    exact ⟨.failed, nofun⟩
  · rw [hopened] at h
    obtain ⟨rfl, rfl⟩ := Prod.mk.inj h
    exact ⟨.opened connectionFlags rfl rfl hprimary hnonPrimary, nofun⟩

theorem tryAcquirePrimaryConnection_attempt {connectionFlags : BitVec 32}
    (h : pool.tryAcquirePrimaryConnection env connectionFlags = (after, answer)) :
    Attempt pool after answer ∧ (answer = .ok none ↔ pool.PrimaryBusy) := by
  unfold tryAcquirePrimaryConnection at h
  rcases havailable : pool.availablePrimaryConnection with _ | connection
  · rw [havailable] at h
    by_cases hacquired :
        (pool.acquiredConnections.any fun entry => entry.1.isPrimaryConnection) = true
    · simp only [hacquired, if_true, Prod.mk.injEq] at h
      obtain ⟨rfl, rfl⟩ := h
      refine ⟨.nothing, iff_of_true rfl ⟨havailable, ?_⟩⟩
      simpa [hasAcquiredPrimary] using hacquired
    · have hnone : ¬ pool.hasAcquiredPrimary := by
        simpa [hasAcquiredPrimary] using hacquired
      simp only [hacquired] at h
      obtain ⟨hattempt, hanswer⟩ :=
        openAndAcquire_attempt true connectionFlags (fun _ => ⟨havailable, hnone⟩) nofun h
      exact ⟨hattempt, iff_of_false hanswer fun hbusy => hnone hbusy.2⟩
  · rw [havailable] at h
    obtain ⟨rfl, rfl⟩ := Prod.mk.inj h
    refine ⟨.primary connectionFlags havailable, iff_of_false nofun fun hbusy => ?_⟩
    exact absurd (havailable.symm.trans hbusy.1) nofun

theorem nonPrimaryIndex_eq_none {sql : Option String}
    (h : pool.availableNonPrimaryConnections[pool.nonPrimaryIndex env sql]? = none) :
    pool.availableNonPrimaryConnections = [] := by
  rw [List.getElem?_eq_none_iff] at h
  by_contra hne
  have hpos := List.length_pos_iff.mpr hne
  simp only [nonPrimaryIndex] at h
  rcases hcached : (sql.bind fun sql =>
      if pool.availableNonPrimaryConnections.length > 1 then
        pool.availableNonPrimaryConnections.findIdx? fun connection =>
          env.preparedStatementInCache connection.connectionId sql
      else none) with _ | index
  · rw [hcached, Option.getD_none] at h
    omega
  · obtain ⟨text, -, hfound⟩ := Option.bind_eq_some_iff.mp hcached
    rw [hcached, Option.getD_some] at h
    split at hfound
    · have hlt := (List.findIdx?_eq_some_iff_findIdx_eq.mp hfound).1
      omega
    · cases hfound

theorem tryAcquireNonPrimaryConnection_attempt {sql : Option String}
    {connectionFlags : BitVec 32}
    (h : pool.tryAcquireNonPrimaryConnection env sql connectionFlags = (after, answer)) :
    Attempt pool after answer ∧ (answer = .ok none ↔ pool.NonPrimaryBusy) := by
  simp only [tryAcquireNonPrimaryConnection] at h
  rcases hindex : pool.availableNonPrimaryConnections[pool.nonPrimaryIndex env sql]? with
    _ | connection
  · have hempty := nonPrimaryIndex_eq_none hindex
    rw [hindex] at h
    by_cases hfull : pool.openConnections ≥ pool.maxConnectionPoolSize
    · simp only [hfull, if_true, Prod.mk.injEq] at h
      obtain ⟨rfl, rfl⟩ := h
      exact ⟨.nothing, iff_of_true rfl ⟨hempty, hfull⟩⟩
    · simp only [hfull] at h
      obtain ⟨hattempt, hanswer⟩ :=
        openAndAcquire_attempt false connectionFlags nofun
          (fun _ => ⟨hempty, Nat.lt_of_not_le hfull⟩) h
      exact ⟨hattempt, iff_of_false hanswer fun hbusy => hfull hbusy.2⟩
  · rw [hindex] at h
    obtain ⟨rfl, rfl⟩ := Prod.mk.inj h
    obtain ⟨hlt, hget⟩ := List.getElem?_eq_some_iff.mp hindex
    have hsplit : pool.availableNonPrimaryConnections =
        pool.availableNonPrimaryConnections.take (pool.nonPrimaryIndex env sql) ++ connection ::
          pool.availableNonPrimaryConnections.drop (pool.nonPrimaryIndex env sql + 1) := by
      rw [← hget, List.getElem_cons_drop, List.take_append_drop]
    refine ⟨?_, iff_of_false nofun fun hbusy => ?_⟩
    · rw [List.eraseIdx_eq_take_drop_succ]
      exact .nonPrimary connectionFlags hsplit
    · rw [hbusy.1] at hlt
      exact absurd hlt (Nat.not_lt_zero _)

theorem Attempt.primaryBusy (h : Attempt pool after answer) (hbusy : pool.PrimaryBusy) :
    after.PrimaryBusy := by
  obtain ⟨havailable, entry, hentry, hprimary⟩ := hbusy
  cases h with
  | primary connectionFlags hsome => exact absurd (hsome.symm.trans havailable) nofun
  | nonPrimary connectionFlags hsplit =>
      exact ⟨havailable, entry, List.mem_cons_of_mem _ hentry, hprimary⟩
  | opened connectionFlags hid hconfiguration hopened hother =>
      exact ⟨havailable, entry, List.mem_cons_of_mem _ hentry, hprimary⟩
  | failed => exact ⟨havailable, entry, hentry, hprimary⟩
  | nothing => exact ⟨havailable, entry, hentry, hprimary⟩

theorem Attempt.nonPrimaryBusy (h : Attempt pool after answer) (hbusy : pool.NonPrimaryBusy) :
    after.NonPrimaryBusy := by
  obtain ⟨hempty, hfull⟩ := hbusy
  cases h with
  | primary connectionFlags hsome =>
      refine ⟨hempty, ?_⟩
      simp only [openConnections, hsome, Option.isSome_some, if_true, Option.isSome_none,
        List.length_cons] at hfull ⊢
      simpa using hfull
  | nonPrimary connectionFlags hsplit =>
      rw [hempty] at hsplit
      simp at hsplit
  | opened connectionFlags hid hconfiguration hopened hother =>
      refine ⟨hempty, ?_⟩
      simp only [openConnections, List.length_cons] at hfull ⊢
      omega
  | failed => exact ⟨hempty, hfull⟩
  | nothing => exact ⟨hempty, hfull⟩

theorem Attempt.frame (h : Attempt pool after answer) :
    after = { pool with
      nextConnectionId := after.nextConnectionId
      availableNonPrimaryConnections := after.availableNonPrimaryConnections
      availablePrimaryConnection := after.availablePrimaryConnection
      acquiredConnections := after.acquiredConnections } := by
  cases h <;> rfl

end Attempts

section Sequences

def granted : Except PoolException (Option Connection) → List Connection
  | .ok (some connection) => [connection]
  | _ => []

inductive Attempts : Pool → Pool → List Connection → Prop
  | refl {pool : Pool} : Attempts pool pool []
  | head {pool middle after : Pool} {answer : Except PoolException (Option Connection)}
      {connections : List Connection} :
      Attempt pool middle answer → Attempts middle after connections →
        Attempts pool after (granted answer ++ connections)

variable {pool middle after : Pool} {answer : Except PoolException (Option Connection)}
variable {first second connections : List Connection}

theorem Attempt.attempts (h : Attempt pool after answer) :
    Attempts pool after (granted answer) := by
  simpa using Attempts.head h .refl

theorem Attempts.trans (hfirst : Attempts pool middle first)
    (hsecond : Attempts middle after second) : Attempts pool after (first ++ second) := by
  induction hfirst with
  | refl => exact hsecond
  | head hattempt _ ih =>
      rw [List.append_assoc]
      exact .head hattempt (ih hsecond)

theorem Attempts.keep {P : Pool → Prop}
    (hkeep : ∀ {pool after answer}, Attempt pool after answer → P pool → P after)
    (h : Attempts pool after connections) (hpool : P pool) : P after := by
  induction h with
  | refl => exact hpool
  | head hattempt _ ih => exact ih (hkeep hattempt hpool)

theorem Attempts.frame (h : Attempts pool after connections) :
    after = { pool with
      nextConnectionId := after.nextConnectionId
      availableNonPrimaryConnections := after.availableNonPrimaryConnections
      availablePrimaryConnection := after.availablePrimaryConnection
      acquiredConnections := after.acquiredConnections } := by
  induction h with
  | refl => rfl
  | head hattempt _ ih =>
      rw [hattempt.frame] at ih
      exact ih

end Sequences

section Waking

structure Pool.Offers.Sound (offers : Offers) : Prop where
  primary : offers.primaryConnectionNotAvailable = true → offers.pool.PrimaryBusy
  nonPrimary : offers.nonPrimaryConnectionNotAvailable = true → offers.pool.NonPrimaryBusy

variable {offers after : Offers} {waiter : ConnectionWaiter}
variable {answer : Except PoolException (Option Connection)}

theorem Pool.Offers.Sound.start (pool : Pool) : Offers.Sound ⟨pool, false, false⟩ :=
  ⟨fun h => absurd h Bool.false_ne_true, fun h => absurd h Bool.false_ne_true⟩

theorem offerNonPrimary_spec (hsound : offers.Sound)
    (h : offerNonPrimary env offers waiter = (after, answer)) :
    Attempt offers.pool after.pool answer ∧ after.Sound ∧
      after.primaryConnectionNotAvailable = offers.primaryConnectionNotAvailable ∧
      (offers.nonPrimaryConnectionNotAvailable = true →
        answer = .ok none ∧ after.nonPrimaryConnectionNotAvailable = true) ∧
      (waiter.wantPrimaryConnection = true → answer = .ok none) ∧
      (answer = .ok none → waiter.wantPrimaryConnection = false →
        after.nonPrimaryConnectionNotAvailable = true) := by
  unfold offerNonPrimary at h
  split at h
  · rename_i htried
    simp only [Bool.and_eq_true, Bool.not_eq_true'] at htried
    rcases hcall : offers.pool.tryAcquireNonPrimaryConnection env waiter.sql
      waiter.connectionFlags with ⟨pool, result⟩
    obtain ⟨hattempt, hnone⟩ := tryAcquireNonPrimaryConnection_attempt hcall
    rw [hcall] at h
    have hprimary := fun hflag => hattempt.primaryBusy (hsound.primary hflag)
    split at h
    · rename_i heq
      obtain ⟨rfl, rfl⟩ := Prod.mk.inj heq
      obtain ⟨rfl, rfl⟩ := Prod.mk.inj h
      refine ⟨hattempt, ⟨hprimary, fun _ => hattempt.nonPrimaryBusy (hnone.mp rfl)⟩, rfl, ?_⟩
      simp [htried]
    · rename_i hother heq
      obtain ⟨rfl, rfl⟩ := Prod.mk.inj heq
      obtain ⟨rfl, rfl⟩ := Prod.mk.inj h
      have hne : result ≠ .ok none := hother
      refine ⟨hattempt, ⟨hprimary, fun hflag => ?_⟩, rfl, ?_⟩
      · exact absurd (htried.2.symm.trans hflag) nofun
      · simp [htried, hne]
  · rename_i hskipped
    obtain ⟨rfl, rfl⟩ := Prod.mk.inj h
    refine ⟨.nothing, hsound, rfl, fun hflag => ⟨rfl, hflag⟩, fun _ => rfl, fun _ hwant => ?_⟩
    simpa [hwant] using hskipped

theorem offerPrimary_spec (hsound : offers.Sound)
    (h : offerPrimary env offers waiter = (after, answer)) :
    Attempt offers.pool after.pool answer ∧ after.Sound ∧
      after.nonPrimaryConnectionNotAvailable = offers.nonPrimaryConnectionNotAvailable ∧
      (offers.primaryConnectionNotAvailable = true → answer = .ok none) ∧
      (answer = .ok none → after.primaryConnectionNotAvailable = true) ∧
      (offers.primaryConnectionNotAvailable = true →
        after.primaryConnectionNotAvailable = true) := by
  unfold offerPrimary at h
  split at h
  · rename_i htried
    simp only [Bool.not_eq_true'] at htried
    rcases hcall : offers.pool.tryAcquirePrimaryConnection env waiter.connectionFlags with
      ⟨pool, result⟩
    obtain ⟨hattempt, hnone⟩ := tryAcquirePrimaryConnection_attempt hcall
    rw [hcall] at h
    have hnonPrimary := fun hflag => hattempt.nonPrimaryBusy (hsound.nonPrimary hflag)
    split at h
    · rename_i heq
      obtain ⟨rfl, rfl⟩ := Prod.mk.inj heq
      obtain ⟨rfl, rfl⟩ := Prod.mk.inj h
      refine ⟨hattempt, ⟨fun _ => hattempt.primaryBusy (hnone.mp rfl), hnonPrimary⟩, rfl, ?_⟩
      simp [htried]
    · rename_i hother heq
      obtain ⟨rfl, rfl⟩ := Prod.mk.inj heq
      obtain ⟨rfl, rfl⟩ := Prod.mk.inj h
      have hne : result ≠ .ok none := hother
      refine ⟨hattempt, ⟨fun hflag => ?_, hnonPrimary⟩, rfl, ?_⟩
      · exact absurd (htried.symm.trans hflag) nofun
      · simp [htried, hne]
  · rename_i hskipped
    obtain ⟨rfl, rfl⟩ := Prod.mk.inj h
    have hflag : offers.primaryConnectionNotAvailable = true := by simpa using hskipped
    exact ⟨.nothing, hsound, rfl, fun _ => rfl, fun _ => hflag, fun _ => hflag⟩

theorem offer_spec (hsound : offers.Sound) (h : offer env offers waiter = (after, answer)) :
    Attempts offers.pool after.pool (granted answer) ∧ after.Sound ∧
      (answer = .ok none → after.primaryConnectionNotAvailable = true ∧
        (waiter.wantPrimaryConnection = false →
          after.nonPrimaryConnectionNotAvailable = true)) := by
  unfold offer at h
  rcases hfirst : offerNonPrimary env offers waiter with ⟨between, first⟩
  obtain ⟨hattempt, hbetween, -, -, -, hflag⟩ := offerNonPrimary_spec hsound hfirst
  rw [hfirst] at h
  split at h
  · rename_i heq
    obtain ⟨rfl, rfl⟩ := Prod.mk.inj heq
    obtain ⟨hsecond, hafter, hsame, -, hprimary, -⟩ := offerPrimary_spec hbetween h
    refine ⟨hattempt.attempts.trans hsecond.attempts, hafter, fun hanswer => ?_⟩
    exact ⟨hprimary hanswer, fun hwant => hsame.trans (hflag rfl hwant)⟩
  · rename_i hother heq
    obtain ⟨rfl, rfl⟩ := Prod.mk.inj heq
    obtain ⟨rfl, rfl⟩ := Prod.mk.inj h
    exact ⟨hattempt.attempts, hbetween, fun hanswer => absurd hanswer hother⟩

/-- Waiting for nothing that could be had: what the pool has, no waiter of the list can use. -/
def Pool.Exhausted (pool : Pool) (waiters : List ConnectionWaiter) : Prop :=
  ∀ waiter ∈ waiters, pool.PrimaryBusy ∧
    (waiter.wantPrimaryConnection = false → pool.NonPrimaryBusy)

def ConnectionWaiter.ticket (waiter : ConnectionWaiter) : Nat × BitVec 32 :=
  (waiter.object, waiter.nonce)

def ConnectionWaiter.Unanswered (waiter : ConnectionWaiter) : Prop :=
  waiter.assignedConnection = none ∧ waiter.exception = none

variable {kept unparked queue : List ConnectionWaiter} {pool : Pool}

theorem wakeWaiters_closed (hclosed : offers.pool.isOpen = false) :
    wakeWaiters env queue offers = ([], queue, offers.pool) := by
  induction queue with
  | nil => rfl
  | cons waiter successors ih => simp [wakeWaiters, hclosed, ih]

theorem wakeConnectionWaiters_closed (hclosed : pool.isOpen = false) :
    pool.wakeConnectionWaiters env =
      ({ pool with connectionWaiterQueue := [] }, pool.connectionWaiterQueue) := by
  have hwake : wakeWaiters env pool.connectionWaiterQueue ⟨pool, false, false⟩ =
      ([], pool.connectionWaiterQueue, pool) := wakeWaiters_closed hclosed
  simp only [wakeConnectionWaiters, hwake]

/-- What the loop over the waiters does while the pool is open. -/
structure Woken (before after : Pool) (queue kept unparked : List ConnectionWaiter) : Prop where
  attempts : Attempts before after (unparked.filterMap ConnectionWaiter.assignedConnection)
  kept_sublist : kept.Sublist queue
  exhausted : after.Exhausted kept
  tickets : ((kept ++ unparked).map ConnectionWaiter.ticket).Perm
    (queue.map ConnectionWaiter.ticket)
  answered : ∀ waiter ∈ unparked, ¬ waiter.Unanswered

variable {before middle : Pool} {connections : List Connection}

theorem Woken.unpark {answered : ConnectionWaiter}
    (hattempts : Attempts before middle answered.assignedConnection.toList)
    (hticket : answered.ticket = waiter.ticket) (hanswered : ¬ answered.Unanswered)
    (h : Woken middle pool queue kept unparked) :
    Woken before pool (waiter :: queue) kept (answered :: unparked) where
  attempts := by
    have hall := hattempts.trans h.attempts
    cases hassigned : answered.assignedConnection <;> simpa [hassigned] using hall
  kept_sublist := h.kept_sublist.cons _
  exhausted := h.exhausted
  tickets := by
    have htickets := h.tickets
    simp only [List.map_append, List.map_cons, hticket] at htickets ⊢
    exact List.perm_middle.trans (htickets.cons _)
  answered := by
    intro other hother
    rcases List.mem_cons.mp hother with rfl | hother
    · exact hanswered
    · exact h.answered other hother

theorem Woken.stay (hattempts : Attempts before middle [])
    (hbusy : pool.Exhausted [waiter]) (h : Woken middle pool queue kept unparked) :
    Woken before pool (waiter :: queue) (waiter :: kept) unparked where
  attempts := hattempts.trans h.attempts
  kept_sublist := h.kept_sublist.cons_cons _
  exhausted := by
    intro other hother
    rcases List.mem_cons.mp hother with rfl | hother
    · exact hbusy other List.mem_cons_self
    · exact h.exhausted other hother
  tickets := h.tickets.cons _
  answered := h.answered

theorem Attempts.exhausted (hattempts : Attempts before middle connections)
    (h : before.Exhausted queue) : middle.Exhausted queue :=
  fun waiter hwaiter => ⟨hattempts.keep Attempt.primaryBusy (h waiter hwaiter).1,
    fun hwant => hattempts.keep Attempt.nonPrimaryBusy ((h waiter hwaiter).2 hwant)⟩

theorem wakeWaiters_woken (hopen : offers.pool.isOpen = true) (hsound : offers.Sound)
    (hqueue : ∀ waiter ∈ queue, waiter.Unanswered)
    (h : wakeWaiters env queue offers = (kept, unparked, pool)) :
    Woken offers.pool pool queue kept unparked := by
  induction queue generalizing offers kept unparked pool with
  | nil =>
      simp only [wakeWaiters, Prod.mk.injEq] at h
      obtain ⟨rfl, rfl, rfl⟩ := h
      exact ⟨.refl, .refl _, nofun, .refl _, nofun⟩
  | cons waiter successors ih =>
      have hwaiter := hqueue waiter List.mem_cons_self
      have hsuccessors := fun other hother => hqueue other (List.mem_cons_of_mem _ hother)
      rcases hoffer : offer env offers waiter with ⟨between, answer⟩
      obtain ⟨hattempts, hbetween, hnone⟩ := offer_spec hsound hoffer
      have hstill : between.pool.isOpen = true := by
        rw [hattempts.frame]
        exact hopen
      rcases hrest : wakeWaiters env successors between with ⟨rest, others, last⟩
      have hwoken := ih hstill hbetween hsuccessors hrest
      simp only [wakeWaiters, hopen, Bool.not_true, Bool.false_eq_true, if_false, hoffer] at h
      rcases answer with failure | _ | connection
      · simp only [hrest, Prod.mk.injEq] at h
        obtain ⟨rfl, rfl, rfl⟩ := h
        refine .unpark ?_ rfl (fun hnot => ?_) hwoken
        · simpa only [hwaiter.1, granted, Option.toList_none] using hattempts
        · exact absurd hnot.2 nofun
      · obtain ⟨hprimary, hnonPrimary⟩ := hnone rfl
        have hbusy : between.pool.Exhausted [waiter] := by
          intro other hother
          obtain rfl := List.mem_singleton.mp hother
          exact ⟨hbetween.primary hprimary, fun hwant => hbetween.nonPrimary (hnonPrimary hwant)⟩
        by_cases hbreak : (between.nonPrimaryConnectionNotAvailable &&
            between.primaryConnectionNotAvailable) = true
        · -- both kinds are used up, so the loop leaves the rest of the queue alone
          simp only [hbreak, if_true, Prod.mk.injEq] at h
          obtain ⟨rfl, rfl, rfl⟩ := h
          simp only [Bool.and_eq_true] at hbreak
          refine .stay hattempts hbusy ⟨.refl, .refl _, fun other hother => ?_, ?_, nofun⟩
          · exact ⟨hbetween.primary hbreak.2, fun _ => hbetween.nonPrimary hbreak.1⟩
          · simp
        · simp only [hbreak, hrest, Bool.false_eq_true, if_false, Prod.mk.injEq] at h
          obtain ⟨rfl, rfl, rfl⟩ := h
          exact .stay hattempts (hwoken.attempts.exhausted hbusy) hwoken
      · simp only [hrest, Prod.mk.injEq] at h
        obtain ⟨rfl, rfl, rfl⟩ := h
        refine .unpark hattempts rfl (fun hnot => ?_) hwoken
        exact absurd hnot.1 nofun

/-- After a wake of an open pool, no waiter is left that could have been served. -/
theorem wakeConnectionWaiters_woken (hopen : before.isOpen = true)
    (hqueue : ∀ waiter ∈ before.connectionWaiterQueue, waiter.Unanswered)
    (h : before.wakeConnectionWaiters env = (pool, unparked)) :
    ∃ last, pool = { last with connectionWaiterQueue := pool.connectionWaiterQueue } ∧
      Woken before last before.connectionWaiterQueue pool.connectionWaiterQueue unparked := by
  unfold wakeConnectionWaiters at h
  rcases hwake : wakeWaiters env before.connectionWaiterQueue ⟨before, false, false⟩ with
    ⟨rest, others, last⟩
  simp only [hwake] at h
  obtain ⟨rfl, rfl⟩ := Prod.mk.inj h
  exact ⟨last, rfl, wakeWaiters_woken hopen (.start before) hqueue hwake⟩

theorem mem_wakeConnectionWaiters {other : ConnectionWaiter}
    (hqueue : ∀ waiter ∈ pool.connectionWaiterQueue, waiter.Unanswered)
    (h : other ∈ (pool.wakeConnectionWaiters env).1.connectionWaiterQueue) :
    other ∈ pool.connectionWaiterQueue := by
  rcases hopen : pool.isOpen with _ | _
  · rw [wakeConnectionWaiters_closed hopen] at h
    cases h
  · rcases hwake : pool.wakeConnectionWaiters env with ⟨after, unparked⟩
    obtain ⟨last, -, hwoken⟩ := wakeConnectionWaiters_woken hopen hqueue hwake
    rw [hwake] at h
    exact hwoken.kept_sublist.subset h

end Waking

section Requests

variable {pool after : Pool} {thread now : Nat} {sql : Option String}
variable {connectionFlags : BitVec 32} {canceled : Bool}

theorem Attempt.eq_of_none (h : Attempt pool after (.ok none)) : after = pool := by
  cases h
  rfl

/-- The waiter of a request on the objects that the pool has, and the pool without it. -/
structure Obtained (pool after : Pool) (waiter : ConnectionWaiter) : Prop where
  unanswered : waiter.Unanswered
  frame : after = { pool with
    connectionWaiterObjects := after.connectionWaiterObjects
    connectionWaiterPool := after.connectionWaiterPool }
  ticket : (pool.connectionWaiterPool = waiter.ticket :: after.connectionWaiterPool ∧
      after.connectionWaiterObjects = pool.connectionWaiterObjects) ∨
    (pool.connectionWaiterPool = [] ∧ after.connectionWaiterPool = [] ∧
      waiter.ticket = (pool.connectionWaiterObjects, 0) ∧
      after.connectionWaiterObjects = pool.connectionWaiterObjects + 1)

theorem obtainConnectionWaiter_spec {startTime priority : Nat} {wantPrimaryConnection : Bool}
    {waiter : ConnectionWaiter}
    (h : pool.obtainConnectionWaiter thread startTime priority wantPrimaryConnection sql
      connectionFlags = (after, waiter)) :
    Obtained pool after waiter ∧ waiter.priority = priority ∧ waiter.startTime = startTime ∧
      waiter.wantPrimaryConnection = wantPrimaryConnection := by
  unfold obtainConnectionWaiter at h
  split at h
  · rename_i object nonce pooled hpool
    obtain ⟨rfl, rfl⟩ := Prod.mk.inj h
    exact ⟨⟨⟨rfl, rfl⟩, rfl, .inl ⟨hpool, rfl⟩⟩, rfl, rfl, rfl⟩
  · rename_i hpool
    obtain ⟨rfl, rfl⟩ := Prod.mk.inj h
    exact ⟨⟨⟨rfl, rfl⟩, rfl, .inr ⟨hpool, hpool, rfl, rfl⟩⟩, rfl, rfl, rfl⟩

inductive Requested (now : Nat) (connectionFlags : BitVec 32) :
    Pool → Pool → Except PoolException (Connection ⊕ ConnectionWaiter) → Prop
  | closed {pool : Pool} :
      pool.isOpen = false → Requested now connectionFlags pool pool (.error .closed)
  | canceled {pool : Pool} : Requested now connectionFlags pool pool (.error .canceled)
  | failed {pool after : Pool} (failure : PoolException) :
      pool.isOpen = true → Attempts pool after [] →
        Requested now connectionFlags pool after (.error failure)
  | served {pool after : Pool} (connection : Connection) :
      pool.isOpen = true → Attempts pool after [connection] →
        Requested now connectionFlags pool after (.ok (.inl connection))
  | waits {pool obtained : Pool} (waiter : ConnectionWaiter) :
      pool.isOpen = true → pool.Exhausted [waiter] → Obtained pool obtained waiter →
      waiter.priority = getPriority connectionFlags → waiter.startTime = now →
        Requested now connectionFlags pool
          { obtained with
            connectionWaiterQueue := enqueue waiter obtained.connectionWaiterQueue }
          (.ok (.inr waiter))

theorem waitForConnection_requested
    {answer : Except PoolException (Connection ⊕ ConnectionWaiter)}
    (h : pool.waitForConnection env thread now sql connectionFlags canceled = (after, answer)) :
    Requested now connectionFlags pool after answer := by
  simp only [waitForConnection] at h
  split at h
  · rename_i hclosed
    obtain ⟨rfl, rfl⟩ := Prod.mk.inj h
    exact .closed (by simpa using hclosed)
  rename_i hopen
  have hopen : pool.isOpen = true := by simpa using hopen
  split at h
  · obtain ⟨rfl, rfl⟩ := Prod.mk.inj h
    exact .canceled
  rcases hfirst : (if (!(connectionFlags &&& connectionFlagPrimaryConnectionAffinity != 0)) = true
      then pool.tryAcquireNonPrimaryConnection env sql connectionFlags
      else (pool, .ok none)) with ⟨between, first⟩
  have hattempt : Attempt pool between first ∧ (first = .ok none →
      (connectionFlags &&& connectionFlagPrimaryConnectionAffinity != 0) = false →
        pool.NonPrimaryBusy) := by
    split at hfirst
    · obtain ⟨hattempt, hbusy⟩ := tryAcquireNonPrimaryConnection_attempt hfirst
      exact ⟨hattempt, fun hnone _ => hbusy.mp hnone⟩
    · rename_i hwant
      obtain ⟨rfl, rfl⟩ := Prod.mk.inj hfirst
      exact ⟨.nothing, fun _ hnot => absurd (by simpa using hnot) hwant⟩
  simp only [hfirst] at h
  rcases first with failure | _ | connection
  · obtain ⟨rfl, rfl⟩ := Prod.mk.inj h
    exact .failed failure hopen hattempt.1.attempts
  · obtain rfl := hattempt.1.eq_of_none
    rcases hsecond : between.tryAcquirePrimaryConnection env connectionFlags with ⟨last, second⟩
    obtain ⟨hprimary, hbusy⟩ := tryAcquirePrimaryConnection_attempt hsecond
    simp only [hsecond] at h
    rcases second with failure | _ | connection
    · obtain ⟨rfl, rfl⟩ := Prod.mk.inj h
      exact .failed failure hopen hprimary.attempts
    · obtain rfl := hprimary.eq_of_none
      rcases hobtain : last.obtainConnectionWaiter thread now (getPriority connectionFlags)
        (connectionFlags &&& connectionFlagPrimaryConnectionAffinity != 0) sql connectionFlags with
        ⟨obtained, waiter⟩
      obtain ⟨hobtained, hpriority, hstart, hwant⟩ := obtainConnectionWaiter_spec hobtain
      simp only [hobtain] at h
      obtain ⟨rfl, rfl⟩ := Prod.mk.inj h
      refine .waits waiter hopen (fun other hother => ?_) hobtained hpriority hstart
      obtain rfl := List.mem_singleton.mp hother
      exact ⟨hbusy.mp rfl, fun hnot => hattempt.2 rfl (hwant.symm.trans hnot)⟩
    · obtain ⟨rfl, rfl⟩ := Prod.mk.inj h
      exact .served connection hopen hprimary.attempts
  · obtain ⟨rfl, rfl⟩ := Prod.mk.inj h
    exact .served connection hopen hattempt.1.attempts

theorem enqueue_perm (waiter : ConnectionWaiter) (queue : List ConnectionWaiter) :
    (enqueue waiter queue).Perm (waiter :: queue) := by
  induction queue with
  | nil => exact .refl _
  | cons successor successors ih =>
      unfold enqueue
      split
      · exact .refl _
      · exact (ih.cons successor).trans (.swap _ _ _)

end Requests

section Returning

@[simp] theorem markStatus_fst (status : AcquiredConnectionStatus)
    (entry : Connection × AcquiredConnectionStatus) :
    (markStatus status entry).1 = entry.1 := by
  unfold markStatus
  split <;> rfl

theorem reconfigureConnection_eq_some {configuration : Configuration}
    {connection reconfigured : Connection}
    (h : reconfigureConnection env configuration connection = some reconfigured) :
    reconfigured = { connection with
      configuration := configuration, onlyAllowReadOnlyOperations := false } := by
  unfold reconfigureConnection at h
  split at h
  · cases h
  · exact (Option.some.inj h).symm

theorem head?_toList_reconfigureEach (configuration : Configuration)
    (connection : Option Connection) :
    (reconfigureEach env configuration connection.toList).1.head?.toList =
      (reconfigureEach env configuration connection.toList).1 := by
  rcases connection with _ | connection
  · rfl
  · rcases hone : reconfigureConnection env configuration connection with _ | reconfigured
    · simp [reconfigureEach, hone]
    · simp [reconfigureEach, hone]

variable {pool after base : Pool} {connection : Connection} {status : AcquiredConnectionStatus}

theorem eraseP_append_cons {α : Type} {p : α → Bool} {before others : List α} {item : α}
    (hbefore : ∀ other ∈ before, ¬ p other = true) (hitem : p item = true) :
    (before ++ item :: others).eraseP p = before ++ others := by
  rw [List.eraseP_append_right _ hbefore, List.eraseP_cons_of_pos hitem]

structure Recycled (pool : Pool) (connection : Connection) (status : AcquiredConnectionStatus)
    (same : Connection) : Prop where
  connectionId : same.connectionId = connection.connectionId
  isPrimaryConnection : same.isPrimaryConnection = connection.isPrimaryConnection
  not_discard : status ≠ .discard
  configuration : status = .reconfigure → same.configuration = pool.configuration
  unchanged : status = .normal → same = connection

theorem recycleConnection_cases {recycled : Option Connection}
    (h : pool.recycleConnection env connection status = (after, recycled)) :
    (recycled = none ∧ after = pool.closeConnections env [connection] ∧ status ≠ .normal) ∨
      ∃ same, recycled = some same ∧ after = pool ∧ Recycled pool connection status same := by
  unfold recycleConnection at h
  rcases status with _ | _ | _
  · obtain ⟨rfl, rfl⟩ := Prod.mk.inj h
    exact .inr ⟨connection, rfl, rfl, rfl, rfl, nofun, nofun, fun _ => rfl⟩
  · rcases hone : reconfigureConnection env pool.configuration connection with _ | same
    · simp only [hone, Prod.mk.injEq] at h
      obtain ⟨rfl, rfl⟩ := h
      exact .inl ⟨rfl, rfl, nofun⟩
    · simp only [hone, Prod.mk.injEq] at h
      obtain ⟨rfl, rfl⟩ := h
      obtain rfl := reconfigureConnection_eq_some hone
      exact .inr ⟨_, rfl, rfl, rfl, rfl, nofun, fun _ => rfl, nofun⟩
  · obtain ⟨rfl, rfl⟩ := Prod.mk.inj h
    exact .inl ⟨rfl, rfl, nofun⟩

/-- The pool between the removal of an entry from the acquired connections and the wake;
the last argument tells whether waiters are woken. -/
inductive Returned (env : Environment) :
    Pool → Connection × AcquiredConnectionStatus → Pool → Bool → Prop
  | closedPool {base : Pool} {entry} :
      base.isOpen = false → Returned env base entry (base.closeConnections env [entry.1]) false
  | retired {base : Pool} {entry : Connection × AcquiredConnectionStatus} :
      base.isOpen = true → entry.2 ≠ .normal →
        Returned env base entry (base.closeConnections env [entry.1]) true
  | overflow {base : Pool} {entry : Connection × AcquiredConnectionStatus} :
      base.isOpen = true → entry.1.isPrimaryConnection = false →
      base.maxConnectionPoolSize - 1 ≤ base.availableNonPrimaryConnections.length →
        Returned env base entry (base.closeConnections env [entry.1]) false
  | primary {base : Pool} {entry : Connection × AcquiredConnectionStatus} (same : Connection) :
      base.isOpen = true → entry.1.isPrimaryConnection = true →
      Recycled base entry.1 entry.2 same →
        Returned env base entry { base with availablePrimaryConnection := some same } true
  | nonPrimary {base : Pool} {entry : Connection × AcquiredConnectionStatus} (same : Connection) :
      base.isOpen = true → entry.1.isPrimaryConnection = false →
      base.availableNonPrimaryConnections.length < base.maxConnectionPoolSize - 1 →
      Recycled base entry.1 entry.2 same →
        Returned env base entry { base with
          availableNonPrimaryConnections := base.availableNonPrimaryConnections ++ [same] } true

def wakeIf (env : Environment) (pool : Pool) : Bool → Pool × List ConnectionWaiter
  | true => pool.wakeConnectionWaiters env
  | false => (pool, [])

def answerAfter (env : Environment) (between : Pool) (wakes : Bool) :
    Pool × Except PoolException (List ConnectionWaiter) :=
  ((wakeIf env between wakes).1, .ok (wakeIf env between wakes).2)

theorem releaseConnection_cases {answer : Pool × Except PoolException (List ConnectionWaiter)}
    (h : pool.releaseConnection env connection = answer) :
    (answer = (pool, .error .notAcquired) ∧
        ∀ entry ∈ pool.acquiredConnections, entry.1.connectionId ≠ connection.connectionId) ∨
      ∃ before entry others between wakes,
        pool.acquiredConnections = before ++ entry :: others ∧
        entry.1.connectionId = connection.connectionId ∧
        (∀ other ∈ before, other.1.connectionId ≠ connection.connectionId) ∧
        Returned env { pool with acquiredConnections := before ++ others } entry between wakes ∧
        answer = answerAfter env between wakes := by
  unfold releaseConnection at h
  rcases hfind : pool.acquiredConnections.find? (fun entry =>
      entry.1.connectionId == connection.connectionId) with _ | ⟨found, status⟩
  · simp only [hfind] at h
    refine .inl ⟨h.symm, fun entry hentry => ?_⟩
    simpa using List.find?_eq_none.mp hfind entry hentry
  · simp only [hfind] at h
    obtain ⟨hid, before, others, hsplit, hbefore⟩ := List.find?_eq_some_iff_append.mp hfind
    have hother : ∀ other ∈ before, other.1.connectionId ≠ connection.connectionId := by
      simpa using hbefore
    have herase : pool.acquiredConnections.eraseP (fun entry =>
        entry.1.connectionId == connection.connectionId) = before ++ others := by
      rw [hsplit]
      exact eraseP_append_cons (by simpa using hother) hid
    rw [herase] at h
    have hfound : found.connectionId = connection.connectionId := by simpa using hid
    refine .inr ⟨before, (found, status), others, ?_⟩
    split at h
    · rename_i hclosed
      exact ⟨_, false, hsplit, hfound, hother, .closedPool (by simpa using hclosed), h.symm⟩
    rename_i hopen
    have hopen : pool.isOpen = true := by simpa using hopen
    rcases hrecycle : recycleConnection env { pool with acquiredConnections := before ++ others }
      found status with ⟨kept, recycled⟩
    have hcases := recycleConnection_cases hrecycle
    simp only [hrecycle] at h
    split at h
    · rename_i hprimary
      rcases hcases with ⟨rfl, rfl, hstatus⟩ | ⟨same, rfl, rfl, hsame⟩
      · exact ⟨_, true, hsplit, hfound, hother, .retired hopen hstatus, h.symm⟩
      · exact ⟨_, true, hsplit, hfound, hother, .primary same hopen hprimary hsame, h.symm⟩
    rename_i hprimary
    have hprimary : found.isPrimaryConnection = false := by simpa using hprimary
    split at h
    · rename_i hfull
      exact ⟨_, false, hsplit, hfound, hother, .overflow hopen hprimary hfull, h.symm⟩
    · rename_i hroom
      rcases hcases with ⟨rfl, rfl, hstatus⟩ | ⟨same, rfl, rfl, hsame⟩
      · refine ⟨_, true, hsplit, hfound, hother, .retired hopen hstatus, h.symm.trans ?_⟩
        simp [answerAfter, wakeIf, closeConnections]
      · exact ⟨_, true, hsplit, hfound, hother,
          .nonPrimary same hopen hprimary (Nat.lt_of_not_le hroom) hsame, h.symm⟩

end Returning

section Frames

structure SameWaiters (pool after : Pool) : Prop where
  isOpen : after.isOpen = pool.isOpen
  queue : after.connectionWaiterQueue = pool.connectionWaiterQueue
  pooled : after.connectionWaiterPool = pool.connectionWaiterPool
  objects : after.connectionWaiterObjects = pool.connectionWaiterObjects

variable {pool middle after : Pool} {configuration : Configuration}

theorem SameWaiters.refl (pool : Pool) : SameWaiters pool pool :=
  ⟨rfl, rfl, rfl, rfl⟩

theorem SameWaiters.trans (hfirst : SameWaiters pool middle) (hsecond : SameWaiters middle after) :
    SameWaiters pool after :=
  ⟨hsecond.isOpen.trans hfirst.isOpen, hsecond.queue.trans hfirst.queue,
    hsecond.pooled.trans hfirst.pooled, hsecond.objects.trans hfirst.objects⟩

theorem Attempts.sameWaiters {connections : List Connection}
    (h : Attempts pool after connections) : SameWaiters pool after := by
  rw [h.frame]
  exact ⟨rfl, rfl, rfl, rfl⟩

theorem Returned.sameWaiters {entry : Connection × AcquiredConnectionStatus} {wakes : Bool}
    (h : Returned env pool entry after wakes) : SameWaiters pool after := by
  cases h <;> exact ⟨rfl, rfl, rfl, rfl⟩

theorem Returned.acquired {entry : Connection × AcquiredConnectionStatus} {wakes : Bool}
    (h : Returned env pool entry after wakes) :
    after.acquiredConnections = pool.acquiredConnections := by
  cases h <;> rfl

theorem sameWaiters_withoutNonPrimary (env : Environment) (configuration : Configuration) :
    SameWaiters pool (pool.withoutNonPrimary env configuration) := by
  unfold withoutNonPrimary
  split <;> exact ⟨rfl, rfl, rfl, rfl⟩

theorem withoutAvailable_nextConnectionId (configuration : Configuration) :
    (pool.withoutAvailable env configuration).nextConnectionId = pool.nextConnectionId := by
  unfold withoutAvailable
  split <;> rfl

theorem reopen_cases {answer : Pool × Except PoolException Unit}
    (h : pool.reopen env configuration = answer) :
    answer = ({ pool.withoutAvailable env configuration with
        nextConnectionId := pool.nextConnectionId + 1 }, .error .openFailed) ∨
      answer = ({ pool.withoutAvailable env configuration with
        nextConnectionId := pool.nextConnectionId + 1 }.adoptPrimaryConnection env
          ⟨pool.nextConnectionId, true, configuration, false⟩ configuration, .ok ()) := by
  have hnext : (pool.withoutAvailable env configuration).nextConnectionId = pool.nextConnectionId :=
    withoutAvailable_nextConnectionId configuration
  unfold reopen at h
  rcases openConnectionLocked_cases (rfl : (pool.withoutAvailable env
    configuration).openConnectionLocked env configuration true = _) with hopened | hopened
  · rw [hopened, hnext] at h
    exact .inl h.symm
  · rw [hopened, hnext] at h
    exact .inr h.symm

theorem sameWaiters_adoptPrimaryConnection {connection : Connection} :
    SameWaiters pool (pool.adoptPrimaryConnection env connection configuration) := by
  have hclosed : SameWaiters pool (pool.closeAvailableConnections env) := ⟨rfl, rfl, rfl, rfl⟩
  unfold adoptPrimaryConnection
  refine hclosed.trans ?_
  generalize pool.closeAvailableConnections env = closed
  exact ⟨rfl, rfl, rfl, rfl⟩

theorem sameWaiters_withoutAvailable (env : Environment) (configuration : Configuration) :
    SameWaiters pool (pool.withoutAvailable env configuration) := by
  unfold withoutAvailable
  split <;> exact ⟨rfl, rfl, rfl, rfl⟩

theorem sameWaiters_closeExcessConnectionsFrom (availableCount : Nat) :
    SameWaiters pool (closeExcessConnectionsFrom env availableCount pool) := by
  induction availableCount generalizing pool with
  | zero => exact .refl pool
  | succ availableCount ih =>
      rw [closeExcessConnectionsFrom]
      split
      · refine SameWaiters.trans ?_ ih
        exact ⟨rfl, rfl, rfl, rfl⟩
      · exact .refl pool

theorem sameWaiters_reconfigureInPlace :
    SameWaiters pool (pool.reconfigureInPlace env configuration) := by
  unfold reconfigureInPlace closeExcessConnections
  refine SameWaiters.trans ?_ (SameWaiters.trans (sameWaiters_closeExcessConnectionsFrom _)
    ⟨rfl, rfl, rfl, rfl⟩)
  exact ⟨rfl, rfl, rfl, rfl⟩

end Frames

section Reconfiguring

variable {pool : Pool} {configuration : Configuration}

theorem withoutNonPrimary_cases (configuration : Configuration) :
    (pool.walModeChanged configuration = false ∧ pool.withoutNonPrimary env configuration = pool) ∨
      (pool.walModeChanged configuration = true ∧
        pool.withoutNonPrimary env configuration =
          (pool.closeAvailableNonPrimaryConnections env)) := by
  unfold withoutNonPrimary
  rcases pool.walModeChanged configuration with _ | _
  · exact .inl ⟨rfl, rfl⟩
  · exact .inr ⟨rfl, rfl⟩

theorem close_cases {answer : Pool × Except PoolException (List ConnectionWaiter)}
    (h : pool.close env = answer) :
    answer = (pool, .error .closed) ∨ pool.isOpen = true ∧
      answer =
        answerAfter env ({ pool with isOpen := false }.closeAvailableConnections env) true := by
  unfold close at h
  split at h
  · exact .inl h.symm
  · rename_i hopen
    exact .inr ⟨by simpa using hopen, h.symm⟩

theorem applyConfiguration_cases {answer : Pool × Except PoolException (List ConnectionWaiter)}
    (h : pool.applyConfiguration env configuration = answer) :
    (∃ after failure, pool.reopen env configuration = (after, .error failure) ∧
        answer = (after, .error failure)) ∨
      ∃ between, answer = answerAfter env between true ∧
        (pool.reopen env configuration = (between, .ok ()) ∨
          pool.configuration.openFlags = configuration.openFlags ∧
            between = pool.reconfigureInPlace env configuration) := by
  unfold applyConfiguration at h
  by_cases hflags : pool.configuration.openFlags = configuration.openFlags
  · rw [if_neg (not_not.mpr hflags)] at h
    exact .inr ⟨_, h.symm, .inr ⟨hflags, rfl⟩⟩
  · rw [if_pos hflags] at h
    rcases hreopen : pool.reopen env configuration with ⟨after, failure | _⟩
    · rw [hreopen] at h
      exact .inl ⟨after, failure, rfl, h.symm⟩
    · rw [hreopen] at h
      exact .inr ⟨after, h.symm, .inl rfl⟩

/-- `reconfigure` either refuses and leaves the pool alone or applies the configuration;
when the WAL mode changes, no connection is lent then. -/
theorem reconfigure_cases {answer : Pool × Except PoolException (List ConnectionWaiter)}
    (h : pool.reconfigure env configuration = answer) :
    (∃ failure, answer = (pool, .error failure)) ∨
      pool.isOpen = true ∧
      (pool.walModeChanged configuration = true → pool.acquiredConnections = []) ∧
      (pool.withoutNonPrimary env configuration).applyConfiguration env configuration = answer := by
  unfold reconfigure at h
  split at h
  · exact .inl ⟨_, h.symm⟩
  rename_i hopen
  split at h
  · exact .inl ⟨_, h.symm⟩
  rename_i hwal
  have hlent : pool.walModeChanged configuration = true → pool.acquiredConnections = [] := by
    intro hchanged
    simpa [hchanged] using hwal
  dsimp only at h
  split at h
  · rename_i hforeign
    rcases (withoutNonPrimary_cases configuration :
      (pool.walModeChanged configuration = false ∧ _) ∨ _) with
      ⟨-, hsame⟩ | ⟨hchanged, hclosed⟩
    · rw [hsame] at h
      exact .inl ⟨_, h.symm⟩
    · rw [hclosed] at hforeign
      have hempty : (pool.closeAvailableNonPrimaryConnections env).acquiredConnections = [] :=
        hlent hchanged
      rw [hempty] at hforeign
      exact absurd hforeign.2 nofun
  · exact .inr ⟨by simpa using hopen, hlent, h⟩

end Reconfiguring

end LSTAndroid.ConnectionPool
