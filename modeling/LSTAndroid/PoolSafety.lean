import LSTAndroid.PoolSteps

namespace LSTAndroid.PoolSystem

open LSTAndroid.ConnectionPool
open LSTAndroid.ConnectionPool.Pool

variable {env : Environment}

def livePrimary (entry : Connection × AcquiredConnectionStatus) : Bool :=
  entry.1.isPrimaryConnection && entry.2 != .discard

def liveNonPrimary (entry : Connection × AcquiredConnectionStatus) : Bool :=
  !entry.1.isPrimaryConnection && entry.2 != .discard

/-- The connections that will not be closed when they come back. -/
structure Sound (pool : Pool) : Prop where
  primary : ∀ connection, pool.availablePrimaryConnection = some connection →
    connection.isPrimaryConnection = true ∧ connection.configuration = pool.configuration
  nonPrimary : ∀ connection ∈ pool.availableNonPrimaryConnections,
    connection.isPrimaryConnection = false ∧ connection.configuration = pool.configuration
  normal : ∀ entry ∈ pool.acquiredConnections, entry.2 = .normal →
    entry.1.configuration = pool.configuration
  onePrimary : pool.availablePrimaryConnection.toList.length +
    pool.acquiredConnections.countP livePrimary ≤ 1
  size : pool.availableNonPrimaryConnections.length +
    pool.acquiredConnections.countP liveNonPrimary ≤ pool.maxConnectionPoolSize
  room : pool.availableNonPrimaryConnections.length ≤ pool.maxConnectionPoolSize - 1
  max : pool.maxConnectionPoolSize = connectionPoolSize pool.hasCodec pool.configuration
  closed : pool.isOpen = false →
    pool.availablePrimaryConnection = none ∧ pool.availableNonPrimaryConnections = [] ∧
      pool.connectionWaiterQueue = []

section Blocks

variable {pool after : Pool} {connections : List Connection}
variable {answer : Except PoolException (Option Connection)}

theorem countP_livePrimary_eq_zero (h : ¬ pool.hasAcquiredPrimary) :
    pool.acquiredConnections.countP livePrimary = 0 := by
  rw [List.countP_eq_zero]
  intro entry hentry hlive
  simp only [livePrimary, Bool.and_eq_true] at hlive
  exact h ⟨entry, hentry, hlive.1⟩

theorem normal_cons {configuration : Configuration} {connection : Connection}
    {connectionFlags : BitVec 32} {entries : List (Connection × AcquiredConnectionStatus)}
    (hconnection : connection.configuration = configuration)
    (hnormal : ∀ entry ∈ entries, entry.2 = .normal → entry.1.configuration = configuration) :
    ∀ entry ∈ (connection.withFlags connectionFlags, .normal) :: entries,
      entry.2 = .normal → entry.1.configuration = configuration := by
  intro entry hentry hstatus
  rcases List.mem_cons.mp hentry with rfl | hentry
  · exact hconnection
  · exact hnormal entry hentry hstatus

@[simp] theorem livePrimary_withFlags (connection : Connection) (connectionFlags : BitVec 32) :
    livePrimary (connection.withFlags connectionFlags, .normal) =
      connection.isPrimaryConnection := by
  simp [livePrimary]

@[simp] theorem liveNonPrimary_withFlags (connection : Connection)
    (connectionFlags : BitVec 32) :
    liveNonPrimary (connection.withFlags connectionFlags, .normal) =
      !connection.isPrimaryConnection := by
  simp [liveNonPrimary]

theorem sound_of_attempt (h : Attempt pool after answer) (hopen : pool.isOpen = true)
    (hsound : Sound pool) : Sound after := by
  obtain ⟨hprimary, hnonPrimary, hnormal, hone, hsize, hroom, hmax, -⟩ := hsound
  have hclosed : ∀ {P : Prop}, pool.isOpen = false → P :=
    fun hclosed => absurd (hopen.symm.trans hclosed) nofun
  cases h with
  | @primary connection connectionFlags hsome =>
      obtain ⟨hkind, hconfiguration⟩ := hprimary connection hsome
      refine ⟨nofun, hnonPrimary, normal_cons hconfiguration hnormal, ?_, ?_, hroom, hmax, hclosed⟩
      · simp only [hsome, Option.toList_some, List.length_singleton] at hone
        simp only [Option.toList_none, List.length_nil, List.countP_cons, livePrimary_withFlags,
          hkind, if_true]
        omega
      · simpa [List.countP_cons, hkind] using hsize
  | @nonPrimary connection before others connectionFlags hsplit =>
      obtain ⟨hkind, hconfiguration⟩ := hnonPrimary connection (by simp [hsplit])
      simp only [hsplit, List.length_append, List.length_cons] at hsize hroom
      refine ⟨hprimary, fun other hmem => hnonPrimary other ?_, normal_cons hconfiguration hnormal,
        ?_, ?_, ?_, hmax, hclosed⟩
      · rw [hsplit]
        simp only [List.mem_append, List.mem_cons] at hmem ⊢
        tauto
      · simpa [List.countP_cons, hkind] using hone
      · simp only [List.length_append, List.countP_cons, liveNonPrimary_withFlags, hkind,
          Bool.not_false, if_true]
        omega
      · simp only [List.length_append]
        omega
  | @opened connection connectionFlags hid hconfiguration hopened hfull =>
      refine ⟨hprimary, hnonPrimary, normal_cons hconfiguration hnormal, ?_, ?_, hroom, hmax,
        hclosed⟩
      · rcases hkind : connection.isPrimaryConnection with _ | _
        · simpa [List.countP_cons, hkind] using hone
        · obtain ⟨hnone, hacquired⟩ := hopened hkind
          simp [hkind, hnone, countP_livePrimary_eq_zero hacquired]
      · rcases hkind : connection.isPrimaryConnection with _ | _
        · obtain ⟨hempty, hroom⟩ := hfull hkind
          have hle := pool.acquiredConnections.countP_le_length (p := liveNonPrimary)
          simp only [openConnections] at hroom
          simp only [List.countP_cons, liveNonPrimary_withFlags, hkind, hempty, List.length_nil,
            Bool.not_false, if_true]
          omega
        · simpa [List.countP_cons, hkind] using hsize
  | failed => exact ⟨hprimary, hnonPrimary, hnormal, hone, hsize, hroom, hmax, hclosed⟩
  | nothing => exact ⟨hprimary, hnonPrimary, hnormal, hone, hsize, hroom, hmax, hclosed⟩

theorem sound_of_attempts (h : Attempts pool after connections) (hopen : pool.isOpen = true)
    (hsound : Sound pool) : Sound after := by
  have hkeep : after.isOpen = true ∧ Sound after :=
    h.keep (P := fun pool => pool.isOpen = true ∧ Sound pool)
      (fun hattempt hpool => ⟨by rw [hattempt.frame]; exact hpool.1,
        sound_of_attempt hattempt hpool.1 hpool.2⟩) ⟨hopen, hsound⟩
  exact hkeep.2

theorem Sound.with_queue {queue : List ConnectionWaiter} (hsound : Sound pool)
    (hqueue : pool.isOpen = false → queue = []) :
    Sound { pool with connectionWaiterQueue := queue } :=
  ⟨hsound.primary, hsound.nonPrimary, hsound.normal, hsound.onePrimary, hsound.size, hsound.room,
    hsound.max, fun hclosed => ⟨(hsound.closed hclosed).1, (hsound.closed hclosed).2.1,
      hqueue hclosed⟩⟩

theorem sound_wakeConnectionWaiters
    (hqueue : ∀ waiter ∈ pool.connectionWaiterQueue, waiter.Unanswered)
    (hsound : Sound { pool with connectionWaiterQueue := [] }) :
    Sound (pool.wakeConnectionWaiters env).1 := by
  rcases hopen : pool.isOpen with _ | _
  · rw [wakeConnectionWaiters_closed hopen]
    exact hsound
  · rcases hwake : pool.wakeConnectionWaiters env with ⟨after, unparked⟩
    obtain ⟨last, hafter, hwoken⟩ := wakeConnectionWaiters_woken hopen hqueue hwake
    have hpool : Sound pool :=
      hsound.with_queue fun hclosed => absurd (hopen.symm.trans hclosed) nofun
    have hlast := sound_of_attempts hwoken.attempts hopen hpool
    have hstill : last.isOpen = true := by
      rw [hwoken.attempts.frame]
      exact hopen
    rw [hafter]
    exact hlast.with_queue fun hclosed => absurd (hstill.symm.trans hclosed) nofun

theorem Sound.with_acquired {entries : List (Connection × AcquiredConnectionStatus)}
    (hsound : Sound pool) (hsublist : entries.Sublist pool.acquiredConnections) :
    Sound { pool with acquiredConnections := entries } := by
  have hlive := hsublist.countP_le (p := livePrimary)
  have hother := hsublist.countP_le (p := liveNonPrimary)
  refine ⟨hsound.primary, hsound.nonPrimary,
    fun entry hentry => hsound.normal entry (hsublist.subset hentry), ?_, ?_, hsound.room,
    hsound.max, hsound.closed⟩
  · exact Nat.le_trans (Nat.add_le_add_left hlive _) hsound.onePrimary
  · exact Nat.le_trans (Nat.add_le_add_left hother _) hsound.size

theorem Sound.closeConnections (env : Environment) (hsound : Sound pool)
    (connections : List Connection) : Sound (pool.closeConnections env connections) :=
  ⟨hsound.primary, hsound.nonPrimary, hsound.normal, hsound.onePrimary, hsound.size, hsound.room,
    hsound.max, hsound.closed⟩

variable {entry : Connection × AcquiredConnectionStatus}
variable {before others : List (Connection × AcquiredConnectionStatus)}

theorem countP_append_cons (p : Connection × AcquiredConnectionStatus → Bool) :
    (before ++ entry :: others).countP p =
      (before ++ others).countP p + if p entry then 1 else 0 := by
  simp only [List.countP_append, List.countP_cons]
  omega

/-- The assertion of `releaseConnection`: no primary connection is available when another
one comes back to stay. -/
theorem Sound.availablePrimaryConnection_eq_none (hsound : Sound pool)
    (hacquired : pool.acquiredConnections = before ++ entry :: others)
    (hprimary : entry.1.isPrimaryConnection = true) (hstatus : entry.2 ≠ .discard) :
    pool.availablePrimaryConnection = none ∧ (before ++ others).countP livePrimary = 0 := by
  have hone := hsound.onePrimary
  have hlive : livePrimary entry = true := by
    simp [livePrimary, hprimary, hstatus]
  rw [hacquired, countP_append_cons, if_pos hlive] at hone
  refine ⟨?_, by omega⟩
  rcases havailable : pool.availablePrimaryConnection with _ | connection
  · rfl
  · rw [havailable, Option.toList_some, List.length_singleton] at hone
    omega

theorem configuration_of_recycled {base : Pool} {same : Connection} (hsound : Sound pool)
    (hentry : entry ∈ pool.acquiredConnections) (h : Recycled base entry.1 entry.2 same)
    (hbase : base.configuration = pool.configuration) :
    same.configuration = pool.configuration := by
  rcases hstatus : entry.2 with _ | _ | _
  · rw [h.unchanged hstatus]
    exact hsound.normal entry hentry hstatus
  · exact (h.configuration hstatus).trans hbase
  · exact absurd hstatus h.not_discard

theorem sound_of_returned {wakes : Bool} (hsound : Sound pool)
    (hacquired : pool.acquiredConnections = before ++ entry :: others)
    (h : Returned env { pool with acquiredConnections := before ++ others } entry after wakes) :
    Sound after := by
  have hentry : entry ∈ pool.acquiredConnections := by simp [hacquired]
  have hsublist : (before ++ others).Sublist pool.acquiredConnections := by
    rw [hacquired]
    exact List.Sublist.append_left (List.sublist_cons_self entry others) before
  have hbase := hsound.with_acquired hsublist
  have hconfiguration : ∀ {same}, Recycled { pool with acquiredConnections := before ++ others }
      entry.1 entry.2 same → same.configuration = pool.configuration :=
    fun hsame => configuration_of_recycled hsound hentry hsame rfl
  cases h with
  | closedPool => exact hbase.closeConnections env _
  | retired => exact hbase.closeConnections env _
  | overflow => exact hbase.closeConnections env _
  | primary same hopen hprimary hsame =>
      obtain ⟨-, hnone⟩ :=
        hsound.availablePrimaryConnection_eq_none hacquired hprimary hsame.not_discard
      refine ⟨?_, hbase.nonPrimary, hbase.normal, ?_, hbase.size, hbase.room, hbase.max,
        fun hclosed => absurd (hopen.symm.trans hclosed) nofun⟩
      · rintro connection ⟨⟩
        exact ⟨hsame.isPrimaryConnection.trans hprimary, hconfiguration hsame⟩
      · simp [hnone]
  | nonPrimary same hopen hprimary hroom hsame =>
      have hsize := hsound.size
      change pool.availableNonPrimaryConnections.length < pool.maxConnectionPoolSize - 1 at hroom
      have hlive : liveNonPrimary entry = true := by
        simp [liveNonPrimary, hprimary, hsame.not_discard]
      rw [hacquired, countP_append_cons, if_pos hlive] at hsize
      refine ⟨hbase.primary, ?_, hbase.normal, hbase.onePrimary, ?_, ?_, hbase.max,
        fun hclosed => absurd (hopen.symm.trans hclosed) nofun⟩
      · intro connection hconnection
        rcases List.mem_append.mp hconnection with hconnection | hconnection
        · exact hbase.nonPrimary connection hconnection
        · obtain rfl := List.mem_singleton.mp hconnection
          exact ⟨hsame.isPrimaryConnection.trans hprimary, hconfiguration hsame⟩
      · rw [List.length_append, List.length_singleton]
        change pool.availableNonPrimaryConnections.length + 1 + (before ++ others).countP
          liveNonPrimary ≤ pool.maxConnectionPoolSize
        omega
      · rw [List.length_append, List.length_singleton]
        exact hroom

theorem Sound.closeAvailableNonPrimaryConnections (env : Environment) (hsound : Sound pool) :
    Sound (pool.closeAvailableNonPrimaryConnections env) := by
  refine ⟨hsound.primary, nofun, hsound.normal, hsound.onePrimary, ?_, ?_, hsound.max,
    fun hclosed => ⟨(hsound.closed hclosed).1, rfl, (hsound.closed hclosed).2.2⟩⟩
  · exact Nat.le_trans (Nat.add_le_add_right (Nat.zero_le _) _) hsound.size
  · exact Nat.zero_le _

theorem Sound.closeAvailableConnections (env : Environment) (hsound : Sound pool) :
    Sound (pool.closeAvailableConnections env) := by
  have hrest := hsound.closeAvailableNonPrimaryConnections env
  refine ⟨nofun, hrest.nonPrimary, hrest.normal, ?_, hrest.size, hrest.room, hrest.max,
    fun hclosed => ⟨rfl, rfl, (hsound.closed hclosed).2.2⟩⟩
  exact Nat.le_trans (Nat.add_le_add_right (Nat.zero_le _) _) hrest.onePrimary

theorem Sound.with_next (hsound : Sound pool) (next : Nat) :
    Sound { pool with nextConnectionId := next } :=
  ⟨hsound.primary, hsound.nonPrimary, hsound.normal, hsound.onePrimary, hsound.size, hsound.room,
    hsound.max, hsound.closed⟩

theorem markStatus_discard (entry : Connection × AcquiredConnectionStatus) :
    (markStatus .discard entry).2 = .discard := by
  unfold markStatus
  split
  · rfl
  · rename_i h
    by_contra hne
    exact h ⟨Ne.symm hne, hne⟩

theorem markStatus_reconfigure_discard (entry : Connection × AcquiredConnectionStatus) :
    (markStatus .reconfigure entry).2 = .discard ↔ entry.2 = .discard := by
  unfold markStatus
  split
  · rename_i h
    exact iff_of_false nofun h.2
  · rfl

theorem markStatus_reconfigure_ne_normal (entry : Connection × AcquiredConnectionStatus) :
    (markStatus .reconfigure entry).2 ≠ .normal := by
  unfold markStatus
  split
  · nofun
  · rename_i h
    rcases hstatus : entry.2 with _ | _ | _
    · exact absurd ⟨by rw [hstatus]; nofun, by rw [hstatus]; nofun⟩ h
    · nofun
    · nofun

theorem countP_markAcquired_discard (pool : Pool) :
    (pool.markAcquiredConnections .discard).acquiredConnections.countP livePrimary = 0 ∧
      (pool.markAcquiredConnections .discard).acquiredConnections.countP liveNonPrimary = 0 := by
  simp [markAcquiredConnections, List.countP_eq_zero, livePrimary, liveNonPrimary,
    markStatus_discard]

theorem countP_markAcquired_reconfigure (pool : Pool) :
    (pool.markAcquiredConnections .reconfigure).acquiredConnections.countP livePrimary =
        pool.acquiredConnections.countP livePrimary ∧
      (pool.markAcquiredConnections .reconfigure).acquiredConnections.countP liveNonPrimary =
        pool.acquiredConnections.countP liveNonPrimary := by
  have hkeep : ∀ entry, ((markStatus .reconfigure entry).2 != .discard) =
      (entry.2 != AcquiredConnectionStatus.discard) := by
    intro entry
    rw [Bool.eq_iff_iff]
    simpa using not_congr (markStatus_reconfigure_discard entry)
  constructor <;>
  · simp only [markAcquiredConnections, List.countP_map]
    refine List.countP_congr fun entry _ => ?_
    simp [livePrimary, liveNonPrimary, hkeep]

theorem Sound.withoutAvailable (env : Environment) (hsound : Sound pool)
    (configuration : Configuration) :
    Sound (pool.withoutAvailable env configuration) := by
  unfold Pool.withoutAvailable
  split
  · exact hsound.closeAvailableConnections env
  · exact hsound

theorem sound_adoptPrimaryConnection {connection : Connection} {configuration : Configuration}
    (hopen : pool.isOpen = true) (hprimary : connection.isPrimaryConnection = true)
    (hconfiguration : connection.configuration = configuration) :
    Sound (pool.adoptPrimaryConnection env connection configuration) := by
  obtain ⟨hlive, hother⟩ := countP_markAcquired_discard pool
  simp only [markAcquiredConnections] at hlive hother
  refine ⟨?_, nofun, ?_, ?_, ?_, Nat.zero_le _, rfl,
    fun hnot => absurd (hopen.symm.trans hnot) nofun⟩
  · rintro other ⟨⟩
    exact ⟨hprimary, hconfiguration⟩
  · intro entry hentry hnormal
    obtain ⟨old, -, rfl⟩ := List.mem_map.mp hentry
    rw [markStatus_discard] at hnormal
    cases hnormal
  · exact Nat.le_of_eq (congrArg (1 + ·) hlive)
  · exact Nat.le_trans (Nat.le_of_eq (congrArg (0 + ·) hother)) (Nat.zero_le _)

theorem walModeChanged_eq_false {configuration : Configuration}
    (hflags : pool.configuration.openFlags = configuration.openFlags) :
    connectionPoolSize pool.hasCodec configuration =
      connectionPoolSize pool.hasCodec pool.configuration := by
  simp [connectionPoolSize, hflags]

/-- There is never anything in excess: the pool size changes with the open flags only. -/
theorem closeExcessConnections_eq
    (hroom : pool.availableNonPrimaryConnections.length ≤ pool.maxConnectionPoolSize - 1) :
    pool.closeExcessConnections env = pool := by
  unfold closeExcessConnections
  rcases hcount : pool.availableNonPrimaryConnections.length with _ | availableCount
  · rfl
  · rw [closeExcessConnectionsFrom, if_neg]
    omega

theorem mem_reconfigureEach {configuration : Configuration} {connection : Connection}
    {connections : List Connection}
    (h : connection ∈ (reconfigureEach env configuration connections).1) :
    connection.configuration = configuration ∧ ∃ old ∈ connections,
      connection.isPrimaryConnection = old.isPrimaryConnection := by
  induction connections with
  | nil => cases h
  | cons first rest ih =>
      rcases hone : reconfigureConnection env configuration first with _ | reconfigured
      · simp only [reconfigureEach, hone] at h
        obtain ⟨hconfiguration, old, hold, hkind⟩ := ih h
        exact ⟨hconfiguration, old, List.mem_cons_of_mem _ hold, hkind⟩
      · simp only [reconfigureEach, hone, List.mem_cons] at h
        rcases h with rfl | h
        · obtain rfl := reconfigureConnection_eq_some hone
          exact ⟨rfl, first, List.mem_cons_self, rfl⟩
        · obtain ⟨hconfiguration, old, hold, hkind⟩ := ih h
          exact ⟨hconfiguration, old, List.mem_cons_of_mem _ hold, hkind⟩

theorem length_reconfigureEach_le (configuration : Configuration)
    (connections : List Connection) :
    (reconfigureEach env configuration connections).1.length ≤ connections.length := by
  induction connections with
  | nil => exact Nat.le_refl _
  | cons first rest ih =>
      rcases hone : reconfigureConnection env configuration first with _ | reconfigured
      · simp only [reconfigureEach, hone, List.length_cons]
        omega
      · simp only [reconfigureEach, hone, List.length_cons]
        omega

theorem sound_of_reconfigureInPlace {configuration : Configuration}
    (hflags : pool.configuration.openFlags = configuration.openFlags)
    (hopen : pool.isOpen = true) (hsound : Sound pool) :
    Sound (pool.reconfigureInPlace env configuration) := by
  have hsame : connectionPoolSize pool.hasCodec configuration = pool.maxConnectionPoolSize :=
    (walModeChanged_eq_false hflags).trans hsound.max.symm
  have hpool : { pool with configuration := configuration }.setMaxConnectionPoolSizeLocked =
      { pool with configuration := configuration } := by
    simp [Pool.setMaxConnectionPoolSizeLocked, hsame]
  have hexcess : { pool with configuration := configuration }.closeExcessConnections env =
      { pool with configuration := configuration } := by
    apply closeExcessConnections_eq
    exact hsound.room
  rw [reconfigureInPlace, hpool, hexcess]
  obtain ⟨hprimary, hnonPrimary⟩ := countP_markAcquired_reconfigure pool
  simp only [markAcquiredConnections] at hprimary hnonPrimary
  have hfirst : (reconfigureEach env configuration
      pool.availablePrimaryConnection.toList).1.length ≤
        pool.availablePrimaryConnection.toList.length := length_reconfigureEach_le _ _
  have hfewer : (reconfigureEach env configuration
      pool.availableNonPrimaryConnections).1.length ≤
        pool.availableNonPrimaryConnections.length := length_reconfigureEach_le _ _
  refine ⟨fun connection hconnection => ?_, fun connection hconnection => ?_, ?_, ?_, ?_, ?_,
    hsame.symm, fun hnot => absurd (hopen.symm.trans hnot) nofun⟩
  · obtain ⟨hconfiguration, old, hold, hkind⟩ :=
      mem_reconfigureEach (List.mem_of_mem_head? hconnection)
    rw [Option.mem_toList] at hold
    exact ⟨hkind.trans (hsound.primary old hold).1, hconfiguration⟩
  · obtain ⟨hconfiguration, old, hold, hkind⟩ := mem_reconfigureEach hconnection
    exact ⟨hkind.trans (hsound.nonPrimary old hold).1, hconfiguration⟩
  · intro entry hentry hnormal
    obtain ⟨old, -, rfl⟩ := List.mem_map.mp hentry
    exact absurd hnormal (markStatus_reconfigure_ne_normal old)
  · refine Nat.le_trans (Nat.add_le_add ?_ (Nat.le_of_eq hprimary)) hsound.onePrimary
    rw [← head?_toList_reconfigureEach] at hfirst
    exact hfirst
  · exact Nat.le_trans (Nat.add_le_add hfewer (Nat.le_of_eq hnonPrimary)) hsound.size
  · exact Nat.le_trans hfewer hsound.room

theorem Sound.withoutNonPrimary (env : Environment) (hsound : Sound pool)
    (configuration : Configuration) :
    Sound (pool.withoutNonPrimary env configuration) := by
  unfold Pool.withoutNonPrimary
  split
  · exact hsound.closeAvailableNonPrimaryConnections env
  · exact hsound

theorem sound_of_reconfigured {configuration : Configuration} {wakes : Bool}
    (hopen : pool.isOpen = true) (hsound : Sound pool)
    (h : Reconfigured env configuration pool after wakes) : Sound after := by
  have hbase := hsound.withoutNonPrimary env configuration
  have hstill := (sameWaiters_withoutNonPrimary env configuration).isOpen.trans hopen
  cases h with
  | failed => exact (hbase.withoutAvailable env configuration).with_next _
  | reopened =>
      refine sound_adoptPrimaryConnection ?_ rfl rfl
      exact (sameWaiters_withoutAvailable env configuration).isOpen.trans hstill
  | inPlace hflags =>
      refine sound_of_reconfigureInPlace ?_ hstill hbase
      have hframe := (withoutNonPrimary_frame env pool configuration).2
      exact (congrArg Configuration.openFlags hframe).trans
        hflags

end Blocks

section Runs

structure PoolInv (pool : Pool) : Prop where
  sound : Sound pool
  unanswered : ∀ waiter ∈ pool.connectionWaiterQueue, waiter.Unanswered

variable {pool after : Pool} {system : System}

theorem PoolInv.wake (hinv : PoolInv pool) : PoolInv (pool.wakeConnectionWaiters env).1 :=
  ⟨sound_wakeConnectionWaiters hinv.unanswered (hinv.sound.with_queue fun _ => rfl),
    fun _ hmem => hinv.unanswered _ (mem_wakeConnectionWaiters hinv.unanswered hmem)⟩

theorem PoolInv.wakeIf (hinv : PoolInv pool) (wakes : Bool) :
    PoolInv (wakeIf env pool wakes).1 := by
  cases wakes with
  | false => exact hinv
  | true => exact hinv.wake

theorem PoolInv.of_sameWaiters (hinv : PoolInv pool) (hsame : SameWaiters pool after)
    (hsound : Sound after) : PoolInv after :=
  ⟨hsound, by rw [hsame.queue]; exact hinv.unanswered⟩

theorem PoolInv.request {now : Nat} {connectionFlags : BitVec 32}
    {answer : Except PoolException (Connection ⊕ ConnectionWaiter)} (hinv : PoolInv pool)
    (h : Requested now connectionFlags pool after answer) : PoolInv after := by
  cases h with
  | closed => exact hinv
  | canceled => exact hinv
  | failed failure hopen hattempts =>
      exact hinv.of_sameWaiters hattempts.sameWaiters (sound_of_attempts hattempts hopen hinv.sound)
  | served connection hopen hattempts =>
      exact hinv.of_sameWaiters hattempts.sameWaiters (sound_of_attempts hattempts hopen hinv.sound)
  | waits waiter hopen hbusy hobtained hpriority hstart =>
      rw [hobtained.frame]
      refine ⟨?_, fun other hother => ?_⟩
      · have hsound := hinv.sound
        exact ⟨hsound.primary, hsound.nonPrimary, hsound.normal, hsound.onePrimary, hsound.size,
          hsound.room, hsound.max, fun hclosed => absurd (hopen.symm.trans hclosed) nofun⟩
      · rcases List.mem_cons.mp ((enqueue_perm _ _).subset hother) with rfl | hother
        · exact hobtained.unanswered
        · exact hinv.unanswered other hother

theorem poolInv_open {hasCodec : Bool} {configuration : Configuration}
    (h : Pool.open? env hasCodec configuration = some pool) : PoolInv pool := by
  obtain rfl := open?_eq_some h
  refine ⟨⟨?_, nofun, nofun, Nat.le_refl _, Nat.zero_le _, Nat.zero_le _, rfl, nofun⟩, nofun⟩
  rintro connection ⟨⟩
  exact ⟨rfl, rfl⟩

theorem PoolInv.with_unlisted (hinv : PoolInv pool)
    {pooled : List (Nat × BitVec 32)} {leaked : Bool} {closed unclosed : List Connection} :
    PoolInv { pool with
      connectionWaiterPool := pooled
      connectionLeaked := leaked
      closedConnections := closed
      unclosedConnections := unclosed } :=
  ⟨⟨hinv.sound.primary, hinv.sound.nonPrimary, hinv.sound.normal, hinv.sound.onePrimary,
    hinv.sound.size, hinv.sound.room, hinv.sound.max, hinv.sound.closed⟩, hinv.unanswered⟩

theorem PoolInv.dequeue {before others : List ConnectionWaiter} {waiter : ConnectionWaiter}
    (hinv : PoolInv pool) (hsplit : pool.connectionWaiterQueue = before ++ waiter :: others) :
    PoolInv { pool with connectionWaiterQueue := before ++ others } := by
  refine ⟨hinv.sound.with_queue fun hclosed => ?_, fun other hother => ?_⟩
  · have hnone := (hinv.sound.closed hclosed).2.2
    rw [hsplit] at hnone
    simp at hnone
  · refine hinv.unanswered other ?_
    rw [hsplit]
    simp only [List.mem_append, List.mem_cons] at hother ⊢
    tauto

theorem poolInv_closed (hsound : Sound pool) :
    PoolInv (wakeIf env ({ pool with isOpen := false }.closeAvailableConnections env) true).1 := by
  have hclosed := hsound.closeAvailableConnections env
  rw [wakeIf, wakeConnectionWaiters_closed rfl]
  exact ⟨⟨hclosed.primary, hclosed.nonPrimary, hclosed.normal, hclosed.onePrimary, hclosed.size,
    hclosed.room, hclosed.max, fun _ => ⟨rfl, rfl, rfl⟩⟩,
    fun _ hmem => absurd hmem List.not_mem_nil⟩

theorem poolInv_step (event : Event) (hinv : PoolInv system.pool) :
    PoolInv (system.step env event).1.pool := by
  cases event with
  | tick elapsed => exact hinv
  | acquireConnection thread sql connectionFlags canceled =>
      obtain ⟨pool, answer, hrequested, hstep⟩ :=
        step_acquireConnection env system thread sql connectionFlags canceled
      rw [hstep]
      exact hinv.request hrequested
  | poll object nonce =>
      rcases step_poll env system object nonce with
        hstep | ⟨waiter, before, others, -, -, -, ⟨-, hstep⟩ | ⟨-, -, hstep⟩⟩
      · rw [hstep]
        exact hinv
      · rw [hstep]
        exact hinv
      · rw [hstep]
        exact hinv.with_unlisted
  | cancel object nonce =>
      rcases step_cancel env system object nonce with
        hstep | ⟨waiter, before, others, -, hsplit, hstep⟩
      · rw [hstep]
        exact hinv
      · rw [hstep]
        exact (hinv.dequeue hsplit).wake
  | releaseConnection connection =>
      rcases step_releaseConnection env system connection with
        ⟨hstep, -⟩ | ⟨before, entry, others, between, wakes, hacquired, -, hreturned, hstep⟩
      · rw [hstep]
        exact hinv
      · rw [hstep]
        have hremoved : SameWaiters system.pool
            { system.pool with acquiredConnections := before ++ others } := ⟨rfl, rfl, rfl, rfl⟩
        exact (hinv.of_sameWaiters (hremoved.trans hreturned.sameWaiters)
          (sound_of_returned hinv.sound hacquired hreturned)).wakeIf wakes
  | drop connection => exact hinv
  | collect connection =>
      exact ⟨hinv.sound.with_acquired List.eraseP_sublist, hinv.unanswered⟩
  | finalize connection =>
      obtain ⟨closed, unclosed, collected, leftOpen, hstep⟩ := step_finalize env system connection
      rw [hstep]
      exact hinv.with_unlisted
  | testLeaked =>
      simp only [System.step, System.testLeaked]
      split
      · exact hinv.with_unlisted
      · exact hinv
  | wakeForLeak =>
      rcases step_wakeForLeak env system with hstep | ⟨pendingWakes, -, hstep⟩
      · rw [hstep]
        exact hinv
      · rw [hstep]
        exact hinv.wake
  | reconfigure configuration =>
      rcases step_reconfigure env system configuration with
        hstep | ⟨hopen, -, between, wakes, hreconfigured, hstep⟩
      · rw [hstep]
        exact hinv
      · rw [hstep]
        exact (hinv.of_sameWaiters hreconfigured.sameWaiters
          (sound_of_reconfigured hopen hinv.sound hreconfigured)).wakeIf wakes
  | close =>
      rcases step_close env system with hstep | ⟨hopen, hstep⟩
      · rw [hstep]
        exact hinv
      · rw [hstep]
        exact poolInv_closed hinv.sound

theorem Reachable.poolInv (h : Reachable system) : PoolInv system.pool :=
  h.invariant (P := fun system => PoolInv system.pool) poolInv_open
    fun _ _ event hinv _ => poolInv_step event hinv

/-- There is one primary connection at most, and no more others than the pool may have. -/
theorem Reachable.connections_bounded (h : Reachable system) :
    system.pool.availablePrimaryConnection.toList.length +
        system.pool.acquiredConnections.countP livePrimary ≤ 1 ∧
      system.pool.availableNonPrimaryConnections.length +
        system.pool.acquiredConnections.countP liveNonPrimary ≤
          connectionPoolSize system.pool.hasCodec system.pool.configuration := by
  have hsound := h.poolInv.sound
  refine ⟨hsound.onePrimary, ?_⟩
  rw [← hsound.max]
  exact hsound.size

theorem crowded_bounded :
    crowded.pool.availablePrimaryConnection.toList.length +
        crowded.pool.acquiredConnections.countP livePrimary ≤ 1 ∧
      crowded.pool.availableNonPrimaryConnections.length +
        crowded.pool.acquiredConnections.countP liveNonPrimary ≤
          connectionPoolSize crowded.pool.hasCodec crowded.pool.configuration :=
  reachable_crowded.connections_bounded

/-- What is idle, and what is lent and not marked, follows the configuration of the pool. -/
theorem Reachable.configuration_current (h : Reachable system) :
    (∀ connection ∈ system.pool.availablePrimaryConnection.toList ++
        system.pool.availableNonPrimaryConnections,
      connection.configuration = system.pool.configuration) ∧
    ∀ entry ∈ system.pool.acquiredConnections, entry.2 = .normal →
      entry.1.configuration = system.pool.configuration := by
  have hsound := h.poolInv.sound
  refine ⟨fun connection hconnection => ?_, hsound.normal⟩
  rcases List.mem_append.mp hconnection with hconnection | hconnection
  · exact (hsound.primary connection (Option.mem_toList.mp hconnection)).2
  · exact (hsound.nonPrimary connection hconnection).2

theorem crowded_current :
    (∀ connection ∈ crowded.pool.availablePrimaryConnection.toList ++
        crowded.pool.availableNonPrimaryConnections,
      connection.configuration = crowded.pool.configuration) ∧
    ∀ entry ∈ crowded.pool.acquiredConnections, entry.2 = .normal →
      entry.1.configuration = crowded.pool.configuration :=
  reachable_crowded.configuration_current

end Runs

end LSTAndroid.PoolSystem
