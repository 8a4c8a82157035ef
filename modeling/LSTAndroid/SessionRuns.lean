import LSTAndroid.SQLiteSession

namespace LSTAndroid.SQLiteSession

open LSTAndroid.ConnectionPool
open LSTAndroid.Library.NestedTransactions

variable {D : Type} {state after : State D} {answers later : Answers D} {inUse : Nat}

/-- The calls of the pool alternate, each one gives back what the one before has got, and
the session still has what it has got last. -/
def Alternates : List PoolCall → Option Connection → Prop
  | [], held => held = none
  | .acquired connection :: calls, held => held = some connection ∧ Alternates calls none
  | .released connection :: calls, held => held = none ∧ Alternates calls (some connection)

/-- The session uses its connection so many times, and has one only then. -/
structure Sane (inUse : Nat) (state : State D) : Prop where
  useCount : state.session.connectionUseCount = inUse
  held : state.session.connection = none ↔ inUse = 0
  poolCalls : Alternates state.poolCalls state.session.connection
  marked : ∀ transaction ∈ state.session.transactionStack.tail,
    transaction.markedSuccessful = false

def State.uses (state : State D) : Nat :=
  state.statements + if state.session.transactionStack.isEmpty then 0 else 1

section Frames

@[simp] theorem pushTransaction_connection (session : Session) (mode : Int)
    (listener : Option Nat) : (session.pushTransaction mode listener).connection =
      session.connection := by
  unfold Session.pushTransaction
  split <;> rfl

@[simp] theorem pushTransaction_connectionFlags (session : Session) (mode : Int)
    (listener : Option Nat) : (session.pushTransaction mode listener).connectionFlags =
      session.connectionFlags := by
  unfold Session.pushTransaction
  split <;> rfl

@[simp] theorem pushTransaction_connectionUseCount (session : Session) (mode : Int)
    (listener : Option Nat) : (session.pushTransaction mode listener).connectionUseCount =
      session.connectionUseCount := by
  unfold Session.pushTransaction
  split <;> rfl

@[simp] theorem pushTransaction_transactionStack (session : Session) (mode : Int)
    (listener : Option Nat) : (session.pushTransaction mode listener).transactionStack =
      ⟨mode, listener, false, false⟩ :: session.transactionStack := by
  unfold Session.pushTransaction
  split <;> rfl

@[simp] theorem releaseConnection_store (state : State D) :
    state.releaseConnection.store = state.store := by
  unfold State.releaseConnection
  dsimp only
  split <;> rfl

@[simp] theorem releaseConnection_statements (state : State D) :
    state.releaseConnection.statements = state.statements := by
  unfold State.releaseConnection
  dsimp only
  split <;> rfl

@[simp] theorem releaseConnection_transactionStack (state : State D) :
    state.releaseConnection.session.transactionStack = state.session.transactionStack := by
  unfold State.releaseConnection
  dsimp only
  split <;> rfl

@[simp] theorem acquireConnection_store (answers : Answers D) (connectionFlags : BitVec 32)
    (state : State D) :
    (state.acquireConnection answers connectionFlags).1.store = state.store := by
  unfold State.acquireConnection
  dsimp only
  split
  · rfl
  · split <;> rfl

@[simp] theorem acquireConnection_transactionStack (answers : Answers D)
    (connectionFlags : BitVec 32) (state : State D) :
    (state.acquireConnection answers connectionFlags).1.session.transactionStack =
      state.session.transactionStack := by
  unfold State.acquireConnection
  dsimp only
  split
  · rfl
  · split <;> rfl

theorem execute_frame (statement : Nat → Store D → Store D × Bool) (state : State D) :
    (state.execute statement).1 = { state with store := (state.execute statement).1.store } := by
  unfold State.execute
  split <;> rfl

theorem listen_frame (answers : Answers D) (listener : Option Nat) (state : State D) :
    state.listen answers listener =
      { state with store := (state.listen answers listener).store } := by
  unfold State.listen
  split
  · exact execute_frame _ state
  · rfl

@[simp] theorem listen_session (answers : Answers D) (listener : Option Nat) (state : State D) :
    (state.listen answers listener).session = state.session := by
  rw [listen_frame]

@[simp] theorem listen_statements (answers : Answers D) (listener : Option Nat)
    (state : State D) : (state.listen answers listener).statements = state.statements := by
  rw [listen_frame]

theorem execute_some {connection : Connection} (statement : Nat → Store D → Store D × Bool)
    (hconnection : state.session.connection = some connection) :
    state.execute statement =
      ({ state with store := (statement connection.connectionId state.store).1 },
        (statement connection.connectionId state.store).2) := by
  simp [State.execute, hconnection]

@[simp] theorem execute_session (statement : Nat → Store D → Store D × Bool) (state : State D) :
    (state.execute statement).1.session = state.session := by
  rw [execute_frame]

@[simp] theorem finishStatement_transactionStack (effect : Effect D) (state : State D) :
    (state.finishStatement effect).session.transactionStack = state.session.transactionStack := by
  have hsession := execute_session (fun owner store => (store.run effect owner, true)) state
  unfold State.finishStatement
  rw [releaseConnection_transactionStack, hsession]

theorem startStatement_other (answers : Answers D) (connectionFlags : BitVec 32)
    (state : State D) :
    (state.startStatement answers .other connectionFlags).1.store = state.store ∧
      (state.startStatement answers .other connectionFlags).1.session.transactionStack =
        state.session.transactionStack := by
  have hstore := acquireConnection_store answers connectionFlags state
  have hstack := acquireConnection_transactionStack answers connectionFlags state
  unfold State.startStatement State.executeSpecial
  split
  · rename_i heq
    split at heq
    · cases (Prod.mk.inj heq).2
    obtain ⟨rfl, -⟩ := Prod.mk.inj heq
    split
    · rename_i hacquire
      rw [hacquire] at hstore hstack
      exact ⟨hstore, hstack⟩
    · rename_i hacquire
      rw [hacquire] at hstore hstack
      exact ⟨hstore, hstack⟩
  · split
    · exact ⟨rfl, rfl⟩
    · exact ⟨rfl, rfl⟩

end Frames

section Uses

theorem sane_start (data : D) : Sane 0 (State.start data) :=
  ⟨rfl, iff_of_true rfl rfl, rfl, nofun⟩

theorem Sane.execute (hsane : Sane inUse state) (statement : Nat → Store D → Store D × Bool) :
    Sane inUse (state.execute statement).1 := by
  rw [execute_frame]
  exact ⟨hsane.useCount, hsane.held, hsane.poolCalls, hsane.marked⟩

theorem Sane.listen (hsane : Sane inUse state) (answers : Answers D) (listener : Option Nat) :
    Sane inUse (state.listen answers listener) := by
  rw [listen_frame]
  exact ⟨hsane.useCount, hsane.held, hsane.poolCalls, hsane.marked⟩

theorem Sane.releaseConnection (hsane : Sane (inUse + 1) state) :
    Sane inUse state.releaseConnection := by
  obtain ⟨hcount, hheld, hcalls, hmarked⟩ := hsane
  rcases hconnection : state.session.connection with _ | connection
  · exact absurd (hheld.mp hconnection) (Nat.succ_ne_zero _)
  · rw [hconnection] at hcalls
    unfold State.releaseConnection
    rw [hcount, hconnection]
    dsimp only
    split
    · rename_i hzero
      have huses : inUse = 0 := by omega
      exact ⟨hzero.trans huses.symm, iff_of_true rfl huses, ⟨rfl, hcalls⟩, hmarked⟩
    · rename_i hpos
      refine ⟨by simp, iff_of_false ?_ (by omega), ?_, hmarked⟩
      · simp [hconnection]
      · dsimp only
        rw [hconnection]
        exact hcalls

/-- The session gets a connection or keeps the one it has; else nothing changes. -/
theorem acquireConnection_cases {connectionFlags : BitVec 32}
    {answer : Except SessionException Unit} (hsane : Sane inUse state)
    (h : state.acquireConnection answers connectionFlags = (after, answer)) :
    (∃ failure, answer = .error failure ∧ after = state) ∨
      answer = .ok () ∧ Sane (inUse + 1) after ∧ after.store = state.store ∧
        after.statements = state.statements ∧
        after.session.transactionStack = state.session.transactionStack ∧
        (∃ connection, after.session.connection = some connection ∧
          (state.session.connection = some connection ∨
            state.session.connection = none ∧ answers.acquired = .ok connection)) := by
  obtain ⟨hcount, hheld, hcalls, hmarked⟩ := hsane
  unfold State.acquireConnection at h
  rw [hcount] at h
  dsimp only at h
  split at h
  · rename_i connection hconnection
    obtain ⟨rfl, rfl⟩ := Prod.mk.inj h
    refine .inr ⟨rfl, ⟨rfl, ?_, hcalls, hmarked⟩, rfl, rfl, rfl, connection, hconnection,
      .inl hconnection⟩
    exact iff_of_false (by simp [hconnection]) (Nat.succ_ne_zero _)
  · rename_i hnone
    split at h
    · rename_i failure hfailed
      obtain ⟨rfl, rfl⟩ := Prod.mk.inj h
      exact .inl ⟨_, rfl, rfl⟩
    · rename_i connection hacquired
      obtain ⟨rfl, rfl⟩ := Prod.mk.inj h
      rw [hnone] at hcalls
      refine .inr ⟨rfl, ⟨rfl, ?_, ⟨rfl, hcalls⟩, hmarked⟩, rfl, rfl, rfl, connection, rfl,
        .inr ⟨hnone, hacquired⟩⟩
      exact iff_of_false nofun (Nat.succ_ne_zero _)

end Uses

section Steps

variable {answer : Except SessionException Unit}

theorem Sane.uses_of_empty (hsane : Sane state.uses state)
    (hstack : state.session.transactionStack = []) : Sane state.statements state := by
  simpa [State.uses, hstack] using hsane

theorem Sane.uses_of_cons {top : Transaction} {parents : List Transaction}
    (hsane : Sane state.uses state) (hstack : state.session.transactionStack = top :: parents) :
    Sane (state.statements + 1) state := by
  simpa [State.uses, hstack] using hsane

theorem Sane.pushTransaction (hsane : Sane inUse state) (mode : Int) (listener : Option Nat)
    (hunmarked : ∀ transaction ∈ state.session.transactionStack,
      transaction.markedSuccessful = false) :
    Sane inUse (state.pushTransaction mode listener) := by
  refine ⟨?_, ?_, ?_, ?_⟩
  · simpa [State.pushTransaction] using hsane.useCount
  · simpa [State.pushTransaction] using hsane.held
  · simpa [State.pushTransaction] using hsane.poolCalls
  · simpa [State.pushTransaction] using hunmarked

theorem sane_beginOutermost {mode : Int} {listener : Option Nat}
    (hsane : Sane (state.statements + 1) state) (hstack : state.session.transactionStack = [])
    (h : state.beginOutermost answers mode listener = (after, answer)) : Sane after.uses after := by
  have hreleased : ∀ {between : State D}, Sane (state.statements + 1) between →
      between.session.transactionStack = [] → between.statements = state.statements →
        Sane between.releaseConnection.uses between.releaseConnection := by
    intro between hbetween hempty hsame
    have hrelease := hbetween.releaseConnection
    simpa [State.uses, hempty, hsame] using hrelease
  unfold State.beginOutermost at h
  rcases hbegin : state.execute (Store.begin answers.beginThrows) with ⟨begun, done⟩
  have hframe := execute_frame (Store.begin answers.beginThrows) state
  have hbegun := hsane.execute (Store.begin answers.beginThrows)
  rw [hbegin] at h hframe hbegun
  dsimp only at hframe hbegun
  have hempty : begun.session.transactionStack = [] := by
    rw [hframe]
    exact hstack
  have hsame : begun.statements = state.statements := by rw [hframe]
  rcases done with _ | _
  · obtain ⟨rfl, -⟩ := Prod.mk.inj h
    exact hreleased hbegun hempty hsame
  dsimp only at h
  have hheard := hbegun.listen answers listener
  rw [← listen_session answers listener begun] at hempty
  rw [← listen_statements answers listener begun] at hsame
  generalize begun.listen answers listener = heard at h hempty hsame hheard
  split at h
  · rcases hrollback : heard.execute (Store.rollback answers.ending) with ⟨rolled, undone⟩
    have hback := execute_frame (Store.rollback answers.ending) heard
    have hrolled := hheard.execute (Store.rollback answers.ending)
    rw [hrollback] at h hback hrolled
    dsimp only at hback hrolled
    have hstill : rolled.session.transactionStack = [] := by
      rw [hback]
      exact hempty
    have hcount : rolled.statements = state.statements := by
      rw [hback]
      exact hsame
    rcases undone with _ | _
    · obtain ⟨rfl, -⟩ := Prod.mk.inj h
      exact hreleased hrolled hstill hcount
    · obtain ⟨rfl, -⟩ := Prod.mk.inj h
      exact hreleased hrolled hstill hcount
  · obtain ⟨rfl, -⟩ := Prod.mk.inj h
    have hpushed := hheard.pushTransaction mode listener (by simp [hempty])
    simpa [State.uses, State.pushTransaction, hsame] using hpushed

theorem sane_beginTransactionUnchecked {mode : Int} {listener : Option Nat}
    {connectionFlags : BitVec 32} (hsane : Sane state.uses state)
    (hunmarked : ∀ transaction ∈ state.session.transactionStack,
      transaction.markedSuccessful = false)
    (h : state.beginTransactionUnchecked answers mode listener connectionFlags =
      (after, answer)) : Sane after.uses after := by
  unfold State.beginTransactionUnchecked at h
  split at h
  · obtain ⟨rfl, -⟩ := Prod.mk.inj h
    exact hsane
  split at h
  · rename_i hempty
    have hstack : state.session.transactionStack = [] := by simpa using hempty
    rcases hacquire : state.acquireConnection answers connectionFlags with ⟨acquired, result⟩
    rw [hacquire] at h
    rcases acquireConnection_cases (hsane.uses_of_empty hstack) hacquire with
      ⟨failure, rfl, rfl⟩ | ⟨rfl, hheld, -, hstatements, hsame, -⟩
    · obtain ⟨rfl, -⟩ := Prod.mk.inj h
      exact hsane
    · rw [← hstatements] at hheld
      exact sane_beginOutermost hheld (hsame.trans hstack) h
  · rename_i hopen
    have hheard := hsane.listen answers listener
    dsimp only at h
    split at h
    · obtain ⟨rfl, -⟩ := Prod.mk.inj h
      simpa [State.uses] using hheard
    · obtain ⟨rfl, -⟩ := Prod.mk.inj h
      have hpushed := hheard.pushTransaction mode listener (by simpa using hunmarked)
      simpa [State.uses, State.pushTransaction, hopen] using hpushed

theorem unmarked_of_ok (hsane : Sane inUse state)
    (h : state.session.throwIfTransactionMarkedSuccessful = .ok ()) :
    ∀ transaction ∈ state.session.transactionStack, transaction.markedSuccessful = false := by
  have hmarked := hsane.marked
  unfold Session.throwIfTransactionMarkedSuccessful at h
  split at h
  · rename_i top parents hstack
    rw [hstack] at hmarked ⊢
    intro transaction htransaction
    rcases List.mem_cons.mp htransaction with rfl | htransaction
    · rcases hmark : transaction.markedSuccessful with _ | _
      · rfl
      · simp [hmark] at h
    · exact hmarked transaction htransaction
  · rename_i hstack
    simp [hstack]

theorem sane_beginTransaction {mode : Int} {listener : Option Nat} {connectionFlags : BitVec 32}
    (hsane : Sane state.uses state)
    (h : state.beginTransaction answers mode listener connectionFlags = (after, answer)) :
    Sane after.uses after := by
  unfold State.beginTransaction at h
  split at h
  · obtain ⟨rfl, -⟩ := Prod.mk.inj h
    exact hsane
  · rename_i hok
    exact sane_beginTransactionUnchecked hsane (unmarked_of_ok hsane hok) h

theorem sane_setTransactionSuccessful (hsane : Sane state.uses state)
    (h : state.setTransactionSuccessful = (after, answer)) : Sane after.uses after := by
  unfold State.setTransactionSuccessful at h
  split at h
  · obtain ⟨rfl, -⟩ := Prod.mk.inj h
    exact hsane
  · rename_i top parents hstack
    split at h
    · obtain ⟨rfl, -⟩ := Prod.mk.inj h
      exact hsane
    · obtain ⟨rfl, -⟩ := Prod.mk.inj h
      have huses := hsane.uses_of_cons hstack
      have hmarked := hsane.marked
      rw [hstack] at hmarked
      exact ⟨huses.useCount, huses.held, huses.poolCalls, hmarked⟩

theorem sane_endOutermost {successful listenerThrew : Bool}
    (hsane : Sane (state.statements + 1) state) (hstack : state.session.transactionStack = [])
    (h : state.endOutermost answers successful listenerThrew = (after, answer)) :
    Sane after.uses after ∧ after.session.transactionStack = [] := by
  unfold State.endOutermost at h
  dsimp only at h
  generalize hstatement : (if successful = true then Store.commit answers.ending
    else Store.rollback answers.ending) = statement at h
  rcases hexecute : state.execute statement with ⟨ended, done⟩
  have hframe := execute_frame statement state
  have hended := hsane.execute statement
  rw [hexecute] at h hframe hended
  dsimp only at hframe hended
  have hempty : ended.session.transactionStack = [] := by
    rw [hframe]
    exact hstack
  have hsame : ended.statements = state.statements := by rw [hframe]
  have hreleased : Sane ended.releaseConnection.uses ended.releaseConnection ∧
      ended.releaseConnection.session.transactionStack = [] := by
    refine ⟨?_, by simpa using hempty⟩
    have hrelease := hended.releaseConnection
    simpa [State.uses, hempty, hsame] using hrelease
  rcases done with _ | _
  · obtain ⟨rfl, -⟩ := Prod.mk.inj h
    exact hreleased
  · obtain ⟨rfl, -⟩ := Prod.mk.inj h
    exact hreleased

/-- The only transaction has left the stack, and the database is yet to hear of it. -/
def State.popped (answers : Answers D) (top : Transaction) (state : State D) : State D :=
  { state.listen answers top.listener with
    session := ({ state.session with transactionStack := [] } : Session).recycleTransaction top }

theorem Sane.popped (hsane : Sane (state.statements + 1) state) (answers : Answers D)
    (top : Transaction) :
    Sane ((state.popped answers top).statements + 1) (state.popped answers top) := by
  have hstatements : (state.popped answers top).statements = state.statements :=
    listen_statements answers top.listener state
  have hcalls : (state.popped answers top).poolCalls = state.poolCalls := by
    rw [State.popped, listen_frame]
  rw [hstatements]
  refine ⟨hsane.useCount, hsane.held, ?_, fun _ hmem => absurd hmem List.not_mem_nil⟩
  rw [hcalls]
  exact hsane.poolCalls

/-- The end of the only transaction, which is the one that reaches the database. -/
theorem endTransactionUnchecked_outermost {top : Transaction} {yielding : Bool}
    (hstack : state.session.transactionStack = [top]) (hcanceled : answers.canceled = false) :
    state.endTransactionUnchecked answers yielding =
      (state.popped answers top).endOutermost answers
        ((top.markedSuccessful || yielding) && !top.childFailed &&
          !(top.listener.isSome && answers.onEndThrows))
        (top.listener.isSome && answers.onEndThrows) := by
  simp [State.endTransactionUnchecked, State.popped, hcanceled, hstack]

theorem sane_endTransactionUnchecked {yielding : Bool} (hsane : Sane state.uses state)
    (h : state.endTransactionUnchecked answers yielding = (after, answer)) :
    Sane after.uses after := by
  rcases hcanceled : answers.canceled with _ | _
  · rcases hstack : state.session.transactionStack with _ | ⟨top, _ | ⟨parent, others⟩⟩
    · simp only [State.endTransactionUnchecked, hcanceled, hstack] at h
      obtain ⟨rfl, -⟩ := Prod.mk.inj h
      exact hsane
    · rw [endTransactionUnchecked_outermost hstack hcanceled] at h
      exact (sane_endOutermost ((hsane.uses_of_cons hstack).popped answers top) rfl h).1
    · have huses := (hsane.uses_of_cons hstack).listen answers top.listener
      have hmarked := hsane.marked
      rw [hstack] at hmarked
      rw [← listen_statements answers top.listener] at huses
      simp only [State.endTransactionUnchecked, hcanceled, hstack] at h
      obtain ⟨rfl, -⟩ := Prod.mk.inj h
      refine ⟨huses.useCount, huses.held, huses.poolCalls, fun transaction htransaction => ?_⟩
      exact hmarked transaction (List.mem_cons_of_mem _ htransaction)
  · simp only [State.endTransactionUnchecked, hcanceled, if_true] at h
    obtain ⟨rfl, -⟩ := Prod.mk.inj h
    exact hsane

theorem sane_endTransaction (hsane : Sane state.uses state)
    (h : state.endTransaction answers = (after, answer)) : Sane after.uses after := by
  unfold State.endTransaction at h
  split at h
  · obtain ⟨rfl, -⟩ := Prod.mk.inj h
    exact hsane
  · exact sane_endTransactionUnchecked hsane h

theorem sane_yieldTransaction {throwIfUnsafe : Bool} {result : Except SessionException Bool}
    (hsane : Sane state.uses state)
    (h : state.yieldTransaction answers later throwIfUnsafe = (after, result)) :
    Sane after.uses after := by
  unfold State.yieldTransaction at h
  split at h
  · obtain ⟨rfl, -⟩ := Prod.mk.inj h
    exact hsane
  rename_i top parents hstack
  split at h
  · obtain ⟨rfl, -⟩ := Prod.mk.inj h
    exact hsane
  split at h
  · obtain ⟨rfl, -⟩ := Prod.mk.inj h
    exact hsane
  rename_i hparents
  obtain rfl : parents = [] := by simpa using hparents
  split at h
  · obtain ⟨rfl, -⟩ := Prod.mk.inj h
    exact hsane
  unfold State.yieldTransactionUnchecked at h
  split at h
  · obtain ⟨rfl, -⟩ := Prod.mk.inj h
    exact hsane
  rename_i hcanceled
  have hcanceled : answers.canceled = false := by simpa using hcanceled
  split at h
  · obtain ⟨rfl, -⟩ := Prod.mk.inj h
    exact hsane
  · obtain ⟨rfl, -⟩ := Prod.mk.inj h
    exact hsane
  · rcases hend : state.endTransactionUnchecked answers true with ⟨ended, answer⟩
    have hended := sane_endTransactionUnchecked hsane hend
    rw [hend] at h
    rcases answer with failure | _
    · obtain ⟨rfl, -⟩ := Prod.mk.inj h
      exact hended
    · have hempty : ended.session.transactionStack = [] := by
        rw [endTransactionUnchecked_outermost hstack hcanceled] at hend
        exact (sane_endOutermost ((hsane.uses_of_cons hstack).popped answers top) rfl hend).2
      rcases hbegin : ended.beginTransactionUnchecked later top.mode top.listener
        state.session.connectionFlags with ⟨begun, answer⟩
      have hbegun := sane_beginTransactionUnchecked hended (by simp [hempty]) hbegin
      simp only [hbegin] at h
      rcases answer with failure | _
      · obtain ⟨rfl, -⟩ := Prod.mk.inj h
        exact hbegun
      · obtain ⟨rfl, -⟩ := Prod.mk.inj h
        exact hbegun

theorem sane_executeSpecial {type : StatementType} {connectionFlags : BitVec 32}
    {result : Except SessionException Bool} (hsane : Sane state.uses state)
    (h : state.executeSpecial answers type connectionFlags = (after, result)) :
    Sane after.uses after := by
  unfold State.executeSpecial at h
  split at h
  · obtain ⟨rfl, -⟩ := Prod.mk.inj h
    exact hsane
  cases type with
  | begin =>
      obtain ⟨rfl, -⟩ := Prod.mk.inj h
      exact sane_beginTransaction hsane rfl
  | commit =>
      dsimp only at h
      rcases hmark : state.setTransactionSuccessful with ⟨marked, answer⟩
      have hmarked := sane_setTransactionSuccessful hsane hmark
      rw [hmark] at h
      rcases answer with failure | _
      · obtain ⟨rfl, -⟩ := Prod.mk.inj h
        exact hmarked
      · obtain ⟨rfl, -⟩ := Prod.mk.inj h
        exact sane_endTransaction hmarked rfl
  | abort =>
      obtain ⟨rfl, -⟩ := Prod.mk.inj h
      exact sane_endTransaction hsane rfl
  | other =>
      obtain ⟨rfl, -⟩ := Prod.mk.inj h
      exact hsane

theorem sane_startStatement {type : StatementType} {connectionFlags : BitVec 32}
    {result : Except SessionException Bool} (hsane : Sane state.uses state)
    (h : state.startStatement answers type connectionFlags = (after, result)) :
    Sane after.uses after := by
  unfold State.startStatement at h
  rcases hspecial : state.executeSpecial answers type connectionFlags with ⟨between, special⟩
  have hbetween := sane_executeSpecial hsane hspecial
  rw [hspecial] at h
  split at h
  · rename_i heq
    obtain ⟨rfl, -⟩ := Prod.mk.inj heq
    rcases hacquire : between.acquireConnection answers connectionFlags with ⟨acquired, answer⟩
    rw [hacquire] at h
    rcases acquireConnection_cases hbetween hacquire with
      ⟨failure, rfl, rfl⟩ | ⟨rfl, hheld, -, hstatements, hsame, -⟩
    · obtain ⟨rfl, -⟩ := Prod.mk.inj h
      exact hbetween
    · obtain ⟨rfl, -⟩ := Prod.mk.inj h
      have huses : (⟨acquired.session, acquired.store, acquired.poolCalls,
          acquired.statements + 1⟩ : State D).uses = between.uses + 1 := by
        simp only [State.uses, hsame, hstatements]
        omega
      rw [huses]
      exact ⟨hheld.useCount, hheld.held, hheld.poolCalls, hheld.marked⟩
  · obtain ⟨rfl, -⟩ := Prod.mk.inj h
    exact hbetween

theorem sane_finishStatement (effect : Effect D) (hsane : Sane state.uses state)
    (hallowed : 0 < state.statements) :
    Sane (state.finishStatement effect).uses (state.finishStatement effect) := by
  unfold State.finishStatement
  dsimp only
  rcases hexecute : state.execute fun owner store => (store.run effect owner, true) with
    ⟨executed, done⟩
  have hframe := execute_frame (fun owner store => (store.run effect owner, true)) state
  have hexecuted := hsane.execute fun owner store => (store.run effect owner, true)
  rw [hexecute] at hframe hexecuted
  dsimp only at hframe hexecuted
  have huses : state.uses = { executed with statements := executed.statements - 1 }.uses + 1 := by
    rw [hframe]
    simp only [State.uses]
    omega
  rw [huses] at hexecuted
  have hless : Sane ({ executed with statements := executed.statements - 1 }.uses + 1)
      { executed with statements := executed.statements - 1 } :=
    ⟨hexecuted.useCount, hexecuted.held, hexecuted.poolCalls, hexecuted.marked⟩
  have hreleased := hless.releaseConnection
  simpa [State.uses] using hreleased

theorem sane_step (answers : Answers D) (call : Call D) (hsane : Sane state.uses state)
    (hallowed : state.Allowed call) :
    Sane (state.step answers call).1.uses (state.step answers call).1 := by
  cases call with
  | beginTransaction mode listener connectionFlags => exact sane_beginTransaction hsane rfl
  | setTransactionSuccessful => exact sane_setTransactionSuccessful hsane rfl
  | endTransaction => exact sane_endTransaction hsane rfl
  | yieldTransaction throwIfUnsafe later => exact sane_yieldTransaction hsane rfl
  | startStatement type connectionFlags => exact sane_startStatement hsane rfl
  | finishStatement effect => exact sane_finishStatement effect hsane hallowed

theorem Reachable.sane (h : Reachable state) : Sane state.uses state := by
  induction h with
  | start data => exact sane_start data
  | step answers call _ hallowed ih => exact sane_step answers call ih hallowed

/-- After any calls with any exceptions, a session has a connection exactly while a
statement runs or a transaction is open, it has given back to the pool, once, each other
one that it got, and only the innermost transaction may be marked successful. -/
theorem Reachable.connection_balanced (h : Reachable state) :
    state.session.connectionUseCount =
        state.statements + (if state.session.transactionStack.isEmpty then 0 else 1) ∧
      (state.session.connection = none ↔
        state.statements = 0 ∧ state.session.transactionStack = []) ∧
      Alternates state.poolCalls state.session.connection ∧
      ∀ transaction ∈ state.session.transactionStack.tail,
        transaction.markedSuccessful = false := by
  have hsane := h.sane
  refine ⟨hsane.useCount, ?_, hsane.poolCalls, hsane.marked⟩
  rw [hsane.held, State.uses]
  rcases state.session.transactionStack with _ | ⟨top, parents⟩
  · simp
  · simp

theorem added_connection_balanced :
    added.session.connectionUseCount =
        added.statements + (if added.session.transactionStack.isEmpty then 0 else 1) ∧
      (added.session.connection = none ↔
        added.statements = 0 ∧ added.session.transactionStack = []) ∧
      Alternates added.poolCalls added.session.connection ∧
      ∀ transaction ∈ added.session.transactionStack.tail,
        transaction.markedSuccessful = false :=
  reachable_added.connection_balanced

end Steps

end LSTAndroid.SQLiteSession
