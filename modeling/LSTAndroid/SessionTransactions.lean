import LSTAndroid.SessionRuns

namespace LSTAndroid.SQLiteSession

open LSTAndroid.ConnectionPool
open LSTAndroid.Library.NestedTransactions

variable {D : Type} {state : State D} {answers later : Answers D} {connection : Connection}

section Database

variable {durable data : D} {mode : Int} {listener : Option Nat}

def Answers.listened (answers : Answers D) (listener : Option Nat) (data : D) : D :=
  match listener with
  | some _ => Effect.applyAll answers.heard data
  | none => data

theorem listen_only (listener : Option Nat)
    (hconnection : state.session.connection = some connection)
    (hstore : state.store = ⟨durable, [(connection.connectionId, data)]⟩)
    (hkeeps : ∀ effect ∈ answers.heard, effect.Keeps) :
    state.listen answers listener = { state with
      store := ⟨durable, [(connection.connectionId, answers.listened listener data)]⟩ } := by
  rcases listener with _ | listener
  · rw [Answers.listened, ← hstore]
    rfl
  · unfold State.listen
    rw [execute_some _ hconnection, hstore]
    dsimp only
    rw [Store.runAll_only hkeeps rfl]
    rfl

theorem beginOutermost_eq (hconnection : state.session.connection = some connection)
    (hstore : state.store = ⟨durable, []⟩) (hending : answers.ending = .done)
    (hkeeps : ∀ effect ∈ answers.heard, effect.Keeps) :
    state.beginOutermost answers mode listener =
      if answers.beginThrows then (state.releaseConnection, .error .sql)
      else if listener.isSome && answers.onBeginThrows then
        (state.releaseConnection, .error .listener)
      else ({ state with
          store := ⟨durable, [(connection.connectionId, answers.listened listener durable)]⟩
        }.pushTransaction mode listener, .ok ()) := by
  unfold State.beginOutermost
  rw [execute_some _ hconnection, hstore]
  rcases hthrows : answers.beginThrows with _ | _
  · rw [Store.begin_idle rfl]
    dsimp only
    have hbegun : ({ state with
        store := ⟨durable, [(connection.connectionId, durable)]⟩ } :
          State D).listen answers listener = _ := listen_only listener hconnection rfl hkeeps
    rw [hbegun]
    split
    · have hheard : ({ state with
          store := ⟨durable, [(connection.connectionId, answers.listened listener durable)]⟩ } :
            State D).session.connection = some connection := hconnection
      rw [execute_some _ hheard, hending, Store.rollback_only rfl]
      dsimp only
      rw [← hstore]
      rfl
    · rfl
  · have hbegin : Store.begin true connection.connectionId (⟨durable, []⟩ : Store D) =
        (⟨durable, []⟩, false) := rfl
    rw [hbegin]
    dsimp only
    rw [← hstore]
    rfl

theorem endOutermost_eq (successful listenerThrew : Bool)
    (hconnection : state.session.connection = some connection)
    (hstore : state.store = ⟨durable, [(connection.connectionId, data)]⟩)
    (hending : answers.ending = .done) :
    state.endOutermost answers successful listenerThrew =
      ({ state with
        store := ⟨if successful then data else durable, []⟩ }.releaseConnection,
        if listenerThrew then .error .listener else .ok ()) := by
  unfold State.endOutermost
  dsimp only
  rw [execute_some _ hconnection, hstore, hending]
  rcases successful with _ | _
  · rw [if_neg Bool.false_ne_true, Store.rollback_only rfl]
    rfl
  · rw [if_pos rfl, Store.commit_only rfl]
    rfl

end Database

section Nesting

/-- A transaction as a thread means it: how it begins, and how it will end. -/
structure Plan where
  mode : Int
  listener : Option Nat
  connectionFlags : BitVec 32
  granted : Connection
  marked : Bool
  onEndThrows : Bool

def Plan.succeeds (plan : Plan) : Bool :=
  plan.marked && !(plan.listener.isSome && plan.onEndThrows)

def calls : Work D Plan (BitVec 32 × Connection) → List (Answers D × Call D)
  | .done => []
  | .update (connectionFlags, granted) effect next =>
      (smooth granted false, .startStatement .other connectionFlags) ::
        (smooth granted false, .finishStatement (.update effect)) :: calls next
  | .transaction plan body next =>
      (smooth plan.granted false,
          .beginTransaction plan.mode plan.listener plan.connectionFlags) ::
        (calls body ++
          ((if plan.marked then [(smooth plan.granted false, .setTransactionSuccessful)] else []) ++
            ((smooth plan.granted plan.onEndThrows, .endTransaction) :: calls next)))

structure Idle (data : D) (state : State D) : Prop where
  held : state.session.connection = none
  useCount : state.session.connectionUseCount = 0
  stack : state.session.transactionStack = []
  store : state.store = ⟨data, []⟩

/-- The innermost transaction is `top`, and `data` is what the connection sees. -/
structure Within (connection : Connection) (inUse : Nat) (top : Transaction)
    (parents : List Transaction) (durable data : D) (state : State D) : Prop where
  held : state.session.connection = some connection
  useCount : state.session.connectionUseCount = inUse + 1
  stack : state.session.transactionStack = top :: parents
  store : state.store = ⟨durable, [(connection.connectionId, data)]⟩

variable {inUse : Nat} {top : Transaction} {parents : List Transaction} {durable data : D}

@[simp] theorem listen_silent (listener : Option Nat) (state : State D)
    (hsilent : answers.heard = []) : state.listen answers listener = state := by
  cases listener with
  | none => rfl
  | some listener =>
      simp only [State.listen, State.execute, hsilent, Store.runAll, List.foldl_nil]
      split <;> rfl

@[simp] theorem listened_silent (listener : Option Nat) (data : D)
    (hsilent : answers.heard = []) : answers.listened listener data = data := by
  cases listener with
  | none => rfl
  | some listener => rw [Answers.listened, hsilent, Effect.applyAll, List.foldl_nil]

theorem idle_start (data : D) : Idle data (State.start data) :=
  ⟨rfl, rfl, rfl, rfl⟩

theorem within_statement (granted : Connection) (connectionFlags : BitVec 32) (effect : D → D)
    (h : Within connection inUse top parents durable data state) :
    Within connection inUse top parents durable (effect data)
      (state.perform [(smooth granted false, .startStatement .other connectionFlags),
        (smooth granted false, .finishStatement (.update effect))]) := by
  obtain ⟨hconnection, hcount, hstack, hstore⟩ := h
  have hupdate : (⟨durable, [(connection.connectionId, data)]⟩ : Store D).run (.update effect)
      connection.connectionId = ⟨durable, [(connection.connectionId, effect data)]⟩ :=
    Store.run_only trivial rfl
  refine ⟨?_, ?_, ?_, ?_⟩ <;>
    simp [State.perform, State.step, State.startStatement, State.executeSpecial, smooth,
      State.acquireConnection, State.finishStatement, State.execute, State.releaseConnection,
      hconnection, hcount, hstack, hstore, hupdate]

theorem idle_statement (granted : Connection) (connectionFlags : BitVec 32) (effect : D → D)
    (h : Idle data state) :
    Idle (effect data) (state.perform [(smooth granted false, .startStatement .other
      connectionFlags), (smooth granted false, .finishStatement (.update effect))]) := by
  obtain ⟨hconnection, hcount, hstack, hstore⟩ := h
  have hupdate : (⟨data, []⟩ : Store D).run (.update effect) granted.connectionId =
      ⟨effect data, []⟩ := Store.run_idle trivial rfl
  refine ⟨?_, ?_, ?_, ?_⟩ <;>
    simp [State.perform, State.step, State.startStatement, State.executeSpecial, smooth,
      State.acquireConnection, State.finishStatement, State.execute, State.releaseConnection,
      hconnection, hcount, hstack, hstore]
  exact hupdate

theorem within_begin (plan : Plan) (hunmarked : top.markedSuccessful = false)
    (h : Within connection inUse top parents durable data state) :
    Within connection inUse ⟨plan.mode, plan.listener, false, false⟩ (top :: parents) durable data
      (state.step (smooth plan.granted false)
        (.beginTransaction plan.mode plan.listener plan.connectionFlags)).1 := by
  obtain ⟨hconnection, hcount, hstack, hstore⟩ := h
  have hstep : (state.step (smooth plan.granted false)
      (.beginTransaction plan.mode plan.listener plan.connectionFlags)).1 =
        state.pushTransaction plan.mode plan.listener := by
    simp [State.step, State.beginTransaction, Session.throwIfTransactionMarkedSuccessful,
      State.beginTransactionUnchecked, smooth, hstack, hunmarked]
  rw [hstep]
  exact ⟨by simpa [State.pushTransaction] using hconnection,
    by simpa [State.pushTransaction] using hcount, by simp [State.pushTransaction, hstack], hstore⟩

theorem idle_begin (plan : Plan) (h : Idle data state) :
    Within plan.granted 0 ⟨plan.mode, plan.listener, false, false⟩ [] data data
      (state.step (smooth plan.granted false)
        (.beginTransaction plan.mode plan.listener plan.connectionFlags)).1 := by
  obtain ⟨hconnection, hcount, hstack, hstore⟩ := h
  let acquired : State D := { state with
    session.connection := some plan.granted
    session.connectionFlags := plan.connectionFlags
    session.connectionUseCount := state.session.connectionUseCount + 1
    poolCalls := .acquired plan.granted :: state.poolCalls }
  have hbegin : acquired.beginOutermost (smooth plan.granted false) plan.mode plan.listener = _ :=
    beginOutermost_eq rfl hstore rfl nofun
  have hstep : (state.step (smooth plan.granted false)
      (.beginTransaction plan.mode plan.listener plan.connectionFlags)).1 =
        (acquired.beginOutermost (smooth plan.granted false) plan.mode plan.listener).1 := by
    simp [State.step, State.beginTransaction, Session.throwIfTransactionMarkedSuccessful,
      State.beginTransactionUnchecked, State.acquireConnection, smooth, hstack, hconnection,
      acquired]
  rw [hstep, hbegin]
  refine ⟨?_, ?_, ?_, ?_⟩ <;> simp [smooth, State.pushTransaction, acquired, hcount, hstack]

theorem within_setTransactionSuccessful (granted : Connection)
    (hunmarked : top.markedSuccessful = false)
    (h : Within connection inUse top parents durable data state) :
    Within connection inUse { top with markedSuccessful := true } parents durable data
      (state.step (smooth granted false) .setTransactionSuccessful).1 := by
  obtain ⟨hconnection, hcount, hstack, hstore⟩ := h
  have hstep : (state.step (smooth granted false) .setTransactionSuccessful).1 = { state with
      session.transactionStack := { top with markedSuccessful := true } :: parents } := by
    simp [State.step, State.setTransactionSuccessful, hstack, hunmarked]
  rw [hstep]
  exact ⟨hconnection, hcount, rfl, hstore⟩

def Transaction.succeeds (transaction : Transaction) (onEndThrows : Bool) : Bool :=
  transaction.markedSuccessful && !transaction.childFailed &&
    !(transaction.listener.isSome && onEndThrows)

theorem within_endTransaction (granted : Connection) {parent : Transaction}
    {others : List Transaction} (onEndThrows : Bool)
    (h : Within connection inUse top (parent :: others) durable data state) :
    Within connection inUse
      { parent with childFailed := parent.childFailed || !top.succeeds onEndThrows } others durable
      data (state.step (smooth granted onEndThrows) .endTransaction).1 := by
  obtain ⟨hconnection, hcount, hstack, hstore⟩ := h
  refine ⟨?_, ?_, ?_, ?_⟩ <;>
    simp [State.step, State.endTransaction, Session.throwIfNoTransaction, smooth,
      State.endTransactionUnchecked, Session.recycleTransaction, Transaction.succeeds, hconnection,
      hcount, hstack, hstore]

theorem idle_endTransaction (granted : Connection) (onEndThrows : Bool)
    (h : Within connection 0 top [] durable data state) :
    Idle (if top.succeeds onEndThrows then data else durable)
      (state.step (smooth granted onEndThrows) .endTransaction).1 := by
  obtain ⟨hconnection, hcount, hstack, hstore⟩ := h
  let popped : State D := { state with
    session := ({ state.session with transactionStack := [] } : Session).recycleTransaction top }
  have hend : popped.endOutermost (smooth granted onEndThrows) (top.succeeds onEndThrows)
      (top.listener.isSome && onEndThrows) = _ := endOutermost_eq _ _ hconnection hstore rfl
  have hstep : (state.step (smooth granted onEndThrows) .endTransaction).1 =
      (popped.endOutermost (smooth granted onEndThrows) (top.succeeds onEndThrows)
        (top.listener.isSome && onEndThrows)).1 := by
    simp [State.step, State.endTransaction, Session.throwIfNoTransaction, smooth,
      State.endTransactionUnchecked, Transaction.succeeds, hstack, popped]
  rw [hstep, hend]
  refine ⟨?_, ?_, ?_, ?_⟩ <;>
    simp [State.releaseConnection, Session.recycleTransaction, popped, hcount]

theorem within_mark {plan : Plan} {failed : Bool}
    (h : Within connection inUse ⟨plan.mode, plan.listener, false, failed⟩ parents durable data
      state) :
    Within connection inUse ⟨plan.mode, plan.listener, plan.marked, failed⟩ parents durable data
      (state.perform (if plan.marked then [(smooth plan.granted false, .setTransactionSuccessful)]
        else [])) := by
  rcases hmark : plan.marked with _ | _
  · exact h
  · exact within_setTransactionSuccessful plan.granted rfl h

theorem succeeds_eq (plan : Plan) (bodySucceeds : Bool) :
    (⟨plan.mode, plan.listener, plan.marked, !bodySucceeds⟩ : Transaction).succeeds
      plan.onEndThrows = (plan.succeeds && bodySucceeds) := by
  simp only [Transaction.succeeds, Plan.succeeds]
  cases bodySucceeds <;> simp

theorem perform_cons (answers : Answers D) (call : Call D) (rest : List (Answers D × Call D))
    (state : State D) :
    state.perform ((answers, call) :: rest) = (state.step answers call).1.perform rest := rfl

/-- Inside a transaction, work changes what the connection sees, and it tells the
transaction around it whether anything failed. -/
theorem within_perform_calls (work : Work D Plan (BitVec 32 × Connection))
    (hunmarked : top.markedSuccessful = false)
    (h : Within connection inUse top parents durable data state) :
    Within connection inUse
      { top with childFailed := top.childFailed || !work.allSucceed Plan.succeeds } parents durable
      (work.apply data) (state.perform (calls work)) := by
  induction work generalizing state connection inUse top parents durable data with
  | done => simpa [Work.allSucceed, Work.apply, calls, State.perform] using h
  | update label effect next ih =>
      obtain ⟨connectionFlags, granted⟩ := label
      have hstatement := within_statement granted connectionFlags effect h
      exact ih hunmarked hstatement
  | transaction plan body next ihBody ihNext =>
      have hbegun := within_begin plan hunmarked h
      have hbody := ihBody rfl hbegun
      have hmarked := within_mark hbody
      have hended := within_endTransaction plan.granted plan.onEndThrows hmarked
      have hnext := ihNext (by exact hunmarked) hended
      rw [Bool.false_or, succeeds_eq] at hnext
      rw [calls, perform_cons, perform_append, perform_append, perform_cons, Work.allSucceed]
      have hfailed : (top.childFailed || !(plan.succeeds && body.allSucceed Plan.succeeds &&
          next.allSucceed Plan.succeeds)) = ((top.childFailed || !(plan.succeeds &&
            body.allSucceed Plan.succeeds)) || !next.allSucceed Plan.succeeds) := by
        cases top.childFailed <;> cases plan.succeeds <;>
          cases body.allSucceed Plan.succeeds <;> simp
      rw [hfailed]
      exact hnext

/-- The calls of a session mean for the durable data what the nested transactions mean: each
outermost transaction counts as a whole, and only if no transaction in it failed. -/
theorem perform_calls (work : Work D Plan (BitVec 32 × Connection)) (h : Idle data state) :
    Idle (work.commit Plan.succeeds data) (state.perform (calls work)) := by
  induction work generalizing state data with
  | done => exact h
  | update label effect next ih =>
      obtain ⟨connectionFlags, granted⟩ := label
      have hstatement := idle_statement granted connectionFlags effect h
      exact ih hstatement
  | transaction plan body next _ ihNext =>
      have hbegun := idle_begin plan h
      have hbody := within_perform_calls body rfl hbegun
      have hmarked := within_mark hbody
      have hended := idle_endTransaction plan.granted plan.onEndThrows hmarked
      have hnext := ihNext hended
      rw [Bool.false_or, succeeds_eq] at hnext
      rw [calls, perform_cons, perform_append, perform_append, perform_cons]
      exact hnext

/-- A statement of its own, a transaction with a nested one that is never marked, and one
that is. -/
def sampleWork : Work Nat Plan (BitVec 32 × Connection) :=
  .update (0, sampleConnection) (· + 1)
    (.transaction ⟨transactionModeExclusive, none, 0, sampleConnection, true, false⟩
      (.update (0, sampleConnection) (· + 2)
        (.transaction ⟨transactionModeExclusive, none, 0, sampleConnection, false, false⟩
          .done .done))
      (.transaction ⟨transactionModeExclusive, none, 0, sampleConnection, true, false⟩
        (.update (0, sampleConnection) (· + 8) .done) .done))

theorem sampleWork_perform_calls : Idle 9 ((State.start 0).perform (calls sampleWork)) :=
  perform_calls sampleWork (idle_start 0)

end Nesting

section Data

variable {p : D → Prop}

def Answers.Preserves (p : D → Prop) (answers : Answers D) : Prop :=
  ∀ effect ∈ answers.heard, effect.Preserves p

def Call.Preserves (p : D → Prop) : Call D → Prop
  | .yieldTransaction _ later => later.Preserves p
  | .finishStatement effect => effect.Preserves p
  | _ => True

theorem all_execute {statement : Nat → Store D → Store D × Bool} (h : state.store.All p)
    (hstatement : ∀ owner, (statement owner state.store).1.All p) :
    (state.execute statement).1.store.All p := by
  unfold State.execute
  split
  · exact hstatement _
  · exact h

theorem all_listen (h : state.store.All p) (hanswers : answers.Preserves p)
    (listener : Option Nat) : (state.listen answers listener).store.All p := by
  cases listener with
  | none => exact h
  | some listener => exact all_execute h fun owner => h.runAll hanswers owner

theorem all_beginTransactionUnchecked (h : state.store.All p) (hanswers : answers.Preserves p)
    (mode : Int) (listener : Option Nat) (connectionFlags : BitVec 32) :
    (state.beginTransactionUnchecked answers mode listener connectionFlags).1.store.All p := by
  have houtermost : ∀ {acquired : State D}, acquired.store.All p →
      (acquired.beginOutermost answers mode listener).1.store.All p := by
    intro acquired hacquired
    have hbegun := all_execute hacquired fun owner => hacquired.begin answers.beginThrows owner
    unfold State.beginOutermost
    rcases hbegin : acquired.execute (Store.begin answers.beginThrows) with ⟨begun, _ | _⟩
    · rw [hbegin] at hbegun
      simpa using hbegun
    · rw [hbegin] at hbegun
      have hheard := all_listen hbegun hanswers listener
      dsimp only
      split
      · have hended := all_execute hheard fun owner => hheard.rollback answers.ending owner
        split
        · rename_i hend
          rw [hend] at hended
          simpa using hended
        · rename_i hend
          rw [hend] at hended
          simpa using hended
      · exact hheard
  unfold State.beginTransactionUnchecked
  split
  · exact h
  split
  · have hacquired : (state.acquireConnection answers connectionFlags).1.store.All p := by
      rw [acquireConnection_store]
      exact h
    split
    · rename_i hacquire
      rw [hacquire] at hacquired
      exact hacquired
    · rename_i hacquire
      rw [hacquire] at hacquired
      exact houtermost hacquired
  · have hheard := all_listen h hanswers listener
    dsimp only
    split
    · exact hheard
    · exact hheard

theorem all_beginTransaction (h : state.store.All p) (hanswers : answers.Preserves p)
    (mode : Int) (listener : Option Nat) (connectionFlags : BitVec 32) :
    (state.beginTransaction answers mode listener connectionFlags).1.store.All p := by
  unfold State.beginTransaction
  split
  · exact h
  · exact all_beginTransactionUnchecked h hanswers mode listener connectionFlags

theorem setTransactionSuccessful_store (state : State D) :
    state.setTransactionSuccessful.1.store = state.store := by
  unfold State.setTransactionSuccessful
  split
  · rfl
  · split <;> rfl

theorem all_endTransactionUnchecked (h : state.store.All p) (hanswers : answers.Preserves p)
    (yielding : Bool) : (state.endTransactionUnchecked answers yielding).1.store.All p := by
  have houtermost : ∀ {popped : State D} (successful listenerThrew : Bool), popped.store.All p →
      (popped.endOutermost answers successful listenerThrew).1.store.All p := by
    intro popped successful listenerThrew hpopped
    have hended : (popped.execute (if successful then Store.commit answers.ending
        else Store.rollback answers.ending)).1.store.All p := by
      refine all_execute hpopped fun owner => ?_
      cases successful with
      | false => exact hpopped.rollback answers.ending owner
      | true => exact hpopped.commit answers.ending owner
    unfold State.endOutermost
    dsimp only
    split
    · rename_i hend
      rw [hend] at hended
      simpa using hended
    · rename_i hend
      rw [hend] at hended
      simpa using hended
  unfold State.endTransactionUnchecked
  split
  · exact h
  split
  · exact h
  · rename_i top parents hstack
    have hheard := all_listen h hanswers top.listener
    dsimp only
    split
    · exact hheard
    · exact houtermost _ _ hheard

theorem all_endTransaction (h : state.store.All p) (hanswers : answers.Preserves p) :
    (state.endTransaction answers).1.store.All p := by
  unfold State.endTransaction
  split
  · exact h
  · exact all_endTransactionUnchecked h hanswers false

theorem all_yieldTransaction {later : Answers D} (h : state.store.All p)
    (hanswers : answers.Preserves p) (hlater : later.Preserves p) (throwIfUnsafe : Bool) :
    (state.yieldTransaction answers later throwIfUnsafe).1.store.All p := by
  unfold State.yieldTransaction State.yieldTransactionUnchecked
  rcases hstack : state.session.transactionStack with _ | ⟨top, parents⟩
  · exact h
  dsimp only
  split
  · exact h
  split
  · exact h
  split
  · exact h
  split
  · exact h
  split
  · exact h
  · exact h
  · have hended := all_endTransactionUnchecked h hanswers true
    split
    · rename_i hend
      rw [hend] at hended
      exact hended
    · rename_i ended hend
      rw [hend] at hended
      have hbegun := all_beginTransactionUnchecked hended hlater top.mode top.listener
        state.session.connectionFlags
      split
      · rename_i hbegin
        rw [hbegin] at hbegun
        exact hbegun
      · rename_i hbegin
        rw [hbegin] at hbegun
        exact hbegun

theorem all_startStatement (h : state.store.All p) (hanswers : answers.Preserves p)
    (type : StatementType) (connectionFlags : BitVec 32) :
    (state.startStatement answers type connectionFlags).1.store.All p := by
  have hspecial : (state.executeSpecial answers type connectionFlags).1.store.All p := by
    unfold State.executeSpecial
    split
    · exact h
    cases type with
    | begin => exact all_beginTransaction h hanswers transactionModeExclusive none connectionFlags
    | commit =>
        have hmarked := setTransactionSuccessful_store state
        dsimp only
        split
        · rename_i hmark
          rw [hmark] at hmarked
          rw [hmarked]
          exact h
        · rename_i marked hmark
          rw [hmark] at hmarked
          exact all_endTransaction (hmarked ▸ h) hanswers
    | abort => exact all_endTransaction h hanswers
    | other => exact h
  unfold State.startStatement
  rcases hexecute : state.executeSpecial answers type connectionFlags with ⟨between, result⟩
  rw [hexecute] at hspecial
  split
  · rename_i heq
    obtain ⟨rfl, -⟩ := Prod.mk.inj heq
    have hacquired := acquireConnection_store answers connectionFlags between
    split
    · rename_i hacquire
      rw [hacquire] at hacquired
      rw [hacquired]
      exact hspecial
    · rename_i hacquire
      rw [hacquire] at hacquired
      dsimp only
      rw [hacquired]
      exact hspecial
  · exact hspecial

/-- A property of the data that no statement breaks holds of all of them, durable or not,
whatever becomes of the transactions. -/
theorem all_step (answers : Answers D) (call : Call D) (h : state.store.All p)
    (hanswers : answers.Preserves p) (hcall : call.Preserves p) :
    (state.step answers call).1.store.All p := by
  cases call with
  | beginTransaction mode listener connectionFlags =>
      exact all_beginTransaction h hanswers mode listener connectionFlags
  | setTransactionSuccessful =>
      have hmarked : (state.step answers .setTransactionSuccessful).1.store = state.store :=
        setTransactionSuccessful_store state
      rw [hmarked]
      exact h
  | endTransaction => exact all_endTransaction h hanswers
  | yieldTransaction throwIfUnsafe later =>
      exact all_yieldTransaction h hanswers hcall throwIfUnsafe
  | startStatement type connectionFlags =>
      exact all_startStatement h hanswers type connectionFlags
  | finishStatement effect =>
      have hfinished : (state.execute fun owner store =>
          (store.run effect owner, true)).1.store.All p :=
        all_execute h fun owner => h.run hcall owner
      simpa [State.step, State.finishStatement] using hfinished

end Data

end LSTAndroid.SQLiteSession
