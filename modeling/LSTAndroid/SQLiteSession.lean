import LSTAndroid.ConnectionPool
import LSTAndroid.Library.NestedTransactions

/-!
The session of one thread with a database: the connection it holds, its stack of
transactions, and the statements that it sends.
-/

namespace LSTAndroid.SQLiteSession

open LSTAndroid.ConnectionPool
open LSTAndroid.Library.NestedTransactions

def transactionModeExclusive : Int := 2

/-- `mParent` is the place in one of the two lists of a session. -/
structure Transaction where
  mode : Int
  listener : Option Nat
  markedSuccessful : Bool
  childFailed : Bool
  deriving DecidableEq

structure Session where
  connection : Option Connection
  connectionFlags : BitVec 32
  connectionUseCount : Nat
  transactionPool : List Transaction
  transactionStack : List Transaction
  deriving DecidableEq

inductive SessionException where
  | canceled
  | noTransaction
  | markedSuccessful
  | nestedTransaction
  | pool (exception : PoolException)
  | sql
  | listener
  deriving DecidableEq

/-- What a session gets from outside while one of its methods runs; `heard` are the statements
that a listener sends through the session before it returns or throws.  It neither begins nor
ends transactions of the session. -/
structure Answers (D : Type) where
  canceled : Bool
  acquired : Except PoolException Connection
  shouldYield : Except PoolException Bool
  beginThrows : Bool
  heard : List (Effect D)
  onBeginThrows : Bool
  onEndThrows : Bool
  ending : Ending

def smooth {D : Type} (granted : Connection) (onEndThrows : Bool) : Answers D :=
  ⟨false, .ok granted, .ok false, false, [], false, onEndThrows, .done⟩

/-- `DatabaseUtils.getSqlStatementType` of a statement, as far as it matters. -/
inductive StatementType where
  | begin
  | commit
  | abort
  | other

inductive PoolCall where
  | acquired (connection : Connection)
  | released (connection : Connection)
  deriving DecidableEq

/-- `poolCalls` has the latest call first; `statements` are those that have begun and not
finished, one inside the other. -/
structure State (D : Type) where
  session : Session
  store : Store D
  poolCalls : List PoolCall
  statements : Nat

namespace Session

def throwIfNoTransaction (session : Session) : Except SessionException Unit :=
  if session.transactionStack.isEmpty then .error .noTransaction else .ok ()

def throwIfTransactionMarkedSuccessful (session : Session) : Except SessionException Unit :=
  match session.transactionStack with
  | top :: _ => if top.markedSuccessful then .error .markedSuccessful else .ok ()
  | [] => .ok ()

/-- `obtainTransaction`, with the new transaction on top of the stack. -/
def pushTransaction (session : Session) (mode : Int) (listener : Option Nat) : Session :=
  match session.transactionPool with
  | pooled :: others =>
      { session with
        transactionPool := others
        transactionStack := { pooled with
          markedSuccessful := false, childFailed := false, mode := mode, listener := listener } ::
            session.transactionStack }
  | [] => { session with
      transactionStack := ⟨mode, listener, false, false⟩ :: session.transactionStack }

def recycleTransaction (session : Session) (transaction : Transaction) : Session :=
  { session with
    transactionPool := { transaction with listener := none } :: session.transactionPool }

end Session

namespace State

variable {D : Type}

def acquireConnection (answers : Answers D) (connectionFlags : BitVec 32) (state : State D) :
    State D × Except SessionException Unit :=
  let useCount := state.session.connectionUseCount + 1
  match state.session.connection with
  | some _ => ({ state with session.connectionUseCount := useCount }, .ok ())
  | none =>
      match answers.acquired with
      | .error failure => (state, .error (.pool failure))
      | .ok connection =>
          ({ state with
            session.connection := some connection
            session.connectionFlags := connectionFlags
            session.connectionUseCount := useCount
            poolCalls := .acquired connection :: state.poolCalls }, .ok ())

def releaseConnection (state : State D) : State D :=
  let useCount := state.session.connectionUseCount - 1
  if useCount = 0 then
    { state with
      session.connection := none
      session.connectionUseCount := useCount
      poolCalls := (state.session.connection.map PoolCall.released).toList ++ state.poolCalls }
  else { state with session.connectionUseCount := useCount }

/-- A statement that the session itself sends; `false` when it throws. -/
def execute (statement : Nat → Store D → Store D × Bool) (state : State D) : State D × Bool :=
  match state.session.connection with
  | some connection =>
      let (store, done) := statement connection.connectionId state.store
      ({ state with store := store }, done)
  | none => (state, false)

/-- A listener runs while the session has its connection: each statement takes one more use
of it and gives the use back. -/
def listen (answers : Answers D) (listener : Option Nat) (state : State D) : State D :=
  match listener with
  | some _ => (state.execute fun owner store => (store.runAll answers.heard owner, true)).1
  | none => state

def pushTransaction (mode : Int) (listener : Option Nat) (state : State D) : State D :=
  { state with session := state.session.pushTransaction mode listener }

/-- The part of `beginTransactionUnchecked` for an outermost transaction, with a
connection. -/
def beginOutermost (answers : Answers D) (mode : Int) (listener : Option Nat) (state : State D) :
    State D × Except SessionException Unit :=
  match state.execute (Store.begin answers.beginThrows) with
  | (state, false) => (state.releaseConnection, .error .sql)
  | (state, true) =>
      let state := state.listen answers listener
      if listener.isSome && answers.onBeginThrows then
        match state.execute (Store.rollback answers.ending) with
        | (state, false) => (state.releaseConnection, .error .sql)
        | (state, true) => (state.releaseConnection, .error .listener)
      else (state.pushTransaction mode listener, .ok ())

def beginTransactionUnchecked (answers : Answers D) (mode : Int) (listener : Option Nat)
    (connectionFlags : BitVec 32) (state : State D) : State D × Except SessionException Unit :=
  if answers.canceled then (state, .error .canceled)
  else if state.session.transactionStack.isEmpty then
    match state.acquireConnection answers connectionFlags with
    | (state, .error failure) => (state, .error failure)
    | (state, .ok ()) => state.beginOutermost answers mode listener
  else
    let state := state.listen answers listener
    if listener.isSome && answers.onBeginThrows then (state, .error .listener)
    else (state.pushTransaction mode listener, .ok ())

def beginTransaction (answers : Answers D) (mode : Int) (listener : Option Nat)
    (connectionFlags : BitVec 32) (state : State D) : State D × Except SessionException Unit :=
  match state.session.throwIfTransactionMarkedSuccessful with
  | .error failure => (state, .error failure)
  | .ok () => state.beginTransactionUnchecked answers mode listener connectionFlags

def setTransactionSuccessful (state : State D) : State D × Except SessionException Unit :=
  match state.session.transactionStack with
  | [] => (state, .error .noTransaction)
  | top :: parents =>
      if top.markedSuccessful then (state, .error .markedSuccessful)
      else
        ({ state with
          session.transactionStack := { top with markedSuccessful := true } :: parents }, .ok ())

/-- The `COMMIT` or the `ROLLBACK` of an outermost transaction. -/
def endOutermost (answers : Answers D) (successful listenerThrew : Bool) (state : State D) :
    State D × Except SessionException Unit :=
  let statement :=
    if successful then Store.commit answers.ending else Store.rollback answers.ending
  match state.execute statement with
  | (state, false) => (state.releaseConnection, .error .sql)
  | (state, true) =>
      (state.releaseConnection, if listenerThrew then .error .listener else .ok ())

def endTransactionUnchecked (answers : Answers D) (yielding : Bool) (state : State D) :
    State D × Except SessionException Unit :=
  if answers.canceled then (state, .error .canceled)
  else
    match state.session.transactionStack with
    | [] => (state, .error .noTransaction)
    | top :: parents =>
        let state := state.listen answers top.listener
        let listenerThrew := top.listener.isSome && answers.onEndThrows
        let successful := (top.markedSuccessful || yielding) && !top.childFailed && !listenerThrew
        let session := { state.session with transactionStack := parents }.recycleTransaction top
        match parents with
        | parent :: others =>
            ({ state with session := { session with
                transactionStack :=
                  { parent with childFailed := parent.childFailed || !successful } :: others } },
              if listenerThrew then .error .listener else .ok ())
        | [] => { state with session := session }.endOutermost answers successful listenerThrew

def endTransaction (answers : Answers D) (state : State D) :
    State D × Except SessionException Unit :=
  match state.session.throwIfNoTransaction with
  | .error failure => (state, .error failure)
  | .ok () => state.endTransactionUnchecked answers false

/-- `later` is what the session gets after the transaction has been ended. -/
def yieldTransactionUnchecked (answers later : Answers D) (top : Transaction) (state : State D) :
    State D × Except SessionException Bool :=
  if answers.canceled then (state, .error .canceled)
  else
    match answers.shouldYield with
    | .error failure => (state, .error (.pool failure))
    | .ok false => (state, .ok false)
    | .ok true =>
        let connectionFlags := state.session.connectionFlags
        match state.endTransactionUnchecked answers true with
        | (state, .error failure) => (state, .error failure)
        | (state, .ok ()) =>
            match state.beginTransactionUnchecked later top.mode top.listener connectionFlags with
            | (state, .error failure) => (state, .error failure)
            | (state, .ok ()) => (state, .ok true)

def yieldTransaction (answers later : Answers D) (throwIfUnsafe : Bool) (state : State D) :
    State D × Except SessionException Bool :=
  match state.session.transactionStack with
  | [] => (state, if throwIfUnsafe then .error .noTransaction else .ok false)
  | top :: parents =>
      if top.markedSuccessful then
        (state, if throwIfUnsafe then .error .markedSuccessful else .ok false)
      else if !parents.isEmpty then
        (state, if throwIfUnsafe then .error .nestedTransaction else .ok false)
      else if top.childFailed then (state, .ok false)
      else state.yieldTransactionUnchecked answers later top

def executeSpecial (answers : Answers D) (type : StatementType) (connectionFlags : BitVec 32)
    (state : State D) : State D × Except SessionException Bool :=
  if answers.canceled then (state, .error .canceled)
  else
    match type with
    | .begin =>
        let (state, answer) :=
          state.beginTransaction answers transactionModeExclusive none connectionFlags
        (state, answer.map fun _ => true)
    | .commit =>
        match state.setTransactionSuccessful with
        | (state, .error failure) => (state, .error failure)
        | (state, .ok ()) =>
            let (state, answer) := state.endTransaction answers
            (state, answer.map fun _ => true)
    | .abort =>
        let (state, answer) := state.endTransaction answers
        (state, answer.map fun _ => true)
    | .other => (state, .ok false)

/-- `execute` and its siblings, up to the statement of the connection. -/
def startStatement (answers : Answers D) (type : StatementType) (connectionFlags : BitVec 32)
    (state : State D) : State D × Except SessionException Bool :=
  match state.executeSpecial answers type connectionFlags with
  | (state, .ok false) =>
      match state.acquireConnection answers connectionFlags with
      | (state, .error failure) => (state, .error failure)
      | (state, .ok ()) => ({ state with statements := state.statements + 1 }, .ok false)
  | answer => answer

/-- The rest of them.  A statement that throws has no effect, or the database rolls the whole
transaction back. -/
def finishStatement (effect : Effect D) (state : State D) : State D :=
  let (state, _) := state.execute fun owner store => (store.run effect owner, true)
  { state with statements := state.statements - 1 }.releaseConnection

end State

/-- The calls of one thread.  A statement may call custom functions, and these the session
again: their calls lie between the start and the end of the statement. -/
inductive Call (D : Type) where
  | beginTransaction (mode : Int) (listener : Option Nat) (connectionFlags : BitVec 32)
  | setTransactionSuccessful
  | endTransaction
  | yieldTransaction (throwIfUnsafe : Bool) (later : Answers D)
  | startStatement (type : StatementType) (connectionFlags : BitVec 32)
  | finishStatement (effect : Effect D)

variable {D : Type}

def State.start (data : D) : State D :=
  ⟨⟨none, 0, 0, [], []⟩, ⟨data, []⟩, [], 0⟩

def State.step (answers : Answers D) (state : State D) :
    Call D → State D × Except SessionException Bool
  | .beginTransaction mode listener connectionFlags =>
      let (state, answer) := state.beginTransaction answers mode listener connectionFlags
      (state, answer.map fun _ => true)
  | .setTransactionSuccessful =>
      let (state, answer) := state.setTransactionSuccessful
      (state, answer.map fun _ => true)
  | .endTransaction =>
      let (state, answer) := state.endTransaction answers
      (state, answer.map fun _ => true)
  | .yieldTransaction throwIfUnsafe later => state.yieldTransaction answers later throwIfUnsafe
  | .startStatement type connectionFlags => state.startStatement answers type connectionFlags
  | .finishStatement effect => (state.finishStatement effect, .ok true)

/-- Only a statement that has begun can finish. -/
def State.Allowed (state : State D) : Call D → Prop
  | .finishStatement _ => 0 < state.statements
  | _ => True

instance (state : State D) : DecidablePred state.Allowed
  | .finishStatement _ => inferInstanceAs (Decidable (0 < state.statements))
  | .beginTransaction _ _ _ | .setTransactionSuccessful | .endTransaction
  | .yieldTransaction _ _ | .startStatement _ _ => inferInstanceAs (Decidable True)

/-- The states of a session after any calls, whatever it gets from outside. -/
inductive Reachable : State D → Prop
  | start (data : D) : Reachable (.start data)
  | step {state : State D} (answers : Answers D) (call : Call D) :
      Reachable state → state.Allowed call → Reachable (state.step answers call).1

/-- The calls one after another, each with what the session gets; an exception does not
keep the thread from its next call. -/
def State.perform : State D → List (Answers D × Call D) → State D
  | state, [] => state
  | state, (answers, call) :: calls => (state.step answers call).1.perform calls

theorem perform_append (first second : List (Answers D × Call D)) (state : State D) :
    state.perform (first ++ second) = (state.perform first).perform second := by
  induction first generalizing state with
  | nil => rfl
  | cons call calls ih => exact ih _

def sampleConnection : Connection :=
  ⟨0, true, ⟨0, 25, "en_US", false, []⟩, false⟩

/-- An open transaction, in which a statement has added `5`. -/
def added : State Nat :=
  (State.start 0).perform [
    (smooth sampleConnection false, .beginTransaction transactionModeExclusive none 0),
    (smooth sampleConnection false, .startStatement .other 0),
    (smooth sampleConnection false, .finishStatement (.update (· + 5)))]

theorem reachable_added : Reachable added :=
  .step _ _ (.step _ _ (.step _ _ (.start 0) trivial) trivial) Nat.one_pos

end LSTAndroid.SQLiteSession
