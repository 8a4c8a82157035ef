import LSTAndroid.Library.RecencyCache
import Mathlib.Logic.Function.Basic

/-!
The prepared statements of a connection: the cache, the objects that are used again, and the
native statements behind them.
-/

namespace LSTAndroid.StatementCache

open LSTAndroid.Library.RecencyCache

inductive StatementType where
  | select
  | update
  | other
  deriving DecidableEq

def isCacheable : StatementType → Bool
  | .update | .select => true
  | .other => false

structure PreparedStatement where
  sql : Option String
  statementPtr : Nat
  numParameters : Nat
  type : StatementType
  readOnly : Bool
  inCache : Bool
  inUse : Bool
  deriving DecidableEq

inductive StatementException where
  | sql
  | inspection
  | forbidden
  | bindOrColumnIndexOutOfRange
  | bind
  | canceled
  deriving DecidableEq

/-- What the native functions, and a signal, answer while one method runs. -/
structure Answers where
  prepares : Bool
  inspectionThrows : Bool
  numParameters : Nat
  type : StatementType
  readOnly : Bool
  bindThrows : Bool
  canceled : Bool
  resetThrows : Bool

/-- The statement objects are numbered, and so are the native statements, which are never
numbered again; `lost` are the native ones whose number nothing has kept.  The running ones
come innermost first, each with the signal that was passed. -/
structure Connection where
  onlyAllowReadOnlyOperations : Bool
  preparedStatementCache : LruCache String Nat
  preparedStatementPool : List Nat
  cancellationSignalAttachCount : Nat
  statements : Nat → PreparedStatement
  created : Nat
  prepared : Nat
  finalized : List Nat
  lost : List Nat
  running : List (Nat × Option Nat)
  listening : List Nat
  cancelable : Bool

namespace Connection

def setStatement (statement : Nat) (change : PreparedStatement → PreparedStatement)
    (connection : Connection) : Connection :=
  { connection with
    statements := Function.update connection.statements statement
      (change (connection.statements statement)) }

def nativeFinalizeStatement (statementPtr : Nat) (connection : Connection) : Connection :=
  { connection with finalized := statementPtr :: connection.finalized }

def recyclePreparedStatement (statement : Nat) (connection : Connection) : Connection :=
  { connection.setStatement statement fun object => { object with sql := none } with
    preparedStatementPool := statement :: connection.preparedStatementPool }

def finalizePreparedStatement (statement : Nat) (connection : Connection) : Connection :=
  (connection.nativeFinalizeStatement
    (connection.statements statement).statementPtr).recyclePreparedStatement statement

def entryRemoved (connection : Connection) (statement : Nat) : Connection :=
  let connection := connection.setStatement statement fun object => { object with inCache := false }
  if (connection.statements statement).inUse then connection
  else connection.finalizePreparedStatement statement

def obtainPreparedStatement (sql : String) (statementPtr : Nat) (answers : Answers)
    (connection : Connection) : Connection × Nat :=
  let fill := fun object : PreparedStatement => { object with
    sql := some sql, statementPtr := statementPtr, numParameters := answers.numParameters,
    type := answers.type, readOnly := answers.readOnly }
  match connection.preparedStatementPool with
  | statement :: others =>
      ({ connection with preparedStatementPool := others }.setStatement statement fun object =>
        fill { object with inCache := false }, statement)
  | [] =>
      ({ connection with created := connection.created + 1 }.setStatement connection.created
        fun _ => fill ⟨none, 0, 0, .other, false, false, false⟩, connection.created)

def putStatement (sql : String) (statement : Nat) (connection : Connection) : Connection :=
  let (cache, removed) := connection.preparedStatementCache.put sql statement
  (removed.map Prod.snd).foldl entryRemoved { connection with preparedStatementCache := cache }

/-- The part of `acquirePreparedStatement` for a statement that is not at hand; `found` is
the one that the variable `statement` holds by then. -/
def prepareStatement (answers : Answers) (sql : String) (found : Option Nat)
    (connection : Connection) : Connection × Except StatementException Nat :=
  if !answers.prepares then (connection, .error .sql)
  else
    let statementPtr := connection.prepared
    let connection := { connection with prepared := connection.prepared + 1 }
    if answers.inspectionThrows then
      match found with
      | some statement =>
          if (connection.statements statement).inCache then
            ({ connection with lost := statementPtr :: connection.lost }, .error .inspection)
          else (connection.nativeFinalizeStatement statementPtr, .error .inspection)
      | none => (connection.nativeFinalizeStatement statementPtr, .error .inspection)
    else
      let (connection, statement) := connection.obtainPreparedStatement sql statementPtr answers
      let connection :=
        if found.isNone && isCacheable answers.type then
          (connection.putStatement sql statement).setStatement statement fun object =>
            { object with inCache := true }
        else connection
      (connection.setStatement statement fun object => { object with inUse := true },
        .ok statement)

def acquirePreparedStatement (answers : Answers) (sql : String) (connection : Connection) :
    Connection × Except StatementException Nat :=
  let (cache, found) := connection.preparedStatementCache.get sql
  let connection := { connection with preparedStatementCache := cache }
  match found with
  | some statement =>
      -- A statement that is used again is not marked as being in use.
      if !(connection.statements statement).inUse then (connection, .ok statement)
      else connection.prepareStatement answers sql (some statement)
  | none => connection.prepareStatement answers sql none

def releasePreparedStatement (answers : Answers) (statement : Nat) (connection : Connection) :
    Connection :=
  let connection := connection.setStatement statement fun object => { object with inUse := false }
  if (connection.statements statement).inCache then
    if answers.resetThrows then
      match (connection.statements statement).sql with
      | some sql =>
          let (cache, removed) := connection.preparedStatementCache.remove sql
          removed.toList.foldl entryRemoved { connection with preparedStatementCache := cache }
      | none => connection
    else connection
  else connection.finalizePreparedStatement statement

/-- `false` when the signal throws. -/
def attachCancellationSignal (answers : Answers) (signal : Option Nat) (connection : Connection) :
    Connection × Bool :=
  match signal with
  | none => (connection, true)
  | some signal =>
      if answers.canceled then (connection, false)
      else
        let count := connection.cancellationSignalAttachCount + 1
        let connection := { connection with cancellationSignalAttachCount := count }
        if count = 1 then
          ({ connection with cancelable := true, listening := signal :: connection.listening },
            true)
        else (connection, true)

def detachCancellationSignal (signal : Option Nat) (connection : Connection) : Connection :=
  match signal with
  | none => connection
  | some signal =>
      let count := connection.cancellationSignalAttachCount - 1
      let connection := { connection with cancellationSignalAttachCount := count }
      if count = 0 then
        { connection with
          listening := connection.listening.filter fun other => other ≠ signal
          cancelable := false }
      else connection

def throwIfStatementForbidden (statement : PreparedStatement) (connection : Connection) : Bool :=
  connection.onlyAllowReadOnlyOperations && !statement.readOnly

/-- `execute` and its siblings, up to the native call, in which other statements may run. -/
def startExecution (answers : Answers) (sql : String) (bindArgs : Nat) (signal : Option Nat)
    (connection : Connection) : Connection × Except StatementException Nat :=
  match connection.acquirePreparedStatement answers sql with
  | (connection, .error failure) => (connection, .error failure)
  | (connection, .ok statement) =>
      let object := connection.statements statement
      let fail := fun failure =>
        (connection.releasePreparedStatement answers statement, .error failure)
      if connection.throwIfStatementForbidden object then fail .forbidden
      else if bindArgs ≠ object.numParameters then fail .bindOrColumnIndexOutOfRange
      else if answers.bindThrows then fail .bind
      else
        match connection.attachCancellationSignal answers signal with
        | (_, false) => fail .canceled
        | (connection, true) =>
            ({ connection with running := (statement, signal) :: connection.running },
              .ok statement)

/-- The rest of them, whether the native call has thrown or not. -/
def finishExecution (answers : Answers) (connection : Connection) : Connection :=
  match connection.running with
  | [] => connection
  | (statement, signal) :: others =>
      ({ connection with running := others }.detachCancellationSignal
        signal).releasePreparedStatement answers statement

/-- Nothing else happens to the statement that is only prepared. -/
def prepare (answers : Answers) (sql : String) (connection : Connection) :
    Connection × Except StatementException Nat :=
  match connection.acquirePreparedStatement answers sql with
  | (connection, .error failure) => (connection, .error failure)
  | (connection, .ok statement) =>
      (connection.releasePreparedStatement answers statement, .ok statement)

def isPreparedStatementInCache (sql : String) (connection : Connection) : Connection × Bool :=
  let (cache, found) := connection.preparedStatementCache.get sql
  ({ connection with preparedStatementCache := cache }, found.isSome)

/-- What `dispose` does before it closes the native connection. -/
def evictAll (connection : Connection) : Connection :=
  let (cache, removed) := connection.preparedStatementCache.evictAll
  (removed.map Prod.snd).foldl entryRemoved { connection with preparedStatementCache := cache }

def open? (maxSqlCacheSize : Nat) : Option Connection :=
  if h : 0 < maxSqlCacheSize then
    some ⟨false, .empty maxSqlCacheSize h, [], 0,
      fun _ => ⟨none, 0, 0, .other, false, false, false⟩,
      0, 0, [], [], [], [], false⟩
  else none

end Connection

inductive Call where
  | isPreparedStatementInCache (sql : String)
  | setOnlyAllowReadOnlyOperations (readOnly : Bool)
  | prepare (sql : String)
  | startExecution (sql : String) (bindArgs : Nat) (signal : Option Nat)
  | finishExecution

def Connection.step (answers : Answers) (connection : Connection) : Call → Connection
  | .isPreparedStatementInCache sql => (connection.isPreparedStatementInCache sql).1
  | .setOnlyAllowReadOnlyOperations readOnly =>
      { connection with onlyAllowReadOnlyOperations := readOnly }
  | .prepare sql => (connection.prepare answers sql).1
  | .startExecution sql bindArgs signal =>
      (connection.startExecution answers sql bindArgs signal).1
  | .finishExecution => connection.finishExecution answers

inductive Reachable : Connection → Prop
  | opened {maxSqlCacheSize : Nat} {connection : Connection} :
      Connection.open? maxSqlCacheSize = some connection → Reachable connection
  | step {connection : Connection} (answers : Answers) (call : Call) :
      Reachable connection → Reachable (connection.step answers call)

def plain : Answers :=
  ⟨true, false, 0, .select, true, false, false, false⟩

def openedConnection : Connection :=
  ⟨false, .empty 2 Nat.two_pos, [], 0, fun _ => ⟨none, 0, 0, .other, false, false, false⟩, 0, 0,
    [], [], [], [], false⟩

/-- While one statement runs, a second one does, with a signal. -/
def nested : Connection :=
  (openedConnection.step plain (.startExecution "SELECT a" 0 none)).step plain
    (.startExecution "SELECT b" 0 (some 7))

def returned : Connection :=
  (nested.step plain .finishExecution).step plain .finishExecution

/-- The first statement runs once more, from the cache. -/
def reused : Connection :=
  returned.step plain (.startExecution "SELECT a" 0 none)

end LSTAndroid.StatementCache
