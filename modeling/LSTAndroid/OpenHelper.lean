import LSTAndroid.SQLiteSession

/-!
The helper that opens a database, brings it to the version of the program and keeps it.
-/

namespace LSTAndroid.OpenHelper

open LSTAndroid.ConnectionPool
open LSTAndroid.Library.NestedTransactions
open LSTAndroid.SQLiteSession

structure Database where
  isOpen : Bool
  isReadOnly : Bool
  deriving DecidableEq

inductive HelperException where
  | recursive
  | sql
  | readOnly
  | callback
  | closed
  | session (exception : SessionException)
  deriving DecidableEq

/-- What a subclass does in one of its methods, with the database at hand and with the helper.
A statement may find the file corrupt: the error handler closes the database then and deletes
the file. -/
inductive Action (D : Type) where
  | session (answers : SQLiteSession.Answers (Int × D)) (call : Call (Int × D))
  | getDatabase (writable : Bool)
  | close
  | closeDatabase
  | corrupt (empty : D)

structure Callback (D : Type) where
  actions : List (Action D)
  throws : Bool

inductive Migration where
  | onCreate
  | onUpgrade (oldVersion newVersion : Int)
  | onDowngrade (oldVersion newVersion : Int)
  deriving DecidableEq

/-- `emptied` is what a file that cannot even be opened has become, `migration` what the one of
`onCreate`, `onUpgrade` and `onDowngrade` does that is called, and `setVersionThrows` the effect
of the `PRAGMA` of `setVersion` if it throws. -/
structure Answers (D : Type) where
  emptied : Option D
  opens : Bool
  opensReadOnly : Bool
  reopens : Bool
  onConfigure : Callback D
  granted : Connection
  versionThrows : Bool
  connectionFlags : BitVec 32
  begins : SQLiteSession.Answers (Int × D)
  migration : Callback D
  setVersion : SQLiteSession.Answers (Int × D)
  setVersionThrows : Option (Effect (Int × D))
  ends : SQLiteSession.Answers (Int × D)
  onOpen : Callback D

/-- The databases are numbered as they are opened; `file` is the session of the thread with
the last of them, and in its store the version and the other data of the file; `migrations`
are the calls so far, the latest first. -/
structure Helper (D : Type) where
  newVersion : Int
  database : Option Nat
  isInitializing : Bool
  databases : List Database
  file : State (Int × D)
  migrations : List Migration

def readingAnswers {D : Type} (answers : SQLiteSession.Answers D) : SQLiteSession.Answers D :=
  { answers with heard := answers.heard.map Effect.reading }

def readingCall {D : Type} : Call D → Call D
  | .yieldTransaction throwIfUnsafe later => .yieldTransaction throwIfUnsafe (readingAnswers later)
  | .finishStatement effect => .finishStatement effect.reading
  | call => call

/-- What a query on the connection of the session reads, or on the one that it would get. -/
def seenBy {D : Type} (granted : Connection) (state : State D) : D :=
  let connection := state.session.connection.getD granted
  (state.store.working.lookup connection.connectionId).getD state.store.durable

namespace Helper

variable {D : Type}

/-- What is durable. -/
def stored (helper : Helper D) : Int × D :=
  helper.file.store.durable

def isOpen (helper : Helper D) (db : Nat) : Bool :=
  helper.databases[db]?.any Database.isOpen

def isReadOnly (helper : Helper D) (db : Nat) : Bool :=
  helper.databases[db]?.any Database.isReadOnly

def closeDatabase (db : Nat) (helper : Helper D) : Helper D :=
  { helper with
    databases := helper.databases.modify db fun database => { database with isOpen := false } }

/-- `DefaultDatabaseErrorHandler.onCorruption` -/
def onCorruption (empty : D) (db : Nat) (helper : Helper D) : Helper D :=
  if helper.isOpen db then { helper.closeDatabase db with file := .start (0, empty) }
  else helper

/-- A file that cannot be opened because it is corrupt is deleted, before the next attempt. -/
def deleteCorrupt (emptied : Option D) (helper : Helper D) : Helper D :=
  match emptied with
  | some empty => { helper with file := .start (0, empty) }
  | none => helper

/-- What was open in another session is gone with its connections. -/
def openDatabase (isReadOnly : Bool) (helper : Helper D) : Helper D × Nat :=
  ({ helper with
      databases := helper.databases ++ [⟨true, isReadOnly⟩]
      file := .start helper.stored },
    helper.databases.length)

/-- The first part of `getDatabaseLocked`: the database that is open for business. -/
def findDatabase (writable : Bool) (helper : Helper D) : Helper D × Option Nat :=
  match helper.database with
  | none => (helper, none)
  | some db =>
      if !helper.isOpen db then ({ helper with database := none }, none)
      else if !writable || !helper.isReadOnly db then (helper, some db)
      else (helper, none)

/-- A call of the session; it throws on a closed database, and no statement writes on one that
is read-only. -/
def send (answers : SQLiteSession.Answers (Int × D)) (call : Call (Int × D)) (db : Nat)
    (helper : Helper D) : Helper D × Except HelperException Bool :=
  if !helper.isOpen db then (helper, .error .closed)
  else if helper.file.Allowed call then
    let (file, answer) :=
      if helper.isReadOnly db then helper.file.step (readingAnswers answers) (readingCall call)
      else helper.file.step answers call
    ({ helper with file := file }, answer.mapError .session)
  else (helper, .error .sql)

/-- From inside a callback the helper throws unless a database is open for business. -/
def act (db : Nat) (helper : Helper D) : Action D → Helper D
  | .session answers call => (helper.send answers call db).1
  | .getDatabase writable => (helper.findDatabase writable).1
  | .close => helper
  | .closeDatabase => helper.closeDatabase db
  | .corrupt empty => helper.onCorruption empty db

def runCallback (callback : Callback D) (db : Nat) (helper : Helper D) : Helper D :=
  callback.actions.foldl (act db) helper

def migrationOf (version newVersion : Int) : Migration :=
  if version = 0 then .onCreate
  else if version > newVersion then .onDowngrade version newVersion
  else .onUpgrade version newVersion

def callMigration (answers : Answers D) (version : Int) (db : Nat) (helper : Helper D) :
    Helper D :=
  { helper with
    migrations := migrationOf version helper.newVersion :: helper.migrations
  }.runCallback answers.migration db

/-- The version that `db.setVersion` writes. -/
def versionEffect (newVersion : Int) : Effect (Int × D) :=
  .update fun stored => (newVersion, stored.2)

/-- `db.setVersion` and `db.setTransactionSuccessful`. -/
def setVersion (answers : Answers D) (db : Nat) (helper : Helper D) :
    Helper D × Option HelperException :=
  match helper.send answers.setVersion (.startStatement .other answers.connectionFlags) db with
  | (helper, .error failure) => (helper, some failure)
  | (helper, .ok _) =>
      match answers.setVersionThrows with
      | some effect =>
          ((helper.send answers.setVersion (.finishStatement effect) db).1, some .sql)
      | none =>
          match helper.send answers.setVersion
            (.finishStatement (versionEffect helper.newVersion)) db with
          | (helper, .error failure) => (helper, some failure)
          | (helper, .ok _) =>
              match helper.send answers.ends .setTransactionSuccessful db with
              | (helper, .error failure) => (helper, some failure)
              | (helper, .ok _) => (helper, none)

/-- The transaction around `onCreate`, `onUpgrade` or `onDowngrade`. -/
def migrate (answers : Answers D) (version : Int) (db : Nat) (helper : Helper D) :
    Helper D × Option HelperException :=
  let begins := .beginTransaction transactionModeExclusive none answers.connectionFlags
  match helper.send answers.begins begins db with
  | (helper, .error failure) => (helper, some failure)
  | (helper, .ok _) =>
      let helper := helper.callMigration answers version db
      let (helper, failure) :=
        if answers.migration.throws then (helper, some .callback)
        else helper.setVersion answers db
      match helper.send answers.ends .endTransaction db with
      | (helper, .error other) => (helper, some other)
      | (helper, .ok _) => (helper, failure)

/-- The second part of `getDatabaseLocked`; nothing has been opened when it answers `none`. -/
def obtainDatabase (answers : Answers D) (writable : Bool) (helper : Helper D) :
    Helper D × Option Nat × Option HelperException :=
  match helper.database with
  | some db =>
      if writable && helper.isReadOnly db then
        if answers.reopens then
          ({ helper with databases := helper.databases.modify db fun database =>
            { database with isReadOnly := false } }, some db, none)
        else (helper, some db, some .sql)
      else (helper, some db, none)
  | none =>
      let helper := helper.deleteCorrupt answers.emptied
      if answers.opens then
        let (helper, db) := helper.openDatabase false
        (helper, some db, none)
      else if writable then (helper, none, some .sql)
      else if answers.opensReadOnly then
        let (helper, db) := helper.openDatabase true
        (helper, some db, none)
      else (helper, none, some .sql)

/-- The third part, from `getVersion` to the end of the migration. -/
def upgrade (answers : Answers D) (db : Nat) (helper : Helper D) :
    Helper D × Option HelperException :=
  if !helper.isOpen db then (helper, some .closed)
  else if answers.versionThrows then (helper, some .sql)
  else
    let version := (seenBy answers.granted helper.file).1
    if version = helper.newVersion then (helper, none)
    else if helper.isReadOnly db then (helper, some .readOnly)
    else helper.migrate answers version db

/-- From `onConfigure` to `onOpen`. -/
def prepareDatabase (answers : Answers D) (db : Nat) (helper : Helper D) :
    Helper D × Option HelperException :=
  let helper := helper.runCallback answers.onConfigure db
  if answers.onConfigure.throws then (helper, some .callback)
  else
    match helper.upgrade answers db with
    | (helper, some failure) => (helper, some failure)
    | (helper, none) =>
        let helper := helper.runCallback answers.onOpen db
        if answers.onOpen.throws then (helper, some .callback)
        else ({ helper with database := some db }, none)

/-- The `finally` of `getDatabaseLocked`. -/
def finish (db : Nat) (helper : Helper D) : Helper D :=
  let helper := { helper with isInitializing := false }
  if helper.database ≠ some db then helper.closeDatabase db else helper

def getDatabaseLocked (answers : Answers D) (writable : Bool) (helper : Helper D) :
    Helper D × Except HelperException Nat :=
  match helper.findDatabase writable with
  | (helper, some db) => (helper, .ok db)
  | (helper, none) =>
      if helper.isInitializing then (helper, .error .recursive)
      else
        match { helper with isInitializing := true }.obtainDatabase answers writable with
        | (helper, none, failure) =>
            ({ helper with isInitializing := false }, .error (failure.getD .sql))
        | (helper, some db, some failure) => (helper.finish db, .error failure)
        | (helper, some db, none) =>
            match helper.prepareDatabase answers db with
            | (helper, some failure) => (helper.finish db, .error failure)
            | (helper, none) => (helper.finish db, .ok db)

def close (helper : Helper D) : Helper D × Except HelperException Unit :=
  if helper.isInitializing then (helper, .error .recursive)
  else
    match helper.database with
    | some db =>
        if helper.isOpen db then ({ helper.closeDatabase db with database := none }, .ok ())
        else (helper, .ok ())
    | none => (helper, .ok ())

end Helper

/-- What the program does: with the helper, and with the databases that it gets. -/
inductive Event (D : Type) where
  | getDatabase (answers : Answers D) (writable : Bool)
  | close
  | session (db : Nat) (answers : SQLiteSession.Answers (Int × D)) (call : Call (Int × D))
  | closeDatabase (db : Nat)
  | corrupt (db : Nat) (empty : D)

variable {D : Type}

def Helper.start (newVersion : Int) (stored : Int × D) : Helper D :=
  ⟨newVersion, none, false, [], .start stored, []⟩

def Helper.step (helper : Helper D) : Event D → Helper D
  | .getDatabase answers writable => (helper.getDatabaseLocked answers writable).1
  | .close => helper.close.1
  | .session db answers call => (helper.send answers call db).1
  | .closeDatabase db => helper.closeDatabase db
  | .corrupt db empty => helper.onCorruption empty db

inductive Run : Helper D → Helper D → Prop
  | refl (helper : Helper D) : Run helper helper
  | step {first helper : Helper D} (event : Event D) :
      Run first helper → Run first (helper.step event)

def quietCallback : Callback Nat :=
  ⟨[], false⟩

def smoothly : SQLiteSession.Answers (Int × Nat) :=
  smooth sampleConnection false

/-- `onCreate` adds `5`, and calls the helper, which throws. -/
def creating (throws : Bool) : Answers Nat :=
  { emptied := none, opens := true, opensReadOnly := true, reopens := true
    onConfigure := quietCallback
    granted := sampleConnection
    versionThrows := false
    connectionFlags := connectionFlagPrimaryConnectionAffinity
    begins := smoothly
    migration := ⟨[
      .session smoothly (.startStatement .other connectionFlagPrimaryConnectionAffinity),
      .session smoothly (.finishStatement (.update fun stored => (stored.1, stored.2 + 5))),
      .getDatabase true], throws⟩
    setVersion := smoothly
    setVersionThrows := none
    ends := smoothly
    onOpen := quietCallback }

def fresh : Helper Nat :=
  .start 1 (0, 0)

/-- The first attempt has failed, the second has not. -/
def created : Helper Nat :=
  (fresh.step (.getDatabase (creating true) true)).step (.getDatabase (creating false) true)

end LSTAndroid.OpenHelper
