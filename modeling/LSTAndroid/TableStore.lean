import LSTAndroid.SpaceTime

/-!
The SQLite stores `SQLiteNaive` and `SQLiteRTree`: the database file they share,
the helper that opens it, and their operations.
-/

namespace LSTAndroid.TableStore

open LSTAndroid.SpaceTime

inductive SQLiteException where
  | cantOpenDatabase
  | cantDowngrade
  | tableExists (table : String)
  | noSuchTable (table : String)
  | syntaxError
  deriving DecidableEq

inductive Column where
  | minX | maxX | minY | maxY | minT | maxT
  deriving DecidableEq

/-- The coordinate columns of a row.  No query reads the value of `id`. -/
structure Row (K : Type) where
  minX : K
  maxX : K
  minY : K
  maxY : K
  minT : K
  maxT : K
  deriving DecidableEq

namespace Row

variable {K : Type}

def get (row : Row K) : Column → K
  | .minX => row.minX
  | .maxX => row.maxX
  | .minY => row.minY
  | .maxY => row.maxY
  | .minT => row.minT
  | .maxT => row.maxT

def ofPoint (point : FullPoint K) : Row K :=
  ⟨point.x, point.x, point.y, point.y, point.t, point.t⟩

def toPoint (row : Row K) : FullPoint K :=
  ⟨row.minX, row.minY, row.minT⟩

end Row

/-- `CREATE TABLE` or `CREATE VIRTUAL TABLE .. USING rtree`. -/
inductive TableKind where
  | plain
  | rtree
  deriving DecidableEq

structure Table (K : Type) where
  kind : TableKind
  rows : List (Row K)
  deriving DecidableEq

/-- A database file: its `user_version` and the tables of `sqlite_master`. -/
structure DatabaseFile (K : Type) where
  version : ℕ
  tables : String → Option (Table K)

/-- The databases directory of the application and the file `mydata.db` in it. -/
inductive Storage (K : Type) where
  | noDirectory
  | directory (file : Option (DatabaseFile K))

namespace DatabaseFile

variable {K : Type}

def empty (version : ℕ) : DatabaseFile K :=
  ⟨version, fun _ => none⟩

def createTable (name : String) (kind : TableKind) (db : DatabaseFile K) :
    Except SQLiteException (DatabaseFile K) :=
  match db.tables name with
  | some _ => .error (.tableExists name)
  | none => .ok { db with tables := Function.update db.tables name (some ⟨kind, []⟩) }

def setRows (name : String) (table : Table K) (rows : List (Row K))
    (db : DatabaseFile K) : DatabaseFile K :=
  { db with tables := Function.update db.tables name (some { table with rows }) }

/-- `SQLiteDatabase.insert`: an error is logged and answered by `-1`, here `false`. -/
def insert (name : String) (row : Row K) (db : DatabaseFile K) : Bool × DatabaseFile K :=
  match db.tables name with
  | none => (false, db)
  | some table => (true, db.setRows name table (table.rows ++ [row]))

/-- `SQLiteDatabase.delete` without a where clause. -/
def delete (name : String) (db : DatabaseFile K) :
    Except SQLiteException (DatabaseFile K) :=
  match db.tables name with
  | none => .error (.noSuchTable name)
  | some table => .ok (db.setRows name table [])

end DatabaseFile

def Dim.minColumn : Dim → Column
  | .x => .minX
  | .y => .minY
  | .t => .minT

def Dim.maxColumn : Dim → Column
  | .x => .maxX
  | .y => .maxY
  | .t => .maxT

namespace Row

@[simp] theorem get_minColumn {K : Type} (p : FullPoint K) (d : Dim) :
    (ofPoint p).get (Dim.minColumn d) = p.coord d := by
  cases d <;> rfl

@[simp] theorem get_maxColumn {K : Type} (p : FullPoint K) (d : Dim) :
    (ofPoint p).get (Dim.maxColumn d) = p.coord d := by
  cases d <;> rfl

end Row

inductive Comparison where
  | ge
  | le
  deriving DecidableEq

inductive Token where
  | whereWord
  | andWord
  | column (column : Column)
  | comparison (comparison : Comparison)
  | number (number : ℚ)
  deriving DecidableEq

structure Condition where
  column : Column
  comparison : Comparison
  number : ℚ
  deriving DecidableEq

def Condition.tokens (c : Condition) : List Token :=
  [.column c.column, .comparison c.comparison, .number c.number]

/-- The conjunction after `WHERE`, as SQLite reads it. -/
def parseConjunction : List Token → Option (List Condition)
  | [.column column, .comparison comparison, .number number] =>
      some [⟨column, comparison, number⟩]
  | .column column :: .comparison comparison :: .number number :: .andWord :: rest =>
      (parseConjunction rest).map (⟨column, comparison, number⟩ :: ·)
  | _ => none

def parseWhere : List Token → Option (List Condition)
  | [] => some []
  | .whereWord :: rest => parseConjunction rest
  | _ => none

section Queries

variable {K : Type} [LinearOrder K] [Coordinate K]

def Condition.holds (row : Row K) (c : Condition) : Bool :=
  match c.comparison with
  | .ge => c.number ≤ Coordinate.stored (row.get c.column)
  | .le => Coordinate.stored (row.get c.column) ≤ c.number

/-- A `SELECT` without `ORDER BY` delivers its rows in an order of the engine's
choosing. -/
structure ScanOrder (K : Type) where
  scan : List (Row K) → List (Row K)
  scan_perm : ∀ rows, (scan rows).Perm rows

def DatabaseFile.select (order : ScanOrder K) (name : String) (whereClause : List Token)
    (db : DatabaseFile K) : Except SQLiteException (List (Row K)) :=
  match parseWhere whereClause, db.tables name with
  | none, _ => .error .syntaxError
  | some _, none => .error (.noSuchTable name)
  | some conditions, some table =>
      .ok (order.scan (table.rows.filter fun row => conditions.all (·.holds row)))

/-- One `if` of `range`: a dimension that both corners have adds its two bounds,
after `WHERE` for the first dimension and after `AND` for the later ones. -/
def addBounds (range : STRegion K) (queryJoiner : List Token × Token) (d : Dim) :
    List Token × Token :=
  match range.mins.coord d, range.maxs.coord d with
  | some lo, some hi =>
      (queryJoiner.1 ++ [queryJoiner.2] ++
        [.column (Dim.minColumn d), .comparison .ge, .number (Coordinate.literal lo)] ++
        [.andWord] ++
        [.column (Dim.maxColumn d), .comparison .le, .number (Coordinate.literal hi)],
      .andWord)
  | _, _ => queryJoiner

def rangeWhere (range : STRegion K) : List Token :=
  ([Dim.x, Dim.y, Dim.t].foldl (addBounds range) ([], .whereWord)).1

end Queries

variable {K : Type}

def databaseVersion : ℕ := 1

/-- `DBInit.dbExists` tests for the directory, not for the file. -/
def DBInit.dbExists : Storage K → Bool
  | .noDirectory => false
  | .directory _ => true

/-- `DBInit.init`: the Android helper creates the directory and the file; its
`onCreate` makes no table. -/
def DBInit.init : Storage K → Storage K
  | .noDirectory => .directory (some (.empty databaseVersion))
  | .directory none => .directory (some (.empty databaseVersion))
  | .directory (some db) =>
      .directory (some
        { db with version := if db.version = 0 then databaseVersion else db.version })

/-- A store object is its class, here the kind of table it creates, and its
table identifier. -/
structure SQLiteStore where
  kind : TableKind
  tableIdentifier : String
  deriving DecidableEq

def SQLiteNaive (identifier : String) : SQLiteStore := ⟨.plain, identifier⟩

def SQLiteRTree (identifier : String) : SQLiteStore := ⟨.rtree, identifier⟩

namespace SQLiteStore

variable (store : SQLiteStore)

def onCreate (db : DatabaseFile K) : Except SQLiteException (DatabaseFile K) :=
  db.createTable store.tableIdentifier store.kind

/-- `SQLiteOpenHelper.getDatabaseLocked`: a missing file is created at version 0,
and only a file at version 0 makes the helper call `onCreate`. -/
def getDatabaseLocked : Storage K → Except SQLiteException (DatabaseFile K)
  | .noDirectory => .error .cantOpenDatabase
  | .directory file =>
      let db := file.getD (.empty 0)
      if db.version = databaseVersion then .ok db
      else if db.version = 0 then
        (store.onCreate db).map fun db => { db with version := databaseVersion }
      else .error .cantDowngrade

def checkTableExists (db : DatabaseFile K) : Bool :=
  (db.tables store.tableIdentifier).isSome

def initIfAbsent (storage : Storage K) : Except SQLiteException (Storage K) :=
  if DBInit.dbExists storage then .ok storage
  else do
    let db ← store.getDatabaseLocked (DBInit.init storage)
    let db ← store.onCreate db
    return .directory (some db)

/-- The constructor of `SQLiteNaive`, whose table check is commented out. -/
def newNaive (storage : Storage K) : Except SQLiteException (Storage K) :=
  store.initIfAbsent storage

/-- The constructor of `SQLiteRTree`. -/
def newRTree (storage : Storage K) : Except SQLiteException (Storage K) := do
  let storage ← store.initIfAbsent storage
  let db ← store.getDatabaseLocked storage
  if store.checkTableExists db then return .directory (some db)
  else do
    let db ← store.onCreate db
    return .directory (some db)

def insert (point : FullPoint K) (storage : Storage K) :
    Except SQLiteException (Bool × Storage K) := do
  let db ← store.getDatabaseLocked storage
  let (inserted, db) := db.insert store.tableIdentifier (Row.ofPoint point)
  return (inserted, .directory (some db))

/-- `SELECT COUNT(*)`, narrowed from `long` to `int` by `intValue`. -/
def getSize (storage : Storage K) : Except SQLiteException ℤ := do
  let db ← store.getDatabaseLocked storage
  match db.tables store.tableIdentifier with
  | none => .error (.noSuchTable store.tableIdentifier)
  | some table => return (table.rows.length : ℤ).bmod (2 ^ 32)

def range [LinearOrder K] [Coordinate K] (order : ScanOrder K) (region : STRegion K)
    (storage : Storage K) : Except SQLiteException (List (FullPoint K)) := do
  let db ← store.getDatabaseLocked storage
  let rows ← db.select order store.tableIdentifier (rangeWhere region)
  return rows.map Row.toPoint

/-- `SQLiteNaive.clear` swallows the error of a missing table. -/
def clearNaive (storage : Storage K) : Except SQLiteException (Storage K) := do
  let db ← store.getDatabaseLocked storage
  match db.delete store.tableIdentifier with
  | .ok db => return .directory (some db)
  | .error _ => return .directory (some db)

def clearRTree (storage : Storage K) : Except SQLiteException (Storage K) := do
  let db ← store.getDatabaseLocked storage
  let db ← db.delete store.tableIdentifier
  return .directory (some db)

def clear (storage : Storage K) : Except SQLiteException (Storage K) :=
  match store.kind with
  | .plain => store.clearNaive storage
  | .rtree => store.clearRTree storage

end SQLiteStore

def Storage.rowsOf : Storage K → String → Option (List (Row K))
  | .directory (some db), name => (db.tables name).map Table.rows
  | _, _ => none

/-- The file exists and its helpers find it at their own version. -/
def Storage.Opened (storage : Storage K) : Prop :=
  ∃ db, storage = .directory (some db) ∧ db.version = databaseVersion

/-- What a helper can come across: no directory yet, or an opened file. -/
def Storage.Installed (storage : Storage K) : Prop :=
  storage = .noDirectory ∨ storage.Opened

theorem Storage.Opened.ne_noDirectory {storage : Storage K} (h : storage.Opened) :
    storage ≠ .noDirectory := by
  obtain ⟨db, rfl, -⟩ := h
  simp

theorem Storage.Opened.exists_table {storage : Storage K} (h : storage.Opened) {name : String}
    {rows : List (Row K)} (hrows : storage.rowsOf name = some rows) :
    ∃ db table, storage = .directory (some db) ∧ db.version = databaseVersion ∧
      db.tables name = some table ∧ table.rows = rows := by
  obtain ⟨db, rfl, hversion⟩ := h
  obtain ⟨table, htable, hrows⟩ := Option.map_eq_some_iff.mp hrows
  exact ⟨db, table, rfl, hversion, htable, hrows⟩

theorem Storage.rowsOf_setRows (db : DatabaseFile K) (name : String) (table : Table K)
    (rows : List (Row K)) :
    (Storage.directory (some (db.setRows name table rows))).rowsOf =
      Function.update (Storage.directory (some db)).rowsOf name (some rows) := by
  funext other
  rcases eq_or_ne other name with rfl | h
  · simp [Storage.rowsOf, DatabaseFile.setRows]
  · simp [Storage.rowsOf, DatabaseFile.setRows, h]

/-- A statement that changes the rows of one table, on a database without it and on one
that has it. -/
theorem Storage.rowsOf_map_of_absent {db : DatabaseFile K} {name : String}
    (h : db.tables name = none) (f : List (Row K) → List (Row K)) :
    (Storage.directory (some db)).rowsOf = Function.update (Storage.directory (some db)).rowsOf
      name (((Storage.directory (some db)).rowsOf name).map f) := by
  rw [eq_comm, Function.update_eq_self_iff]
  simp [Storage.rowsOf, h]

theorem Storage.rowsOf_map_setRows {db : DatabaseFile K} {name : String} {table : Table K}
    (h : db.tables name = some table) (f : List (Row K) → List (Row K)) :
    (Storage.directory (some (db.setRows name table (f table.rows)))).rowsOf =
      Function.update (Storage.directory (some db)).rowsOf name
        (((Storage.directory (some db)).rowsOf name).map f) := by
  rw [Storage.rowsOf_setRows]
  simp [Storage.rowsOf, h]

theorem DatabaseFile.createTable_of_absent {db : DatabaseFile K} {name : String}
    (kind : TableKind) (h : (Storage.directory (some db)).rowsOf name = none) :
    ∃ after, db.createTable name kind = .ok after ∧ after.version = db.version ∧
      (Storage.directory (some after)).rowsOf =
        Function.update (Storage.directory (some db)).rowsOf name (some []) := by
  have habsent : db.tables name = none := by
    simpa [Storage.rowsOf] using h
  refine ⟨db.setRows name ⟨kind, []⟩ [], ?_, rfl, ?_⟩
  · rw [DatabaseFile.createTable, habsent]
    rfl
  · exact Storage.rowsOf_setRows db name ⟨kind, []⟩ []

namespace SQLiteStore

theorem getDatabaseLocked_of_version (store : SQLiteStore) {db : DatabaseFile K}
    (h : db.version = databaseVersion) :
    store.getDatabaseLocked (.directory (some db)) = .ok db := by
  simp [getDatabaseLocked, h]

theorem initIfAbsent_noDirectory (store : SQLiteStore) :
    ∃ after : Storage K, store.initIfAbsent .noDirectory = .ok after ∧ after.Opened ∧
      after.rowsOf = Function.update (fun _ => none) store.tableIdentifier (some []) := by
  have hopen : store.getDatabaseLocked (.directory (some (.empty databaseVersion))) =
      .ok (DatabaseFile.empty databaseVersion : DatabaseFile K) :=
    store.getDatabaseLocked_of_version rfl
  have habsent : (Storage.directory (some (.empty databaseVersion :
      DatabaseFile K))).rowsOf store.tableIdentifier = none := rfl
  obtain ⟨after, hcreate, hversion, hrows⟩ :=
    DatabaseFile.createTable_of_absent store.kind habsent
  refine ⟨.directory (some after), ?_, ⟨after, rfl, hversion⟩, hrows⟩
  simp [initIfAbsent, DBInit.dbExists, DBInit.init, hopen, onCreate, hcreate, bind,
    Except.bind, pure, Except.pure]

theorem initIfAbsent_directory (store : SQLiteStore) (file : Option (DatabaseFile K)) :
    store.initIfAbsent (.directory file) = .ok (.directory file) := rfl

/-- The tables after the constructor of `SQLiteNaive`, which makes its own table
only together with the database file. -/
def rowsAfterNaive (store : SQLiteStore) : Storage K → String → Option (List (Row K))
  | .noDirectory => Function.update (fun _ => none) store.tableIdentifier (some [])
  | .directory file => (Storage.directory file).rowsOf

theorem rowsAfterNaive_isSome_iff (store : SQLiteStore) (storage : Storage K) (name : String) :
    (store.rowsAfterNaive storage name).isSome = true ↔
      (storage.rowsOf name).isSome = true ∨
        storage = .noDirectory ∧ name = store.tableIdentifier := by
  cases storage with
  | noDirectory => by_cases hname : name = store.tableIdentifier <;>
      simp [rowsAfterNaive, Storage.rowsOf, hname]
  | directory file => simp [rowsAfterNaive]

theorem newNaive_installed (store : SQLiteStore) {storage : Storage K}
    (h : storage.Installed) :
    ∃ after, store.newNaive storage = .ok after ∧ after.Opened ∧
      after.rowsOf = store.rowsAfterNaive storage := by
  rcases h with rfl | hopened
  · exact store.initIfAbsent_noDirectory
  · obtain ⟨db, rfl, -⟩ := id hopened
    exact ⟨_, rfl, hopened, rfl⟩

theorem newRTree_opened (store : SQLiteStore) {storage : Storage K} (h : storage.Opened) :
    ∃ after, store.newRTree storage = .ok after ∧ after.Opened ∧
      after.rowsOf = Function.update storage.rowsOf store.tableIdentifier
        (some ((storage.rowsOf store.tableIdentifier).getD [])) := by
  obtain ⟨db, rfl, hversion⟩ := h
  have hopen := store.getDatabaseLocked_of_version hversion
  cases htable : db.tables store.tableIdentifier with
  | none =>
      have habsent : (Storage.directory (some db)).rowsOf store.tableIdentifier = none := by
        simp [Storage.rowsOf, htable]
      obtain ⟨after, hcreate, hafter, hrows⟩ :=
        db.createTable_of_absent store.kind habsent
      refine ⟨.directory (some after), ?_, ⟨after, rfl, hafter.trans hversion⟩, ?_⟩
      · simp [newRTree, initIfAbsent_directory, hopen, checkTableExists, htable, onCreate,
          hcreate, bind, Except.bind, pure, Except.pure]
      · rw [hrows, habsent, Option.getD_none]
  | some table =>
      refine ⟨.directory (some db), ?_, ⟨db, rfl, hversion⟩, ?_⟩
      · simp [newRTree, initIfAbsent_directory, hopen, checkTableExists, htable, bind,
          Except.bind, pure, Except.pure]
      · rw [eq_comm, Function.update_eq_self_iff]
        simp [Storage.rowsOf, htable]

theorem newRTree_installed (store : SQLiteStore) {storage : Storage K}
    (h : storage.Installed) :
    ∃ after, store.newRTree storage = .ok after ∧ after.Opened ∧
      after.rowsOf = Function.update storage.rowsOf store.tableIdentifier
        (some ((storage.rowsOf store.tableIdentifier).getD [])) := by
  rcases h with rfl | hopened
  · obtain ⟨created, hinit, hopened, hrows⟩ := store.initIfAbsent_noDirectory (K := K)
    obtain ⟨after, hnew, hafter, hrowsAfter⟩ := store.newRTree_opened hopened
    refine ⟨after, ?_, hafter, ?_⟩
    · obtain ⟨db, rfl, -⟩ := hopened
      rw [← hnew]
      simp only [newRTree, hinit, initIfAbsent_directory]
    · rw [hrowsAfter, hrows]
      funext name
      by_cases hname : name = store.tableIdentifier <;> simp [hname, Storage.rowsOf]
  · exact store.newRTree_opened hopened

theorem clearNaive_opened (store : SQLiteStore) {storage : Storage K} (h : storage.Opened) :
    ∃ after, store.clearNaive storage = .ok after ∧ after.Opened ∧
      after.rowsOf = Function.update storage.rowsOf store.tableIdentifier
        ((storage.rowsOf store.tableIdentifier).map fun _ => []) := by
  obtain ⟨db, rfl, hversion⟩ := h
  have hopen := store.getDatabaseLocked_of_version hversion
  cases htable : db.tables store.tableIdentifier with
  | none =>
      refine ⟨.directory (some db), ?_, ⟨db, rfl, hversion⟩, ?_⟩
      · simp [clearNaive, hopen, DatabaseFile.delete, htable, bind, Except.bind, pure,
          Except.pure]
      · exact Storage.rowsOf_map_of_absent htable _
  | some table =>
      refine ⟨.directory (some (db.setRows store.tableIdentifier table [])), ?_,
        ⟨_, rfl, hversion⟩, ?_⟩
      · simp [clearNaive, hopen, DatabaseFile.delete, htable, bind, Except.bind, pure,
          Except.pure]
      · exact Storage.rowsOf_map_setRows htable fun _ => []

theorem insert_opened (store : SQLiteStore) (point : FullPoint K) {storage : Storage K}
    (h : storage.Opened) :
    ∃ after, store.insert point storage =
        .ok ((storage.rowsOf store.tableIdentifier).isSome, after) ∧ after.Opened ∧
      after.rowsOf = Function.update storage.rowsOf store.tableIdentifier
        ((storage.rowsOf store.tableIdentifier).map (· ++ [Row.ofPoint point])) := by
  obtain ⟨db, rfl, hversion⟩ := h
  have hopen := store.getDatabaseLocked_of_version hversion
  cases htable : db.tables store.tableIdentifier with
  | none =>
      refine ⟨.directory (some db), ?_, ⟨db, rfl, hversion⟩, ?_⟩
      · simp [SQLiteStore.insert, hopen, DatabaseFile.insert, htable, Storage.rowsOf, bind,
          Except.bind, pure, Except.pure]
      · exact Storage.rowsOf_map_of_absent htable _
  | some table =>
      refine ⟨.directory (some (db.setRows store.tableIdentifier table
        (table.rows ++ [Row.ofPoint point]))), ?_, ⟨_, rfl, hversion⟩, ?_⟩
      · simp [SQLiteStore.insert, hopen, DatabaseFile.insert, htable, Storage.rowsOf, bind,
          Except.bind, pure, Except.pure]
      · exact Storage.rowsOf_map_setRows htable (· ++ [Row.ofPoint point])

/-- Either `clear` empties a table that exists; the classes differ on a missing
one. -/
theorem clear_opened (store : SQLiteStore) {storage : Storage K} (h : storage.Opened)
    {rows : List (Row K)} (hrows : storage.rowsOf store.tableIdentifier = some rows) :
    ∃ after, store.clear storage = .ok after ∧ after.Opened ∧
      after.rowsOf = Function.update storage.rowsOf store.tableIdentifier (some []) := by
  obtain ⟨after, hclear, hopened, hafter⟩ := store.clearNaive_opened h
  rw [hrows, Option.map_some] at hafter
  refine ⟨after, ?_, hopened, hafter⟩
  obtain ⟨db, table, rfl, hversion, htable, rfl⟩ := h.exists_table hrows
  rw [← hclear]
  unfold clear
  split
  · rfl
  · simp [clearRTree, clearNaive, store.getDatabaseLocked_of_version hversion,
      DatabaseFile.delete, htable, bind, Except.bind]

theorem getSize_opened (store : SQLiteStore) {storage : Storage K} (h : storage.Opened)
    {rows : List (Row K)} (hrows : storage.rowsOf store.tableIdentifier = some rows) :
    store.getSize storage = .ok ((rows.length : ℤ).bmod (2 ^ 32)) := by
  obtain ⟨db, table, rfl, hversion, htable, rfl⟩ := h.exists_table hrows
  simp [getSize, store.getDatabaseLocked_of_version hversion, htable, bind, Except.bind,
    pure, Except.pure]

end SQLiteStore

inductive StoreOp (K : Type) where
  | insert (point : FullPoint K)
  | clear
  deriving DecidableEq

def StoreOp.apply (store : SQLiteStore) (storage : Storage K) :
    StoreOp K → Except SQLiteException (Storage K)
  | .insert point => (store.insert point storage).map Prod.snd
  | .clear => store.clear storage

/-- The points a store is meant to hold after one more operation. -/
def StoreOp.effect (points : List (FullPoint K)) : StoreOp K → List (FullPoint K)
  | .insert point => points ++ [point]
  | .clear => []

def sinceLastClear (ops : List (StoreOp K)) : List (FullPoint K) :=
  ops.foldl StoreOp.effect []

/-- The table of the store exists in an opened file and holds exactly `points`. -/
structure Holds (store : SQLiteStore) (storage : Storage K)
    (points : List (FullPoint K)) : Prop where
  opened : storage.Opened
  rows : storage.rowsOf store.tableIdentifier = some (points.map Row.ofPoint)

theorem apply_holds {store : SQLiteStore} {storage : Storage K}
    {points : List (FullPoint K)} (h : Holds store storage points) (op : StoreOp K) :
    ∃ after, op.apply store storage = .ok after ∧ Holds store after (op.effect points) := by
  cases op with
  | insert point =>
      obtain ⟨after, hinsert, hopened, hrows⟩ := store.insert_opened point h.opened
      refine ⟨after, ?_, hopened, ?_⟩
      · rw [StoreOp.apply, hinsert]
        rfl
      · rw [hrows, Function.update_self, h.rows]
        simp [StoreOp.effect]
  | clear =>
      obtain ⟨after, hclear, hopened, hrows⟩ := store.clear_opened h.opened h.rows
      refine ⟨after, hclear, hopened, ?_⟩
      rw [hrows, Function.update_self]
      rfl

theorem foldlM_apply_holds {store : SQLiteStore} {storage : Storage K}
    {points : List (FullPoint K)} (h : Holds store storage points) (ops : List (StoreOp K)) :
    ∃ after, ops.foldlM (StoreOp.apply store) storage = .ok after ∧
      Holds store after (ops.foldl StoreOp.effect points) := by
  induction ops generalizing storage points with
  | nil => exact ⟨storage, rfl, h⟩
  | cons op ops ih =>
      obtain ⟨next, happly, hnext⟩ := apply_holds h op
      obtain ⟨after, hrun, hafter⟩ := ih hnext
      refine ⟨after, ?_, hafter⟩
      rw [List.foldlM_cons, happly]
      exact hrun

/-- A database file whose only table is that of the store, with the given points. -/
def tableOf (store : SQLiteStore) (points : List (FullPoint K)) : Storage K :=
  .directory (some ⟨databaseVersion,
    Function.update (fun _ => none) store.tableIdentifier
      (some ⟨store.kind, points.map Row.ofPoint⟩)⟩)

theorem holds_tableOf (store : SQLiteStore) (points : List (FullPoint K)) :
    Holds store (tableOf store points) points := by
  refine ⟨⟨_, rfl, rfl⟩, ?_⟩
  simp [tableOf, Storage.rowsOf]

theorem bmod_eq_self_iff (n : ℕ) : (n : ℤ).bmod (2 ^ 32) = n ↔ n < 2 ^ 31 := by
  rw [Int.bmod_def]
  norm_num
  omega

end LSTAndroid.TableStore
