import LSTAndroid.Library.HashTable

namespace LSTAndroid.Library.SmallDatabase

open LSTAndroid.Library.HashTable

inductive Value where
  | null
  | integer (value : ℤ)
  | text (value : String)
  deriving DecidableEq

/-- A column `rowid` numbers the rows. -/
inductive ColumnKind where
  | rowid
  | unique
  | plain
  deriving DecidableEq

structure Column where
  name : String
  kind : ColumnKind
  deriving DecidableEq

abbrev Row := List Value

structure SqlTable where
  columns : List Column
  rows : List Row

abbrev Database := Table String SqlTable

def SqlTable.newRow (values : List (String × String)) (table : SqlTable) : Row :=
  table.columns.map fun column =>
    match column.kind, values.lookup column.name with
    | .rowid, _ => .integer (table.rows.length + 1)
    | _, some value => .text value
    | _, none => .null

/-- The rows have the same value in a unique column; nulls are never the same. -/
def clash : List Column → Row → Row → Prop
  | column :: columns, old :: olds, new :: news =>
      (column.kind = .unique ∧ old = new ∧ new ≠ .null) ∨ clash columns olds news
  | _, _, _ => False

instance decidableClash : ∀ columns old new, Decidable (clash columns old new)
  | [], _, _ => .isFalse id
  | _ :: _, [], _ => .isFalse id
  | _ :: _, _ :: _, [] => .isFalse id
  | column :: columns, old :: olds, new :: news =>
      have := decidableClash columns olds news
      inferInstanceAs (Decidable ((column.kind = .unique ∧ old = new ∧ new ≠ .null) ∨ _))

def SqlTable.Accepts (values : List (String × String)) (table : SqlTable) : Prop :=
  (∀ value ∈ values, ∃ column ∈ table.columns, column.name = value.1) ∧
    ∀ old ∈ table.rows, ¬ clash table.columns old (table.newRow values)

instance (values : List (String × String)) (table : SqlTable) :
    Decidable (table.Accepts values) :=
  inferInstanceAs (Decidable (_ ∧ _))

def SqlTable.insert (values : List (String × String)) (table : SqlTable) : SqlTable :=
  { table with rows := table.rows ++ [table.newRow values] }

/-- The number of the new row, or `-1` when the insert fails. -/
def Database.insert (name : String) (values : List (String × String)) (db : Database) :
    ℤ × Database :=
  match db.lookup name with
  | none => (-1, db)
  | some table =>
      if table.Accepts values then
        (table.rows.length + 1, AList.insert name (table.insert values) db)
      else (-1, db)

def Database.createTable (name : String) (columns : List Column) (db : Database) :
    Option Database :=
  if name ∈ db then none else some (AList.insert name ⟨columns, []⟩ db)

theorem insert_of_missing {name : String} {db : Database} (h : db.lookup name = none)
    (values : List (String × String)) : db.insert name values = (-1, db) := by
  rw [Database.insert, h]

/-- `SELECT * from table WHERE column=text;` -/
structure Select where
  table : String
  column : String
  text : String

inductive SelectError where
  | noSuchTable (name : String)
  | noSuchColumn (name : String)
  | badText
  deriving DecidableEq

/-- `engine` reads the text of a condition on a column that the table has. -/
def Database.rawQuery (engine : Database → Select → Except SelectError (List Row))
    (db : Database) (query : Select) : Except SelectError (List Row) :=
  match db.lookup query.table with
  | none => .error (.noSuchTable query.table)
  | some table =>
      if ∃ column ∈ table.columns, column.name = query.column then engine db query
      else .error (.noSuchColumn query.column)

variable {engine : Database → Select → Except SelectError (List Row)}

theorem rawQuery_of_column {db : Database} {query : Select} {table : SqlTable}
    (htable : db.lookup query.table = some table)
    (hcolumn : ∃ column ∈ table.columns, column.name = query.column) :
    db.rawQuery engine query = engine db query := by
  rw [Database.rawQuery, htable]
  exact if_pos hcolumn

theorem rawQuery_of_missing_column {db : Database} {query : Select} {table : SqlTable}
    (htable : db.lookup query.table = some table)
    (hcolumn : ¬ ∃ column ∈ table.columns, column.name = query.column) :
    db.rawQuery engine query = .error (.noSuchColumn query.column) := by
  rw [Database.rawQuery, htable]
  exact if_neg hcolumn

end LSTAndroid.Library.SmallDatabase
