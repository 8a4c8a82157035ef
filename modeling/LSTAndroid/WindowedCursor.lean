import Mathlib.Algebra.Group.Nat.Defs
import Mathlib.Algebra.Ring.Int.Defs

/-!
The cursor over the result of a query, which keeps a window of its rows in memory and
executes the query again when it is moved out of the window.
-/

namespace LSTAndroid.WindowedCursor

/-- A column of a row of the result; a text and a blob are their bytes. -/
inductive Value where
  | null
  | integer (value : BitVec 64)
  | float (bits : BitVec 64)
  | text (bytes : List (BitVec 8))
  | blob (bytes : List (BitVec 8))
  deriving DecidableEq

abbrev Row := List Value

/-- A field of a row in the window; `τ` are the strings of Java. -/
inductive Field (τ : Type) where
  | null
  | long (value : BitVec 64)
  | double (bits : BitVec 64)
  | string (value : τ)
  | blob (bytes : List (BitVec 8))
  deriving DecidableEq

abbrev WindowRow (τ : Type) := List (Field τ)

variable {τ : Type}

/-- The memory of a window: whether a row has room behind others, and what a row is right
after `allocRow`. The memory is of a fixed size, so a row that has room behind others has room
by itself. `newStringUTF` makes the strings, from bytes that it takes for modified UTF-8. -/
structure WindowMemory (τ : Type) where
  newStringUTF : List (BitVec 8) → τ
  hasRoom : List (WindowRow τ) → WindowRow τ → Bool
  allocated : WindowRow τ
  hasRoom_nil : ∀ window row, hasRoom window row = true → hasRoom [] row = true

/-- The field that is put for a column: the text is passed on as a C string. -/
def Value.put (newStringUTF : List (BitVec 8) → τ) : Value → Field τ
  | .null => .null
  | .integer value => .long value
  | .float bits => .double bits
  | .text bytes => .string (newStringUTF (bytes.takeWhile fun byte => byte != 0))
  | .blob bytes => .blob bytes

def WindowMemory.copy (memory : WindowMemory τ) (row : Row) : WindowRow τ :=
  row.map (Value.put memory.newStringUTF)

/-- An execution of the query: it is refused before its first step unless it `starts`; then it
returns the rows, of which an `int` counts the number, and `fails` says whether it ends in an
error. `columnsSet` is what `setNumColumns` returns at the start, and `columnsSetAgain` what it
returns when the window starts again with a row. -/
structure Execution where
  rows : List Row
  starts : Bool
  columnsSet : Bool
  columnsSetAgain : Nat → Bool
  fails : Bool
  countable : rows.length < 2 ^ 31

section Native

structure Filling (τ : Type) where
  window : List (WindowRow τ)
  iStart : Nat
  nRow : Nat
  bOk : Bool

variable (memory : WindowMemory τ)

/-- The fields are put into the row `iRow`, whichever row was allocated. -/
def copyRowToWindow (window : List (WindowRow τ)) (iRow : Nat) (row : Row) :
    List (WindowRow τ) × Bool :=
  if memory.hasRoom window (memory.copy row) && decide (iRow ≤ window.length) then
    ((window ++ [memory.allocated]).set iRow (memory.copy row), true)
  else (window, false)

/-- A row that must be in the window, or comes before the one that must, is tried again in
a window cleared for it; there is no result if the columns cannot be set by then. -/
def copyRow (columnsSetAgain : Nat → Bool) (iRowRequired : Nat) (filling : Filling τ) (row : Row) :
    Option (Filling τ) :=
  let copied := copyRowToWindow memory filling.window (filling.nRow - filling.iStart) row
  if copied.2 then some { filling with window := copied.1 }
  else if filling.nRow ≤ iRowRequired then
    if columnsSetAgain filling.nRow then
      let again := copyRowToWindow memory [] (filling.nRow - filling.nRow) row
      some { filling with window := again.1, iStart := filling.nRow, bOk := again.2 }
    else none
  else some { filling with window := copied.1, bOk := false }

/-- One turn of the loop, and whether it breaks out of the loop. -/
def fillRow (columnsSetAgain : Nat → Bool) (countAllRows : Bool) (iRowRequired : Nat)
    (filling : Filling τ) (row : Row) : Option (Filling τ × Bool) :=
  if decide (filling.iStart ≤ filling.nRow) && filling.bOk then
    (copyRow memory columnsSetAgain iRowRequired filling row).map fun copied =>
      if !copied.bOk && !countAllRows then (copied, true)
      else ({ copied with nRow := copied.nRow + 1 }, false)
  else some ({ filling with nRow := filling.nRow + 1 }, false)

def fillLoop (columnsSetAgain : Nat → Bool) (countAllRows : Bool) (iRowRequired : Nat) :
    List Row → Filling τ → Option (Filling τ × Bool)
  | [], filling => some (filling, false)
  | row :: rest, filling =>
      match fillRow memory columnsSetAgain countAllRows iRowRequired filling row with
      | none => none
      | some (filling, true) => some (filling, true)
      | some (filling, false) => fillLoop columnsSetAgain countAllRows iRowRequired rest filling

/-- `jlong(iStart) << 32 | jlong(nRow)` -/
def nativeResult (iStart nRow : BitVec 32) : BitVec 64 :=
  iStart.signExtend 64 <<< 32 ||| nRow.signExtend 64

def nativeExecuteForCursorWindow (execution : Execution) (startPos iRowRequired : Nat)
    (countAllRows : Bool) : Option (List (WindowRow τ) × BitVec 64) :=
  if execution.columnsSet then
    match fillLoop memory execution.columnsSetAgain countAllRows iRowRequired execution.rows
        ⟨[], startPos, 0, true⟩ with
    | none => some ([], 0)
    | some (filling, broke) =>
        -- A statement that is reset before its end does not report an error.
        if execution.fails && !broke then none
        else some (filling.window, nativeResult (.ofNat 32 filling.iStart) (.ofNat 32 filling.nRow))
  else some ([], 0)

end Native

structure CursorWindow (τ : Type) where
  startPosition : Int
  rows : List (WindowRow τ)
  deriving DecidableEq

def CursorWindow.getRow (window : CursorWindow τ) (position : Int) : Option (WindowRow τ) :=
  if position < window.startPosition then none
  else window.rows[(position - window.startPosition).toNat]?

/-- The method of the connection: the window and the counted rows, or an exception. -/
def executeForCursorWindow (memory : WindowMemory τ) (execution : Execution)
    (startPos requiredPos : Int) (countAllRows : Bool) : Option (CursorWindow τ × Int) :=
  if execution.starts then
    (nativeExecuteForCursorWindow memory execution startPos.toNat requiredPos.toNat
      countAllRows).map fun (rows, result) =>
        (⟨((result.sshiftRight 32).setWidth 32).toInt, rows⟩, (result.setWidth 32).toInt)
  else none

def cursorPickFillWindowStartPosition (cursorPosition cursorWindowCapacity : Int) : Int :=
  max (cursorPosition - cursorWindowCapacity.tdiv 3) 0

def noCount : Int := -1

/-- `closed` says that the cursor and its query are closed. -/
structure SQLiteCursor (τ : Type) where
  mWindow : Option (CursorWindow τ)
  mPos : Int
  mCount : Int
  mCursorWindowCapacity : Int
  closed : Bool
  deriving DecidableEq

/-- What a call returns. A position before the first row or behind the last one is an
answer; all other exceptions are not. -/
inductive Reply (τ : Type) where
  | moved (moved : Bool)
  | count (count : Int)
  | row (row : WindowRow τ)
  | outOfBounds
  | done
  deriving DecidableEq

/-- The executions are those of the query that a call makes if it needs them: to count
the rows, and to move. After `requery`, the result of the query is `result`. -/
inductive Call where
  | moveToPosition (position : Int) (counting moving : Execution)
  | getCount (counting : Execution)
  | getRow (counting : Execution)
  | requery (databaseOpen : Bool) (result : List Row)
  | deactivate
  | close

namespace SQLiteCursor

def start : SQLiteCursor τ :=
  ⟨none, -1, noCount, 0, false⟩

def setWindow (window : Option (CursorWindow τ)) (cursor : SQLiteCursor τ) : SQLiteCursor τ :=
  { cursor with mWindow := window, mCount := noCount }

def clearOrCreateWindow (cursor : SQLiteCursor τ) : SQLiteCursor τ :=
  match cursor.mWindow with
  | none => cursor.setWindow (some ⟨0, []⟩)
  | some _ => { cursor with mWindow := some ⟨0, []⟩ }

variable (memory : WindowMemory τ)

/-- The cursor, and whether the query has been executed without an exception. -/
def fillWindow (requiredPos : Int) (execution : Execution) (cursor : SQLiteCursor τ) :
    SQLiteCursor τ × Bool :=
  let cursor := cursor.clearOrCreateWindow
  let counting := decide (cursor.mCount = noCount)
  let startPos := cursorPickFillWindowStartPosition requiredPos
    (if counting then 0 else cursor.mCursorWindowCapacity)
  let filled :=
    if cursor.closed then none
    else executeForCursorWindow memory execution startPos requiredPos counting
  match filled with
  | none => (cursor.setWindow none, false)
  | some (window, counted) =>
      let cursor := { cursor with mWindow := some window }
      if counting then
        ({ cursor with mCount := counted, mCursorWindowCapacity := window.rows.length }, true)
      else (cursor, true)

def getCount (counting : Execution) (cursor : SQLiteCursor τ) : SQLiteCursor τ × Option Int :=
  if cursor.mCount = noCount then
    match cursor.fillWindow memory 0 counting with
    | (cursor, false) => (cursor, none)
    | (cursor, true) => (cursor, some cursor.mCount)
  else (cursor, some cursor.mCount)

def inWindow (position : Int) (cursor : SQLiteCursor τ) : Bool :=
  match cursor.mWindow with
  | none => false
  | some window => decide (window.startPosition ≤ position) &&
      decide (position < window.startPosition + window.rows.length)

def onMove (newPosition : Int) (moving : Execution) (cursor : SQLiteCursor τ) :
    SQLiteCursor τ × Bool :=
  if cursor.inWindow newPosition then (cursor, true)
  else cursor.fillWindow memory newPosition moving

def moveToPosition (position : Int) (counting moving : Execution) (cursor : SQLiteCursor τ) :
    SQLiteCursor τ × Option (Reply τ) :=
  match cursor.getCount memory counting with
  | (cursor, none) => (cursor, none)
  | (cursor, some count) =>
      if count ≤ position then ({ cursor with mPos := count }, some (.moved false))
      else if position < 0 then ({ cursor with mPos := -1 }, some (.moved false))
      else if position = cursor.mPos then (cursor, some (.moved true))
      else
        match cursor.onMove memory position moving with
        | (cursor, false) => (cursor, none)
        | (cursor, true) => ({ cursor with mPos := position }, some (.moved true))

/-- The row that the getters of the cursor read a field of. -/
def getRow (counting : Execution) (cursor : SQLiteCursor τ) :
    SQLiteCursor τ × Option (Reply τ) :=
  match cursor.getCount memory counting with
  | (cursor, none) => (cursor, none)
  | (cursor, some count) =>
      if cursor.mPos = -1 ∨ cursor.mPos = count then (cursor, some .outOfBounds)
      else (cursor, (cursor.mWindow.bind fun window => window.getRow cursor.mPos).map .row)

/-- It does nothing and returns false when the cursor or the database is closed. -/
def requery (databaseOpen : Bool) (cursor : SQLiteCursor τ) : SQLiteCursor τ × Option (Reply τ) :=
  if cursor.closed || !databaseOpen then (cursor, none)
  else
    ({ cursor with
        mWindow := cursor.mWindow.map fun _ => ⟨0, []⟩
        mPos := -1
        mCount := noCount }, some .done)

def call (cursor : SQLiteCursor τ) : Call → SQLiteCursor τ × Option (Reply τ)
  | .moveToPosition position counting moving =>
      cursor.moveToPosition memory position counting moving
  | .getCount counting =>
      match cursor.getCount memory counting with
      | (cursor, count) => (cursor, count.map .count)
  | .getRow counting => cursor.getRow memory counting
  | .requery databaseOpen _ => cursor.requery databaseOpen
  -- Both close the window of the superclass, without `setWindow`.
  | .deactivate => ({ cursor with mWindow := none }, some .done)
  | .close => ({ cursor with mWindow := none, closed := true }, some .done)

end SQLiteCursor

end LSTAndroid.WindowedCursor
