import LSTAndroid.CursorRuns

namespace LSTAndroid.WindowedCursor

open LSTAndroid.Library.RefusedCalls

structure PlainCursor where
  rows : List Row
  pos : Int

variable {τ : Type} {memory : WindowMemory τ} {cursor after : SQLiteCursor τ} {position : Int}
  {execution counting moving : Execution} {plain : PlainCursor} {rows : List Row}

namespace PlainCursor

variable (memory : WindowMemory τ)

def row? (cursor : PlainCursor) : Option (WindowRow τ) :=
  if cursor.pos < 0 then none else cursor.rows[cursor.pos.toNat]?.map memory.copy

def call (cursor : PlainCursor) : Call → PlainCursor × Reply τ
  | .moveToPosition position _ _ =>
      if (cursor.rows.length : Int) ≤ position then
        ({ cursor with pos := cursor.rows.length }, .moved false)
      else if position < 0 then ({ cursor with pos := -1 }, .moved false)
      else ({ cursor with pos := position }, .moved true)
  | .getCount _ => (cursor, .count cursor.rows.length)
  | .getRow _ => (cursor, ((cursor.row? memory).map Reply.row).getD .outOfBounds)
  | .requery _ result => (⟨result, -1⟩, .done)
  | .deactivate | .close => (cursor, .done)

end PlainCursor

/-- The execution returns the rows as they are, or the first of them before it fails, and the
columns of the window can be set for it. -/
structure Execution.Returns (rows : List Row) (execution : Execution) : Prop where
  columnsSet : execution.ColumnsSet
  returned : execution.rows <+: rows
  whole : execution.fails = false → execution.rows = rows

theorem Execution.Returns.reports {count : Int} (h : execution.Returns rows)
    (hreports : execution.Reports count) : count = rows.length := by
  rcases hreports with ⟨hsucceeds, rfl⟩ | ⟨hunset, -⟩
  · rw [h.whole hsucceeds]
  · exact absurd h.columnsSet hunset

theorem Execution.Returns.copies {index : Nat} {shown : WindowRow τ} (h : execution.Returns rows)
    (hrow : (execution.copies memory)[index]? = some shown) :
    rows[index]?.map memory.copy = some shown := by
  rw [Execution.copies, List.getElem?_map] at hrow
  obtain ⟨row, hread, rfl⟩ := Option.map_eq_some_iff.mp hrow
  obtain ⟨rest, hrest⟩ := h.returned
  have hless := (List.getElem?_eq_some_iff.mp hread).1
  rw [← hrest, List.getElem?_append_left hless, hread]
  rfl

/-- The result does not change with the executions that a call makes, though these may fail. -/
def Call.Executes (plain : PlainCursor) (call : Call) : Prop :=
  ∀ execution ∈ call.executions, execution.Returns plain.rows

/-- The cursor is at the same position, and what it knows of the result is true. -/
structure Mirrors (memory : WindowMemory τ) (cursor : SQLiteCursor τ) (plain : PlainCursor) :
    Prop where
  mPos : cursor.mPos = plain.pos
  backed : Backed memory (Execution.Returns plain.rows) cursor

theorem Mirrors.start (memory : WindowMemory τ) (rows : List Row) :
    Mirrors memory .start ⟨rows, -1⟩ :=
  ⟨rfl, .start memory _⟩

/-- A call that is served is answered from the rows, and one that is refused leaves the
cursor where it is. -/
theorem Mirrors.call {call : Call} {reply : Option (Reply τ)} (h : Mirrors memory cursor plain)
    (hexecutes : call.Executes plain) (hcall : cursor.call memory call = (after, reply)) :
    reply = none ∧ Mirrors memory after plain ∨
      reply = some (plain.call memory call).2 ∧
        Mirrors memory after (plain.call memory call).1 := by
  cases call with
  | moveToPosition position counting moving =>
      obtain ⟨hbacked, ⟨rfl, hpos⟩ | ⟨execution, count, hreturns, hreports, hcases⟩⟩ :=
        h.backed.moveToPosition (hexecutes counting (by simp [Call.executions]))
          (hexecutes moving (by simp [Call.executions])) hcall
      · exact .inl ⟨rfl, hpos.trans h.mPos, hbacked⟩
      obtain rfl := hreturns.reports hreports
      refine .inr ?_
      unfold PlainCursor.call
      dsimp only
      rcases hcases with ⟨hbehind, hpos, rfl⟩ | ⟨hwithin, hbefore, hpos, rfl⟩ |
        ⟨hwithin, hnonneg, hpos, rfl⟩
      · rw [if_pos hbehind]
        exact ⟨rfl, hpos, hbacked⟩
      · rw [if_neg (Int.not_le.mpr hwithin), if_pos hbefore]
        exact ⟨rfl, hpos, hbacked⟩
      · rw [if_neg (Int.not_le.mpr hwithin), if_neg (Int.not_lt.mpr hnonneg)]
        exact ⟨rfl, hpos, hbacked⟩
  | getCount counting =>
      unfold SQLiteCursor.call at hcall
      dsimp only at hcall
      rcases hcount : cursor.getCount memory counting with ⟨counted, count⟩
      rw [hcount] at hcall
      obtain ⟨rfl, rfl⟩ := Prod.mk.inj hcall
      have hcounted := h.backed.getCount (hexecutes counting (by simp [Call.executions])) hcount
      have hmirrors : Mirrors memory counted plain :=
        ⟨hcounted.mPos.trans h.mPos, hcounted.backed⟩
      cases count with
      | none => exact .inl ⟨rfl, hmirrors⟩
      | some count =>
          obtain ⟨-, execution, hreturns, hreports⟩ := hcounted.count count rfl
          obtain rfl := hreturns.reports hreports
          exact .inr ⟨rfl, hmirrors⟩
  | getRow counting =>
      obtain ⟨hbacked, hpos, hcases⟩ :=
        h.backed.getRow (hexecutes counting (by simp [Call.executions])) hcall
      have hmirrors : Mirrors memory after plain := ⟨hpos.trans h.mPos, hbacked⟩
      rw [h.mPos] at hcases
      unfold PlainCursor.call PlainCursor.row?
      dsimp only
      rcases hcases with rfl | ⟨houtside, rfl⟩ |
        ⟨execution, shown, hnonneg, -, hreturns, hrow, rfl⟩
      · exact .inl ⟨rfl, hmirrors⟩
      · refine .inr ⟨?_, hmirrors⟩
        rcases houtside with hbefore | ⟨execution, hreturns, hreports⟩
        · rw [hbefore]
          rfl
        · rw [hreturns.reports hreports, if_neg (by omega), Int.toNat_natCast,
            List.getElem?_eq_none (Nat.le_refl _)]
          rfl
      · refine .inr ⟨?_, hmirrors⟩
        rw [if_neg (Int.not_lt.mpr hnonneg), hreturns.copies hrow]
        rfl
  | requery databaseOpen result =>
      unfold SQLiteCursor.call SQLiteCursor.requery at hcall
      dsimp only at hcall
      split at hcall
      · obtain ⟨rfl, rfl⟩ := Prod.mk.inj hcall
        exact .inl ⟨rfl, h⟩
      · obtain ⟨rfl, rfl⟩ := Prod.mk.inj hcall
        exact .inr ⟨rfl, rfl, h.backed.cleared (-1)⟩
  | deactivate =>
      obtain ⟨rfl, rfl⟩ := Prod.mk.inj hcall
      exact .inr ⟨rfl, h.mPos, h.backed.withoutWindow cursor.closed⟩
  | close =>
      obtain ⟨rfl, rfl⟩ := Prod.mk.inj hcall
      exact .inr ⟨rfl, h.mPos, h.backed.withoutWindow true⟩

theorem refines_plainCursor (memory : WindowMemory τ) :
    Refines (SQLiteCursor.call memory) (PlainCursor.call memory) Call.Executes
      (Mirrors memory) where
  refuse := by
    intro cursor next plain call h hexecutes hcall
    rcases h.call hexecutes hcall with ⟨-, hnext⟩ | ⟨hserved, -⟩
    · exact hnext
    · cases hserved
  serve := by
    intro cursor next plain call reply h hexecutes hcall
    rcases h.call hexecutes hcall with ⟨hrefused, -⟩ | ⟨hserved, hnext⟩
    · cases hrefused
    · exact ⟨hnext, (Option.some.inj hserved).symm⟩

/-- The execution of `fourRows` that fails after two rows. -/
def twoRows : Execution :=
  { fourRows true with rows := [[.integer 2], [.text [65, 66]]], countable := by decide }

/-- The query fails when the cursor is moved to the last row, and does not fail the next time. -/
def callsWithFailure : List Call :=
  [.moveToPosition 3 (fourRows false) twoRows,
    .moveToPosition 3 (fourRows false) (fourRows false), .getRow (fourRows false)]

theorem fourRows_returns (fails : Bool) : (fourRows fails).Returns (fourRows false).rows :=
  ⟨⟨rfl, fun _ _ => rfl⟩, List.prefix_refl _, fun _ => rfl⟩

theorem twoRows_returns : twoRows.Returns (fourRows false).rows :=
  ⟨⟨rfl, fun _ _ => rfl⟩, ⟨_, rfl⟩, (fun hsucceeds => by cases hsucceeds)⟩

section Served

/-- The execution goes through, and returns the rows as they are. -/
structure Execution.Works (rows : List Row) (execution : Execution) : Prop where
  columnsSet : execution.ColumnsSet
  returned : execution.rows = rows
  starts : execution.starts = true
  succeeds : execution.fails = false

theorem Execution.Works.returns (h : execution.Works rows) : execution.Returns rows :=
  ⟨h.columnsSet, h.returned ▸ List.prefix_refl _, fun _ => h.returned⟩

/-- The calls that are made of a cursor in use, neither deactivated nor closed, while nothing
goes wrong and nothing changes. -/
def Call.Works (rows : List Row) : Call → Prop
  | .moveToPosition _ counting moving => counting.Works rows ∧ moving.Works rows
  | .getCount counting | .getRow counting => counting.Works rows
  | .requery databaseOpen result => databaseOpen = true ∧ result = rows
  | .deactivate | .close => False

theorem Call.Works.executes {call : Call} (h : call.Works plain.rows) : call.Executes plain := by
  intro execution hexecution
  cases call with
  | moveToPosition position counting moving =>
      simp only [Call.executions, List.mem_cons, List.not_mem_nil, or_false] at hexecution
      rcases hexecution with rfl | rfl
      · exact h.1.returns
      · exact h.2.returns
  | getCount counting =>
      obtain rfl := List.mem_singleton.mp hexecution
      exact Execution.Works.returns h
  | getRow counting =>
      obtain rfl := List.mem_singleton.mp hexecution
      exact Execution.Works.returns h
  | requery databaseOpen result => cases hexecution
  | deactivate => cases hexecution
  | close => cases hexecution

theorem Execution.Works.executeForCursorWindow_isSome (h : execution.Works rows)
    (memory : WindowMemory τ) (startPos requiredPos : Int) (countAllRows : Bool) :
    (executeForCursorWindow memory execution startPos requiredPos countAllRows).isSome = true := by
  unfold executeForCursorWindow nativeExecuteForCursorWindow
  rw [h.starts, h.succeeds, if_pos rfl, Option.isSome_map]
  split
  · split
    · rfl
    · rfl
  · rfl

theorem Execution.Works.fillWindow (h : execution.Works rows) (hclosed : cursor.closed = false) :
    (cursor.fillWindow memory position execution).2 = true := by
  have hcleared : cursor.clearOrCreateWindow.closed = false := by
    unfold SQLiteCursor.clearOrCreateWindow
    split
    · exact hclosed
    · exact hclosed
  unfold SQLiteCursor.fillWindow
  dsimp only
  rw [hcleared, if_neg Bool.false_ne_true]
  split
  · rename_i hnone
    have hsome := h.executeForCursorWindow_isSome memory
      (cursorPickFillWindowStartPosition position
        (if decide (cursor.clearOrCreateWindow.mCount = noCount) = true then 0
          else cursor.clearOrCreateWindow.mCursorWindowCapacity))
      position (decide (cursor.clearOrCreateWindow.mCount = noCount))
    rw [hnone] at hsome
    cases hsome
  · split
    · rfl
    · rfl

/-- The row at the position of the cursor is in its window, if there is one. -/
structure Ready (memory : WindowMemory τ) (cursor : SQLiteCursor τ) (plain : PlainCursor) :
    Prop where
  mirrors : Mirrors memory cursor plain
  closed : cursor.closed = false
  fits : ∀ row ∈ plain.rows, memory.hasRoom [] (memory.copy row) = true
  pos_ge : -1 ≤ plain.pos
  pos_le : plain.pos ≤ plain.rows.length
  shown : 0 ≤ plain.pos → plain.pos < plain.rows.length →
    cursor.mCount ≠ noCount ∧ cursor.inWindow plain.pos = true

theorem Ready.getCount (h : Ready memory cursor plain) (hworks : counting.Works plain.rows) :
    ∃ counted, cursor.getCount memory counting = (counted, some (plain.rows.length : Int)) ∧
      counted.mCount = plain.rows.length ∧ Ready memory counted plain := by
  rcases hcount : cursor.getCount memory counting with ⟨counted, count⟩
  have hcounted := h.mirrors.backed.getCount hworks.returns hcount
  have hmirrors : Mirrors memory counted plain :=
    ⟨hcounted.mPos.trans h.mirrors.mPos, hcounted.backed⟩
  unfold SQLiteCursor.getCount at hcount
  split at hcount
  · rename_i hunknown
    have hfilled : (cursor.fillWindow memory 0 counting).2 = true := hworks.fillWindow h.closed
    split at hcount
    · rename_i filled hfill
      rw [hfill] at hfilled
      cases hfilled
    · rename_i filled hfill
      obtain ⟨rfl, rfl⟩ := Prod.mk.inj hcount
      obtain ⟨-, execution, hreturns, hreports⟩ := hcounted.count _ rfl
      have hlength := hreturns.reports hreports
      have hrefilled := refilled_fillWindow h.mirrors.backed.capacity (Int.le_refl 0) (by decide)
        hfill
      refine ⟨filled, by rw [hlength], hlength, hmirrors, hrefilled.closed.trans h.closed, h.fits,
        h.pos_ge, h.pos_le, fun hnonneg hless => ?_⟩
      exact absurd hunknown (h.shown hnonneg hless).1
  · obtain ⟨rfl, rfl⟩ := Prod.mk.inj hcount
    obtain ⟨-, execution, hreturns, hreports⟩ := hcounted.count _ rfl
    have hlength := hreturns.reports hreports
    exact ⟨cursor, by rw [hlength], hlength, h⟩

theorem Ready.onMove (h : Ready memory cursor plain) (hknown : cursor.mCount = plain.rows.length)
    (hworks : moving.Works plain.rows) (hnonneg : 0 ≤ position)
    (hless : position < plain.rows.length) :
    ∃ moved, cursor.onMove memory position moving = (moved, true) ∧
      Backed memory (Execution.Returns plain.rows) moved ∧ moved.closed = false ∧
      moved.mCount ≠ noCount ∧
      moved.inWindow position = true := by
  have hcounted : cursor.mCount ≠ noCount := by
    rw [hknown, noCount]
    omega
  unfold SQLiteCursor.onMove
  split
  · rename_i hin
    exact ⟨cursor, rfl, h.mirrors.backed, h.closed, hcounted, hin⟩
  · have hbound : plain.rows.length < 2 ^ 31 := by
      rw [← hworks.returned]
      exact moving.countable
    have hok : (cursor.fillWindow memory position moving).2 = true := hworks.fillWindow h.closed
    rcases hfill : cursor.fillWindow memory position moving with ⟨moved, ok⟩
    rw [hfill] at hok
    dsimp only at hok
    subst hok
    have hrefilled := refilled_fillWindow h.mirrors.backed.capacity hnonneg (by omega) hfill
    obtain ⟨startPos, countAllRows, window, counted, -, hwindow, hsome, hcases⟩ :=
      hrefilled.filled rfl
    replace hwindow := hwindow.resolve_left fun hunset => hunset.1 hworks.columnsSet
    refine ⟨moved, rfl, h.mirrors.backed.refill hworks.returns hrefilled,
      hrefilled.closed.trans h.closed, ?_, ?_⟩
    · rcases hcases with ⟨hall, hcount, -⟩ | ⟨hkept, -⟩
      · rw [hcount, (hwindow.counted hall).2, noCount]
        omega
      · rwa [hkept]
    · have hfits : RowsFit memory (moving.copies memory) startPos position := by
        intro index shown _ _ hrow
        obtain ⟨row, hread, rfl⟩ := Option.map_eq_some_iff.mp (hworks.returns.copies hrow)
        exact h.fits row (List.mem_of_getElem? hread)
      have hin := (hwindow.required (hworks.returned ▸ hless)).mpr hfits
      obtain ⟨hstart, hend⟩ := CursorWindow.getRow_isSome_iff.mp hin
      unfold SQLiteCursor.inWindow
      rw [hsome]
      simp only [Bool.and_eq_true, decide_eq_true_eq]
      exact ⟨hstart, hend⟩

theorem Ready.moved {pos : Int} (h : Ready memory cursor plain) (hge : -1 ≤ pos)
    (hle : pos ≤ plain.rows.length)
    (hshown : 0 ≤ pos → pos < plain.rows.length →
      cursor.mCount ≠ noCount ∧ cursor.inWindow pos = true) :
    Ready memory { cursor with mPos := pos } { plain with pos := pos } :=
  ⟨⟨rfl, h.mirrors.backed.moved pos⟩, h.closed, h.fits, hge, hle, hshown⟩

theorem Ready.moveToPosition (h : Ready memory cursor plain)
    (hcounting : counting.Works plain.rows) (hmoving : moving.Works plain.rows) :
    ∃ next reply, cursor.moveToPosition memory position counting moving = (next, some reply) ∧
      Ready memory next (plain.call memory (.moveToPosition position counting moving)).1 := by
  obtain ⟨counted, hcount, hlength, hcounted⟩ := h.getCount hcounting
  unfold SQLiteCursor.moveToPosition PlainCursor.call
  rw [hcount]
  dsimp only
  split
  · exact ⟨_, _, rfl, hcounted.moved (by omega) (Int.le_refl _) fun _ hless =>
      absurd hless (Int.lt_irrefl _)⟩
  rename_i hwithin
  split
  · exact ⟨_, _, rfl, hcounted.moved (Int.le_refl _) (by omega) fun hnonneg => by omega⟩
  rename_i hnonneg
  rw [Int.not_le] at hwithin
  rw [Int.not_lt] at hnonneg
  split
  · rename_i hsame
    have hpos : position = plain.pos := hsame.trans hcounted.mirrors.mPos
    subst hpos
    exact ⟨_, _, rfl, hcounted⟩
  · obtain ⟨moved, hmove, hbacked, hclosed, hknown, hin⟩ :=
      hcounted.onMove hlength hmoving hnonneg hwithin
    rw [hmove]
    exact ⟨_, _, rfl, ⟨rfl, hbacked.moved position⟩, hclosed, h.fits,
      by dsimp only; omega, Int.le_of_lt hwithin, fun _ _ => ⟨hknown, hin⟩⟩

theorem Ready.getRow (h : Ready memory cursor plain) (hcounting : counting.Works plain.rows) :
    ∃ next reply, cursor.getRow memory counting = (next, some reply) ∧
      Ready memory next plain := by
  obtain ⟨counted, hcount, hlength, hcounted⟩ := h.getCount hcounting
  unfold SQLiteCursor.getRow
  rw [hcount]
  dsimp only
  split
  · exact ⟨counted, _, rfl, hcounted⟩
  · rename_i hinside
    rw [hcounted.mirrors.mPos, not_or] at hinside
    have hge := hcounted.pos_ge
    have hle := hcounted.pos_le
    have hin := (hcounted.shown (by omega) (by omega)).2
    rw [hcounted.mirrors.mPos]
    unfold SQLiteCursor.inWindow at hin
    split at hin
    · cases hin
    · rename_i window hwindow
      simp only [Bool.and_eq_true, decide_eq_true_eq] at hin
      obtain ⟨row, hrow⟩ := Option.isSome_iff_exists.mp (CursorWindow.getRow_isSome_iff.mpr hin)
      rw [hwindow, Option.bind_some, hrow]
      exact ⟨counted, _, rfl, hcounted⟩

/-- No call is refused as long as every row fits, and the cursor is ready for the next one. -/
theorem Ready.call {call : Call} (h : Ready memory cursor plain)
    (hworks : call.Works plain.rows) :
    ∃ next reply, cursor.call memory call = (next, some reply) ∧
      Ready memory next (plain.call memory call).1 := by
  cases call with
  | moveToPosition position counting moving => exact h.moveToPosition hworks.1 hworks.2
  | getCount counting =>
      obtain ⟨counted, hcount, -, hcounted⟩ := h.getCount hworks
      refine ⟨counted, .count plain.rows.length, ?_, hcounted⟩
      unfold SQLiteCursor.call
      dsimp only
      rw [hcount]
      rfl
  | getRow counting => exact h.getRow hworks
  | requery databaseOpen result =>
      obtain ⟨rfl, rfl⟩ := hworks
      have hcall : cursor.call memory (.requery true plain.rows) =
          ({ cursor with
              mWindow := cursor.mWindow.map fun _ => ⟨0, []⟩
              mPos := -1
              mCount := noCount }, some .done) := by
        unfold SQLiteCursor.call SQLiteCursor.requery
        dsimp only
        rw [h.closed]
        rfl
      refine ⟨_, .done, hcall, ⟨rfl, h.mirrors.backed.cleared (-1)⟩, h.closed, h.fits,
        Int.le_refl _, ?_, fun hnonneg => ?_⟩
      · dsimp only [PlainCursor.call]
        omega
      · dsimp only [PlainCursor.call] at hnonneg
        omega
  | deactivate => exact hworks.elim
  | close => exact hworks.elim

theorem Ready.start (hfits : ∀ row ∈ rows, memory.hasRoom [] (memory.copy row) = true) :
    Ready memory .start ⟨rows, -1⟩ where
  mirrors := .start memory rows
  closed := rfl
  fits := hfits
  pos_ge := Int.le_refl _
  pos_le := by
    dsimp only
    omega
  shown := by
    intro hnonneg
    dsimp only at hnonneg
    omega

theorem Call.Works.rows_eq {call : Call} (h : call.Works rows) (hrows : plain.rows = rows) :
    (plain.call memory call).1.rows = rows := by
  cases call with
  | moveToPosition position counting moving =>
      unfold PlainCursor.call
      dsimp only
      split
      · exact hrows
      split
      · exact hrows
      · exact hrows
  | getCount counting => exact hrows
  | getRow counting => exact hrows
  | requery databaseOpen result => exact h.2
  | deactivate => exact h.elim
  | close => exact h.elim

theorem hasRoom_of_served {position : Nat} {row : Row} (hrow : rows[position]? = some row)
    (hworks : execution.Works rows)
    (hserved : (served (SQLiteCursor.call memory) .start
      [.moveToPosition position execution execution, .getRow execution]).map Prod.fst =
        [.moveToPosition position execution execution, .getRow execution]) :
    memory.hasRoom [] (memory.copy row) = true := by
  have hless := (List.getElem?_eq_some_iff.mp hrow).1
  have hexecutes : (Call.moveToPosition position execution execution).Executes ⟨rows, -1⟩ :=
    Call.Works.executes (show Call.Works rows _ from ⟨hworks, hworks⟩)
  have hlength := congrArg List.length hserved
  rcases hmove : SQLiteCursor.start.call memory (.moveToPosition position execution execution) with
    ⟨next, moved⟩
  have hmoved := (Mirrors.start memory rows).call hexecutes hmove
  rcases hread : next.call memory (.getRow execution) with ⟨after, reply⟩
  unfold served at hlength
  rw [hmove] at hlength
  rcases hmoved with ⟨rfl, -⟩ | ⟨rfl, hnext⟩
  · dsimp only [served] at hlength
    rw [hread] at hlength
    rcases reply with _ | reply
    · simp at hlength
    · simp at hlength
  · unfold PlainCursor.call at hnext
    dsimp only at hnext
    rw [if_neg (by omega), if_neg (by omega)] at hnext
    obtain ⟨-, -, rfl | ⟨houtside, -⟩ | ⟨returned, shown, -, hroom, hreturns, hshown, -⟩⟩ :=
      hnext.backed.getRow hworks.returns hread
    · dsimp only [served] at hlength
      rw [hread] at hlength
      simp at hlength
    · rw [hnext.mPos] at houtside
      dsimp only at houtside
      rcases houtside with hbefore | ⟨returned, hreturns, hreports⟩
      · omega
      · have hlength := hreturns.reports hreports
        omega
    · rw [hnext.mPos] at hshown
      have hcopied := hreturns.copies hshown
      dsimp only at hcopied
      rw [Int.toNat_natCast, hrow, Option.map_some] at hcopied
      obtain rfl := Option.some.inj hcopied
      exact hroom

end Served

end LSTAndroid.WindowedCursor
