import LSTAndroid.CursorWindows
import LSTAndroid.Library.RefusedCalls

namespace LSTAndroid.WindowedCursor

open LSTAndroid.Library.RefusedCalls

variable {τ : Type} {memory : WindowMemory τ} {cursor after : SQLiteCursor τ} {position : Int}
  {execution counting : Execution} {ok : Bool} {count : Int} {Seen : Execution → Prop}

theorem cursorPickFillWindowStartPosition_bounds {capacity : Int} (hposition : 0 ≤ position)
    (hcapacity : 0 ≤ capacity) :
    0 ≤ cursorPickFillWindowStartPosition position capacity ∧
      cursorPickFillWindowStartPosition position capacity ≤ position := by
  have hthird := Int.tdiv_nonneg hcapacity (b := 3) (by decide)
  unfold cursorPickFillWindowStartPosition
  omega

/-- The number that an execution gives when it counts: that of all rows unless it fails, or
none if the columns could not be set. -/
def Execution.Reports (execution : Execution) (count : Int) : Prop :=
  execution.fails = false ∧ count = execution.rows.length ∨ ¬ execution.ColumnsSet ∧ count = 0

theorem Execution.Reports.bounds (h : execution.Reports count) : 0 ≤ count ∧ count < 2 ^ 31 := by
  have hcountable := execution.countable
  rcases h with ⟨-, rfl⟩ | ⟨-, rfl⟩
  · omega
  · omega

/-- What the cursor knows is true of executions that have been seen: each row in its window is
the copy of the row that one has returned at this position, and its count is what one reports.
No row is in the window that does not fit into one by itself. -/
structure Backed (memory : WindowMemory τ) (Seen : Execution → Prop) (cursor : SQLiteCursor τ) :
    Prop where
  window : ∀ window, cursor.mWindow = some window → ∀ position shown,
    window.getRow position = some shown →
      0 ≤ position ∧ memory.hasRoom [] shown = true ∧
        ∃ execution, Seen execution ∧ (execution.copies memory)[position.toNat]? = some shown
  count : cursor.mCount = noCount ∨ ∃ execution, Seen execution ∧ execution.Reports cursor.mCount
  capacity : 0 ≤ cursor.mCursorWindowCapacity

theorem Backed.start (memory : WindowMemory τ) (Seen : Execution → Prop) :
    Backed memory Seen SQLiteCursor.start where
  window := fun window hwindow => by cases hwindow
  count := .inl rfl
  capacity := Int.le_refl 0

theorem Backed.mono {Later : Execution → Prop} (h : Backed memory Seen cursor)
    (hlater : ∀ execution, Seen execution → Later execution) : Backed memory Later cursor := by
  refine ⟨fun window hwindow position shown hrow => ?_, ?_, h.capacity⟩
  · obtain ⟨hposition, hfits, execution, hseen, hread⟩ :=
      h.window window hwindow position shown hrow
    exact ⟨hposition, hfits, execution, hlater execution hseen, hread⟩
  · rcases h.count with hunknown | ⟨execution, hseen, hreports⟩
    · exact .inl hunknown
    · exact .inr ⟨execution, hlater execution hseen, hreports⟩

theorem Backed.moved (h : Backed memory Seen cursor) (pos : Int) :
    Backed memory Seen { cursor with mPos := pos } :=
  ⟨h.window, h.count, h.capacity⟩

theorem Backed.cleared {Later : Execution → Prop} (h : Backed memory Seen cursor) (pos : Int) :
    Backed memory Later { cursor with
      mWindow := cursor.mWindow.map fun _ => ⟨0, []⟩
      mPos := pos
      mCount := noCount } := by
  refine ⟨fun window hwindow position row hrow => ?_, .inl rfl, h.capacity⟩
  obtain ⟨cleared, -, rfl⟩ := Option.map_eq_some_iff.mp hwindow
  rw [CursorWindow.getRow_empty] at hrow
  cases hrow

theorem Backed.withoutWindow (h : Backed memory Seen cursor) (closed : Bool) :
    Backed memory Seen { cursor with mWindow := none, closed := closed } :=
  ⟨(fun window hwindow => by cases hwindow), h.count, h.capacity⟩

/-- What becomes of the cursor when it executes the query for a row. -/
structure Refilled (memory : WindowMemory τ) (requiredPos : Int) (execution : Execution)
    (cursor after : SQLiteCursor τ) (ok : Bool) : Prop where
  mPos : after.mPos = cursor.mPos
  closed : after.closed = cursor.closed
  failed : ok = false → after.mWindow = none ∧ after.mCount = noCount ∧
    after.mCursorWindowCapacity = cursor.mCursorWindowCapacity
  filled : ok = true → ∃ startPos countAllRows window counted, startPos ≤ requiredPos ∧
    ((¬ execution.ColumnsSet ∧ window = ⟨0, []⟩ ∧ counted = 0) ∨
      WindowFilled memory execution startPos requiredPos countAllRows window counted) ∧
      after.mWindow = some window ∧
      (countAllRows = true ∧ after.mCount = counted ∧ 0 ≤ after.mCursorWindowCapacity ∨
        after.mCount = cursor.mCount ∧ cursor.mCount ≠ noCount ∧
          after.mCursorWindowCapacity = cursor.mCursorWindowCapacity)

theorem refilled_fillWindow (hcapacity : 0 ≤ cursor.mCursorWindowCapacity)
    (hposition : 0 ≤ position) (hbound : position < 2 ^ 31)
    (hfill : cursor.fillWindow memory position execution = (after, ok)) :
    Refilled memory position execution cursor after ok := by
  have hcleared : cursor.clearOrCreateWindow.mPos = cursor.mPos ∧
      cursor.clearOrCreateWindow.closed = cursor.closed ∧
      cursor.clearOrCreateWindow.mCursorWindowCapacity = cursor.mCursorWindowCapacity ∧
      (cursor.clearOrCreateWindow.mCount = noCount ∨
        cursor.clearOrCreateWindow.mCount = cursor.mCount) := by
    unfold SQLiteCursor.clearOrCreateWindow
    split
    · exact ⟨rfl, rfl, rfl, .inl rfl⟩
    · exact ⟨rfl, rfl, rfl, .inr rfl⟩
  unfold SQLiteCursor.fillWindow at hfill
  dsimp only at hfill
  generalize cursor.clearOrCreateWindow = cleared at hfill hcleared
  obtain ⟨hpos, hclosed, hsame, hcount⟩ := hcleared
  split at hfill
  · obtain ⟨rfl, rfl⟩ := Prod.mk.inj hfill
    refine ⟨hpos, hclosed, fun _ => ⟨rfl, rfl, hsame⟩, fun hok => ?_⟩
    cases hok
  · rename_i window counted hfilled
    split at hfilled
    · cases hfilled
    have hcapacityUsed : 0 ≤ if decide (cleared.mCount = noCount) = true then 0
        else cleared.mCursorWindowCapacity := by
      split
      · exact Int.le_refl 0
      · rw [hsame]
        exact hcapacity
    obtain ⟨hstart, hle⟩ := cursorPickFillWindowStartPosition_bounds hposition hcapacityUsed
    have hwindow := executeForCursorWindow_filled memory execution hstart hle hbound hfilled
    split at hfill
    · rename_i hcounting
      obtain ⟨rfl, rfl⟩ := Prod.mk.inj hfill
      refine ⟨hpos, hclosed, (fun hfailed => by cases hfailed), fun _ => ⟨_, _, window,
        counted, hle, hwindow, rfl, .inl ⟨hcounting, rfl, Int.natCast_nonneg _⟩⟩⟩
    · rename_i hknown
      obtain ⟨rfl, rfl⟩ := Prod.mk.inj hfill
      rw [decide_eq_true_eq] at hknown
      have hkept := hcount.resolve_left hknown
      refine ⟨hpos, hclosed, (fun hfailed => by cases hfailed), fun _ => ⟨_, _, window,
        counted, hle, hwindow, rfl, .inr ⟨hkept, ?_, hsame⟩⟩⟩
      rwa [← hkept]

theorem Backed.refill (h : Backed memory Seen cursor) (hseen : Seen execution)
    (hrefilled : Refilled memory position execution cursor after ok) :
    Backed memory Seen after := by
  rcases ok with _ | _
  · obtain ⟨hwindow, hcount, hcapacity⟩ := hrefilled.failed rfl
    refine ⟨fun window hsome => ?_, .inl hcount, ?_⟩
    · rw [hwindow] at hsome
      cases hsome
    · rw [hcapacity]
      exact h.capacity
  · obtain ⟨startPos, countAllRows, window, counted, -, hfilled, hwindow, hcount⟩ :=
      hrefilled.filled rfl
    refine ⟨fun shown hsome position row hrow => ?_, ?_, ?_⟩
    · obtain rfl : window = shown := Option.some.inj (hwindow.symm.trans hsome)
      rcases hfilled with ⟨-, rfl, -⟩ | hfilled
      · rw [CursorWindow.getRow_empty] at hrow
        cases hrow
      · obtain ⟨hposition, hread⟩ := hfilled.showsRows.getRow hrow
        exact ⟨hposition, hfilled.fits _ row hrow, execution, hseen, hread⟩
    · rcases hcount with ⟨hall, hcounted, -⟩ | ⟨hkept, -, -⟩
      · rw [hcounted]
        exact .inr ⟨execution, hseen, hfilled.symm.imp (fun hwindow => hwindow.counted hall)
          fun hunset => ⟨hunset.1, hunset.2.2⟩⟩
      · rw [hkept]
        exact h.count
    · rcases hcount with ⟨-, -, hcapacity⟩ | ⟨-, -, hcapacity⟩
      · exact hcapacity
      · rw [hcapacity]
        exact h.capacity

/-- What a call that asks for the count leaves behind, and the count if there is one. -/
structure Counted (memory : WindowMemory τ) (Seen : Execution → Prop)
    (cursor after : SQLiteCursor τ) (result : Option Int) : Prop where
  mPos : after.mPos = cursor.mPos
  backed : Backed memory Seen after
  count : ∀ count, result = some count → after.mCount = count ∧
    ∃ execution, Seen execution ∧ execution.Reports count

theorem Backed.getCount {result : Option Int} (h : Backed memory Seen cursor)
    (hseen : Seen counting) (hcount : cursor.getCount memory counting = (after, result)) :
    Counted memory Seen cursor after result := by
  unfold SQLiteCursor.getCount at hcount
  split at hcount
  · rename_i hunknown
    split at hcount
    · rename_i filled hfill
      obtain ⟨rfl, rfl⟩ := Prod.mk.inj hcount
      have hrefilled := refilled_fillWindow h.capacity (Int.le_refl 0) (by decide) hfill
      refine ⟨hrefilled.mPos, h.refill hseen hrefilled, fun count hsome => ?_⟩
      cases hsome
    · rename_i filled hfill
      obtain ⟨rfl, rfl⟩ := Prod.mk.inj hcount
      have hrefilled := refilled_fillWindow h.capacity (Int.le_refl 0) (by decide) hfill
      refine ⟨hrefilled.mPos, h.refill hseen hrefilled, fun count hsome => ?_⟩
      obtain rfl := Option.some.inj hsome
      obtain ⟨_, countAllRows, window, counted, -, hfilled, -, hcases⟩ := hrefilled.filled rfl
      rcases hcases with ⟨hall, hcounted, -⟩ | ⟨-, hknown, -⟩
      · rw [hcounted]
        exact ⟨rfl, counting, hseen, hfilled.symm.imp (fun hwindow => hwindow.counted hall)
          fun hunset => ⟨hunset.1, hunset.2.2⟩⟩
      · exact absurd hunknown hknown
  · rename_i hknown
    obtain ⟨rfl, rfl⟩ := Prod.mk.inj hcount
    refine ⟨rfl, h, fun count hsome => ?_⟩
    obtain rfl := Option.some.inj hsome
    exact ⟨rfl, h.count.resolve_left hknown⟩

theorem Backed.moveToPosition {moving : Execution} {reply : Option (Reply τ)}
    (h : Backed memory Seen cursor) (hcounting : Seen counting) (hmoving : Seen moving)
    (hmove : cursor.moveToPosition memory position counting moving = (after, reply)) :
    Backed memory Seen after ∧
      (reply = none ∧ after.mPos = cursor.mPos ∨
        ∃ execution count, Seen execution ∧ execution.Reports count ∧
          (count ≤ position ∧ after.mPos = count ∧ reply = some (.moved false) ∨
            position < count ∧ position < 0 ∧ after.mPos = -1 ∧ reply = some (.moved false) ∨
            position < count ∧ 0 ≤ position ∧ after.mPos = position ∧
              reply = some (.moved true))) := by
  unfold SQLiteCursor.moveToPosition at hmove
  split at hmove
  · rename_i counted hcount
    obtain ⟨rfl, rfl⟩ := Prod.mk.inj hmove
    have hcounted := h.getCount hcounting hcount
    exact ⟨hcounted.backed, .inl ⟨rfl, hcounted.mPos⟩⟩
  rename_i counted count hcount
  have hcounted := h.getCount hcounting hcount
  obtain ⟨-, execution, hseen, hreports⟩ := hcounted.count count rfl
  have hbound := hreports.bounds.2
  have hmoved := hcounted.backed.moved
  split at hmove
  · rename_i hbehind
    obtain ⟨rfl, rfl⟩ := Prod.mk.inj hmove
    exact ⟨hmoved _, .inr ⟨execution, count, hseen, hreports, .inl ⟨hbehind, rfl, rfl⟩⟩⟩
  rename_i hwithin
  rw [Int.not_le] at hwithin
  split at hmove
  · rename_i hbefore
    obtain ⟨rfl, rfl⟩ := Prod.mk.inj hmove
    exact ⟨hmoved _,
      .inr ⟨execution, count, hseen, hreports, .inr (.inl ⟨hwithin, hbefore, rfl, rfl⟩)⟩⟩
  rename_i hnonneg
  rw [Int.not_lt] at hnonneg
  split at hmove
  · rename_i hsame
    obtain ⟨rfl, rfl⟩ := Prod.mk.inj hmove
    exact ⟨hcounted.backed, .inr ⟨execution, count, hseen, hreports,
      .inr (.inr ⟨hwithin, hnonneg, hsame.symm, rfl⟩)⟩⟩
  unfold SQLiteCursor.onMove at hmove
  split at hmove
  · rename_i moved hfill
    obtain ⟨rfl, rfl⟩ := Prod.mk.inj hmove
    split at hfill
    · cases hfill
    · have hrefilled := refilled_fillWindow hcounted.backed.capacity hnonneg (by omega) hfill
      exact ⟨hcounted.backed.refill hmoving hrefilled,
        .inl ⟨rfl, hrefilled.mPos.trans hcounted.mPos⟩⟩
  · rename_i moved hfill
    obtain ⟨rfl, rfl⟩ := Prod.mk.inj hmove
    have hbacked : Backed memory Seen moved := by
      split at hfill
      · obtain ⟨rfl, -⟩ := Prod.mk.inj hfill
        exact hcounted.backed
      · exact hcounted.backed.refill hmoving
          (refilled_fillWindow hcounted.backed.capacity hnonneg (by omega) hfill)
    exact ⟨hbacked.moved position, .inr ⟨execution, count, hseen, hreports,
      .inr (.inr ⟨hwithin, hnonneg, rfl, rfl⟩)⟩⟩

theorem Backed.getRow {reply : Option (Reply τ)} (h : Backed memory Seen cursor)
    (hcounting : Seen counting) (hread : cursor.getRow memory counting = (after, reply)) :
    Backed memory Seen after ∧ after.mPos = cursor.mPos ∧
      (reply = none ∨
        (cursor.mPos = -1 ∨ ∃ execution, Seen execution ∧ execution.Reports cursor.mPos) ∧
          reply = some .outOfBounds ∨
        ∃ execution shown, 0 ≤ cursor.mPos ∧ memory.hasRoom [] shown = true ∧ Seen execution ∧
          (execution.copies memory)[cursor.mPos.toNat]? = some shown ∧
            reply = some (.row shown)) := by
  unfold SQLiteCursor.getRow at hread
  split at hread
  · rename_i counted hcount
    obtain ⟨rfl, rfl⟩ := Prod.mk.inj hread
    have hcounted := h.getCount hcounting hcount
    exact ⟨hcounted.backed, hcounted.mPos, .inl rfl⟩
  rename_i counted count hcount
  have hcounted := h.getCount hcounting hcount
  obtain ⟨-, execution, hseen, hreports⟩ := hcounted.count count rfl
  split at hread
  · rename_i houtside
    obtain ⟨rfl, rfl⟩ := Prod.mk.inj hread
    rw [hcounted.mPos] at houtside
    refine ⟨hcounted.backed, hcounted.mPos, .inr (.inl ⟨houtside.imp_right fun hbehind => ?_,
      rfl⟩)⟩
    rw [hbehind]
    exact ⟨execution, hseen, hreports⟩
  · obtain ⟨rfl, rfl⟩ := Prod.mk.inj hread
    refine ⟨hcounted.backed, hcounted.mPos, ?_⟩
    rcases hwindow : counted.mWindow with _ | window
    · exact .inl rfl
    rcases hrow : window.getRow counted.mPos with _ | shown
    · refine .inl ?_
      rw [Option.bind_some, hrow, Option.map_none]
    · obtain ⟨hnonneg, hfits, returned, hreturned, hread⟩ :=
        hcounted.backed.window window hwindow _ shown hrow
      rw [hcounted.mPos] at hnonneg hread
      refine .inr (.inr ⟨returned, shown, hnonneg, hfits, hreturned, hread, ?_⟩)
      rw [Option.bind_some, hrow, Option.map_some]

/-- The executions of the query that a call makes if it needs them. -/
def Call.executions : Call → List (Execution)
  | .moveToPosition _ counting moving => [counting, moving]
  | .getCount counting | .getRow counting => [counting]
  | .requery _ _ | .deactivate | .close => []

theorem Backed.call {call : Call} (h : Backed memory Seen cursor)
    (hseen : ∀ execution ∈ call.executions, Seen execution) :
    Backed memory Seen (cursor.call memory call).1 := by
  cases call with
  | moveToPosition position counting moving =>
      exact (h.moveToPosition (hseen counting (by simp [Call.executions]))
        (hseen moving (by simp [Call.executions])) rfl).1
  | getCount counting =>
      exact (h.getCount (hseen counting (by simp [Call.executions])) rfl).backed
  | getRow counting =>
      exact (h.getRow (hseen counting (by simp [Call.executions])) rfl).1
  | requery databaseOpen result =>
      unfold SQLiteCursor.call SQLiteCursor.requery
      dsimp only
      split
      · exact h
      · exact h.cleared (-1)
  | deactivate => exact h.withoutWindow cursor.closed
  | close => exact h.withoutWindow true

section AnyData

/-- The cursor after calls during which the database may have changed. -/
def reached (memory : WindowMemory τ) (calls : List Call) : SQLiteCursor τ :=
  run (SQLiteCursor.call memory) .start calls

def SeenIn (calls : List Call) (execution : Execution) : Prop :=
  ∃ call ∈ calls, execution ∈ call.executions

theorem SeenIn.append {calls : List Call} (h : SeenIn calls execution) (later : List Call) :
    SeenIn (calls ++ later) execution := by
  obtain ⟨call, hcall, hexecution⟩ := h
  exact ⟨call, List.mem_append_left later hcall, hexecution⟩

theorem seenIn_concat (calls : List Call) {call : Call} (hexecution : execution ∈ call.executions) :
    SeenIn (calls ++ [call]) execution :=
  ⟨call, List.mem_concat_self, hexecution⟩

theorem backed_reached (memory : WindowMemory τ) (calls : List Call) :
    Backed memory (SeenIn calls) (reached memory calls) := by
  refine run_history (R := fun calls cursor => Backed memory (SeenIn calls) cursor) (.start _ _)
    (fun before call h => ?_) calls
  exact (h.mono fun execution hseen => hseen.append [call]).call
    fun execution hexecution => seenIn_concat before hexecution

/-- What a reply of a call that takes one cursor to another says of the executions that the
query has had. -/
def Reply.BackedBy (memory : WindowMemory τ) (Seen : Execution → Prop)
    (cursor after : SQLiteCursor τ) : Reply τ → Prop
  | .moved true => ∃ execution, Seen execution ∧ execution.fails = false ∧ 0 ≤ after.mPos ∧
      after.mPos < execution.rows.length
  | .moved false => after.mPos = -1 ∨ ∃ execution, Seen execution ∧ execution.Reports after.mPos
  | .count count => ∃ execution, Seen execution ∧ execution.Reports count
  | .row shown => 0 ≤ cursor.mPos ∧ ∃ execution, Seen execution ∧
      (execution.copies memory)[cursor.mPos.toNat]? = some shown
  | .outOfBounds => cursor.mPos = -1 ∨ ∃ execution, Seen execution ∧ execution.Reports cursor.mPos
  | .done => True

theorem Execution.Reports.succeeds (h : execution.Reports count) (hnonneg : 0 ≤ position)
    (hless : position < count) : execution.fails = false ∧ position < execution.rows.length := by
  rcases h with ⟨hsucceeds, rfl⟩ | ⟨-, rfl⟩
  · exact ⟨hsucceeds, hless⟩
  · omega

end AnyData

end LSTAndroid.WindowedCursor
