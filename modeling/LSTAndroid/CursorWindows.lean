import Mathlib.Data.List.Infix
import LSTAndroid.Library.SlidingWindow
import LSTAndroid.WindowedCursor

namespace LSTAndroid.WindowedCursor

open LSTAndroid.Library.SlidingWindow

variable {τ : Type} {memory : WindowMemory τ} {rows : List (WindowRow τ)}
  {startPos iRowRequired : Nat} {filling filled : Filling τ} {row : Row}
  {columnsSetAgain : Nat → Bool} {countAllRows broke : Bool}

theorem copyRowToWindow_length (memory : WindowMemory τ) (window : List (WindowRow τ)) (row : Row) :
    copyRowToWindow memory window window.length row =
      if memory.hasRoom window (memory.copy row) = true then (window ++ [memory.copy row], true)
      else (window, false) := by
  unfold copyRowToWindow
  rcases hroom : memory.hasRoom window (memory.copy row) with _ | _
  · simp
  · simp

/-- The rows in the window stand next to each other in the result. As long as none was
turned away the window reaches up to the last one; if one was, either the required row is in the
window, or a row up to the required one does not fit by itself. -/
structure Filled (memory : WindowMemory τ) (rows : List (WindowRow τ))
    (startPos iRowRequired : Nat) (filling : Filling τ) : Prop where
  shows : Shows rows filling.iStart filling.window
  start_le : startPos ≤ filling.iStart
  iStart_le : startPos ≤ iRowRequired → filling.iStart ≤ iRowRequired
  reaches : filling.bOk = true → filling.window.length = filling.nRow - filling.iStart
  fits : ∀ position row, startPos ≤ position →
    position < filling.iStart + filling.window.length → rows[position]? = some row →
      memory.hasRoom [] row = true
  full : filling.bOk = false → iRowRequired < filling.iStart + filling.window.length ∨
    filling.window = [] ∧ filling.iStart ≤ iRowRequired ∧
      ∃ row, rows[filling.iStart]? = some row ∧ memory.hasRoom [] row = false

theorem filled_start (memory : WindowMemory τ) (rows : List (WindowRow τ))
    (startPos iRowRequired : Nat) :
    Filled memory rows startPos iRowRequired ⟨[], startPos, 0, true⟩ where
  shows := Shows.nil rows startPos
  start_le := Nat.le_refl _
  iStart_le := id
  reaches := fun _ => (Nat.zero_sub startPos).symm
  fits := fun position row hstart hend _ => absurd hstart (Nat.not_le.mpr hend)
  full := fun hfull => by cases hfull

section Rows

variable {shown : WindowRow τ} (h : Filled memory rows startPos iRowRequired filling)
  (hok : filling.bOk = true) (hstart : filling.iStart ≤ filling.nRow)

include h hok hstart

theorem Filled.fits_before {position : Nat} {other : WindowRow τ} (hposition : startPos ≤ position)
    (hless : position < filling.nRow) (hother : rows[position]? = some other) :
    memory.hasRoom [] other = true := by
  have hlength := h.reaches hok
  exact h.fits position other hposition (by omega) hother

theorem Filled.fits_concat (hrow : rows[filling.nRow]? = some shown)
    (hroom : memory.hasRoom [] shown = true) {position : Nat} {other : WindowRow τ}
    (hposition : startPos ≤ position) (hless : position < filling.nRow + 1)
    (hother : rows[position]? = some other) : memory.hasRoom [] other = true := by
  rcases Nat.lt_succ_iff_lt_or_eq.mp hless with hbefore | rfl
  · exact h.fits_before hok hstart hposition hbefore hother
  · obtain rfl : shown = other := Option.some.inj (hrow.symm.trans hother)
    exact hroom

theorem Filled.concat (hrow : rows[filling.nRow]? = some shown)
    (hroom : memory.hasRoom filling.window shown = true) :
    Filled memory rows startPos iRowRequired
      { filling with window := filling.window ++ [shown], nRow := filling.nRow + 1 } := by
  have hlength := h.reaches hok
  have hnext : filling.iStart + filling.window.length = filling.nRow := by omega
  refine ⟨h.shows.concat (by rwa [hnext]), h.start_le, h.iStart_le, fun _ => ?_, ?_, ?_⟩
  · simp only [List.length_append, List.length_singleton]
    omega
  · intro position other hposition hless hother
    simp only [List.length_append, List.length_singleton] at hless
    exact h.fits_concat hok hstart hrow (memory.hasRoom_nil _ _ hroom) hposition (by omega) hother
  · intro hfull
    rw [hok] at hfull
    cases hfull

/-- The window starts again with a row that must be in it, or comes before the one that must. -/
theorem Filled.restart (hrow : rows[filling.nRow]? = some shown)
    (hrequired : filling.nRow ≤ iRowRequired) (hroom : memory.hasRoom [] shown = true) :
    Filled memory rows startPos iRowRequired ⟨[shown], filling.nRow, filling.nRow + 1, true⟩ := by
  refine ⟨Shows.restart hrow, h.start_le.trans hstart, fun _ => hrequired, fun _ => ?_, ?_, ?_⟩
  · simp
  · intro position other hposition hless hother
    exact h.fits_concat hok hstart hrow hroom hposition hless hother
  · intro hfull
    cases hfull

theorem Filled.turnAway (hrow : rows[filling.nRow]? = some shown)
    (hrequired : filling.nRow ≤ iRowRequired) (hroom : memory.hasRoom [] shown = false)
    (nRow : Nat) : Filled memory rows startPos iRowRequired ⟨[], filling.nRow, nRow, false⟩ := by
  refine ⟨Shows.nil _ _, h.start_le.trans hstart, fun _ => hrequired, fun hfull => ?_, ?_, ?_⟩
  · cases hfull
  · intro position other hposition hless hother
    exact h.fits_before hok hstart hposition hless hother
  · exact fun _ => .inr ⟨rfl, hrequired, shown, hrow, hroom⟩

theorem Filled.full_of_required (hrequired : iRowRequired < filling.nRow) (nRow : Nat) :
    Filled memory rows startPos iRowRequired { filling with nRow := nRow, bOk := false } := by
  have hlength := h.reaches hok
  refine ⟨h.shows, h.start_le, h.iStart_le, fun hfull => ?_, h.fits, fun _ => .inl ?_⟩
  · cases hfull
  · dsimp only
    omega

theorem Filled.copyRow (hrow : rows[filling.nRow]? = some (memory.copy row))
    (hcopy : copyRow memory columnsSetAgain iRowRequired filling row = some filled) (nRow : Nat)
    (hnRow : filled.bOk = true → nRow = filling.nRow + 1) :
    Filled memory rows startPos iRowRequired { filled with nRow := nRow } := by
  have hlength := h.reaches hok
  unfold WindowedCursor.copyRow at hcopy
  rw [← hlength, copyRowToWindow_length, Nat.sub_self, ← List.length_nil (α := WindowRow τ),
    copyRowToWindow_length] at hcopy
  dsimp only at hcopy
  rcases hroom : memory.hasRoom filling.window (memory.copy row) with _ | _
  · rw [hroom, if_neg Bool.false_ne_true, if_neg Bool.false_ne_true] at hcopy
    split at hcopy
    · rename_i hrequired
      split at hcopy
      · obtain rfl := Option.some.inj hcopy
        rcases halone : memory.hasRoom [] (memory.copy row) with _ | _
        · rw [if_neg Bool.false_ne_true]
          exact h.turnAway hok hstart hrow hrequired halone nRow
        · rw [halone, if_pos rfl] at hnRow
          rw [if_pos rfl, hnRow rfl]
          exact h.restart hok hstart hrow hrequired halone
      · cases hcopy
    · rename_i hrequired
      obtain rfl := Option.some.inj hcopy
      exact h.full_of_required hok hstart (Nat.lt_of_not_le hrequired) nRow
  · rw [hroom, if_pos rfl, if_pos rfl] at hcopy
    obtain rfl := Option.some.inj hcopy
    rw [hnRow hok]
    exact h.concat hok hstart hrow hroom

end Rows

theorem copyRow_nRow
    (hcopy : copyRow memory columnsSetAgain iRowRequired filling row = some filled) :
    filled.nRow = filling.nRow := by
  unfold copyRow at hcopy
  dsimp only at hcopy
  split at hcopy
  · obtain rfl := Option.some.inj hcopy
    rfl
  split at hcopy
  · split at hcopy
    · obtain rfl := Option.some.inj hcopy
      rfl
    · cases hcopy
  · obtain rfl := Option.some.inj hcopy
    rfl

theorem copyRow_isSome (memory : WindowMemory τ) (iRowRequired : Nat) (filling : Filling τ)
    (row : Row) (hagain : columnsSetAgain filling.nRow = true) :
    (copyRow memory columnsSetAgain iRowRequired filling row).isSome = true := by
  unfold copyRow
  dsimp only
  rw [hagain]
  split
  · rfl
  split
  · rfl
  · rfl

theorem Filled.fillRow (h : Filled memory rows startPos iRowRequired filling)
    (hrow : rows[filling.nRow]? = some (memory.copy row))
    (hfill : fillRow memory columnsSetAgain countAllRows iRowRequired filling row =
      some (filled, broke)) :
    Filled memory rows startPos iRowRequired filled ∧
      (broke = false → filled.nRow = filling.nRow + 1) ∧
      (broke = true → filled.bOk = false ∧ countAllRows = false ∧
        filled.nRow = filling.nRow) := by
  unfold WindowedCursor.fillRow at hfill
  split at hfill
  · rename_i hactive
    simp only [Bool.and_eq_true, decide_eq_true_eq] at hactive
    obtain ⟨hstart, hok⟩ := hactive
    obtain ⟨copied, hcopy, hended⟩ := Option.map_eq_some_iff.mp hfill
    have hcopied := h.copyRow hok hstart hrow hcopy
    have hnRow := copyRow_nRow hcopy
    split at hended
    · rename_i hbreak
      obtain ⟨rfl, rfl⟩ := Prod.mk.inj hended
      simp only [Bool.and_eq_true, Bool.not_eq_true'] at hbreak
      refine ⟨hcopied copied.nRow fun hcopiedOk => ?_, (fun hnext => by cases hnext),
        fun _ => ⟨hbreak.1, hbreak.2, hnRow⟩⟩
      rw [hbreak.1] at hcopiedOk
      cases hcopiedOk
    · obtain ⟨rfl, rfl⟩ := Prod.mk.inj hended
      refine ⟨hcopied _ fun _ => by rw [hnRow], fun _ => by rw [hnRow], fun hbreak => ?_⟩
      cases hbreak
  · rename_i hidle
    obtain ⟨rfl, rfl⟩ := Prod.mk.inj (Option.some.inj hfill)
    refine ⟨⟨h.shows, h.start_le, h.iStart_le, fun hok => ?_, h.fits, h.full⟩, fun _ => rfl,
      fun hbreak => by cases hbreak⟩
    have hlength := h.reaches hok
    dsimp only at hok ⊢
    simp only [Bool.and_eq_true, decide_eq_true_eq, hok, and_true] at hidle
    omega

/-- After the loop: it has stepped through all rows, or has broken out of it with a
full window, which it does not do when it counts. -/
theorem Filled.fillLoop {rest : List Row} {before : List (WindowRow τ)}
    (hrows : rows = before ++ rest.map memory.copy)
    (h : Filled memory rows startPos iRowRequired filling) (hnRow : filling.nRow = before.length)
    (hfill : fillLoop memory columnsSetAgain countAllRows iRowRequired rest filling =
      some (filled, broke)) :
    Filled memory rows startPos iRowRequired filled ∧
      (broke = false → filled.nRow = rows.length) ∧
      (broke = true → filled.bOk = false ∧ countAllRows = false ∧
        filled.nRow ≤ rows.length) := by
  induction rest generalizing before filling with
  | nil =>
      obtain ⟨rfl, rfl⟩ := Prod.mk.inj (Option.some.inj hfill)
      refine ⟨h, fun _ => ?_, fun hbreak => by cases hbreak⟩
      rw [hnRow, hrows, List.map_nil, List.append_nil]
  | cons row rest ih =>
      rw [List.map_cons] at hrows
      have hrow : rows[filling.nRow]? = some (memory.copy row) := by
        rw [hrows, hnRow, List.getElem?_append_right (Nat.le_refl _), Nat.sub_self]
        rfl
      unfold WindowedCursor.fillLoop at hfill
      split at hfill
      · cases hfill
      · rename_i turned hturn
        obtain ⟨rfl, rfl⟩ := Prod.mk.inj (Option.some.inj hfill)
        obtain ⟨hturned, -, hbroke⟩ := h.fillRow hrow hturn
        refine ⟨hturned, (fun hnext => by cases hnext), fun hbreak => ?_⟩
        obtain ⟨hfull, hpartly, hsame⟩ := hbroke hbreak
        refine ⟨hfull, hpartly, ?_⟩
        rw [hsame]
        exact Nat.le_of_lt (List.getElem?_eq_some_iff.mp hrow).1
      · rename_i turned hturn
        obtain ⟨hturned, hnext, -⟩ := h.fillRow hrow hturn
        refine ih (hrows.trans (List.append_cons before _ _)) hturned ?_ hfill
        rw [hnext rfl, hnRow, List.length_append, List.length_singleton]

/-- The loop has a result unless the columns cannot be set again for a row of the result. -/
theorem fillLoop_isSome (memory : WindowMemory τ) (countAllRows : Bool) (iRowRequired : Nat)
    (rest : List Row) (filling : Filling τ)
    (hagain : ∀ position, filling.nRow ≤ position → position < filling.nRow + rest.length →
      columnsSetAgain position = true) :
    (fillLoop memory columnsSetAgain countAllRows iRowRequired rest filling).isSome = true := by
  induction rest generalizing filling with
  | nil => rfl
  | cons row rest ih =>
      rw [List.length_cons] at hagain
      have hcopied := copyRow_isSome memory iRowRequired filling row
        (hagain filling.nRow (Nat.le_refl _) (by omega))
      unfold fillLoop fillRow
      split
      · rename_i hnone
        split at hnone
        · rw [Option.map_eq_none_iff] at hnone
          rw [hnone] at hcopied
          cases hcopied
        · cases hnone
      · rfl
      · rename_i turned hturn
        refine ih turned fun position hposition hless => ?_
        have hnRow : turned.nRow = filling.nRow + 1 := by
          split at hturn
          · obtain ⟨copied, hcopy, hended⟩ := Option.map_eq_some_iff.mp hturn
            split at hended
            · cases hended
            · obtain ⟨rfl, -⟩ := Prod.mk.inj hended
              exact congrArg (· + 1) (copyRow_nRow hcopy)
          · obtain ⟨rfl, -⟩ := Prod.mk.inj (Option.some.inj hturn)
            rfl
        exact hagain position (by omega) (by omega)

section Result

theorem nativeResult_setWidth (iStart nRow : BitVec 32) :
    (nativeResult iStart nRow).setWidth 32 = nRow := by
  ext i hi
  have hwide : i < 64 := by omega
  simp [nativeResult, BitVec.getElem_signExtend, hi, hwide]

theorem nativeResult_sshiftRight (iStart nRow : BitVec 32) (hnRow : nRow.msb = false) :
    ((nativeResult iStart nRow).sshiftRight 32).setWidth 32 = iStart := by
  ext i hi
  have hwide : i < 64 := by omega
  have hshifted : 32 + i < 64 := by omega
  have hupper : ¬ 32 + i < 32 := by omega
  simp [nativeResult, BitVec.getElem_sshiftRight, BitVec.getElem_signExtend, hi, hwide, hshifted,
    hupper, hnRow]

theorem msb_ofNat_of_lt {n : Nat} (hn : n < 2 ^ 31) : (BitVec.ofNat 32 n).msb = false := by
  rw [BitVec.msb_eq_false_iff_two_mul_lt, BitVec.toNat_ofNat]
  omega

theorem toInt_ofNat_of_lt {n : Nat} (hn : n < 2 ^ 31) : (BitVec.ofNat 32 n).toInt = n := by
  rw [BitVec.toInt_eq_msb_cond, msb_ofNat_of_lt hn, if_neg Bool.false_ne_true, BitVec.toNat_ofNat]
  omega

theorem actualPos_eq {iStart nRow : Nat} (hiStart : iStart < 2 ^ 31) (hnRow : nRow < 2 ^ 31) :
    (((nativeResult (.ofNat 32 iStart) (.ofNat 32 nRow)).sshiftRight 32).setWidth 32).toInt =
      iStart := by
  rw [nativeResult_sshiftRight _ _ (msb_ofNat_of_lt hnRow), toInt_ofNat_of_lt hiStart]

theorem countedRows_eq (iStart : BitVec 32) {nRow : Nat} (hnRow : nRow < 2 ^ 31) :
    ((nativeResult iStart (.ofNat 32 nRow)).setWidth 32).toInt = nRow := by
  rw [nativeResult_setWidth, toInt_ofNat_of_lt hnRow]

end Result

/-- The window holds what stands in the result from its start position on. -/
structure CursorWindow.ShowsRows (rows : List (WindowRow τ)) (window : CursorWindow τ) :
    Prop where
  nonneg : 0 ≤ window.startPosition
  shows : Shows rows window.startPosition.toNat window.rows

theorem CursorWindow.getRow_isSome_iff {window : CursorWindow τ} {position : Int} :
    (window.getRow position).isSome = true ↔
      window.startPosition ≤ position ∧ position < window.startPosition + window.rows.length := by
  unfold CursorWindow.getRow
  split
  · simp
    omega
  · simp
    omega

theorem CursorWindow.getRow_empty (start position : Int) :
    (⟨start, []⟩ : CursorWindow τ).getRow position = none := by
  unfold CursorWindow.getRow
  split
  · rfl
  · exact List.getElem?_nil

theorem CursorWindow.ShowsRows.getRow {window : CursorWindow τ} (h : window.ShowsRows rows)
    {position : Int} {shown : WindowRow τ} (hrow : window.getRow position = some shown) :
    0 ≤ position ∧ rows[position.toNat]? = some shown := by
  have hnonneg := h.nonneg
  obtain ⟨hstart, hend⟩ := CursorWindow.getRow_isSome_iff.mp (Option.isSome_of_eq_some hrow)
  refine ⟨Int.le_trans hnonneg hstart, ?_⟩
  have hread : window.rows[position.toNat - window.startPosition.toNat]? = rows[position.toNat]? :=
    h.shows.getElem?_sub (by omega) (by omega)
  unfold CursorWindow.getRow at hrow
  rw [if_neg (Int.not_lt.mpr hstart)] at hrow
  rw [← hread, ← hrow]
  congr 1
  omega

/-- Every row from `startPos` up to the required one fits into a window by itself. -/
def RowsFit (memory : WindowMemory τ) (rows : List (WindowRow τ)) (startPos requiredPos : Int) :
    Prop :=
  ∀ (position : Nat) (shown : WindowRow τ), startPos ≤ position → (position : Int) ≤ requiredPos →
    rows[position]? = some shown → memory.hasRoom [] shown = true

namespace Execution

def copies (memory : WindowMemory τ) (execution : Execution) : List (WindowRow τ) :=
  execution.rows.map memory.copy

@[simp] theorem copies_length (memory : WindowMemory τ) (execution : Execution) :
    (execution.copies memory).length = execution.rows.length :=
  List.length_map memory.copy

/-- `setNumColumns` succeeds each time that the window is cleared. -/
def ColumnsSet (execution : Execution) : Prop :=
  execution.columnsSet = true ∧
    ∀ position < execution.rows.length, execution.columnsSetAgain position = true

end Execution

/-- What the query leaves in the window, and what it has counted. An execution that would end
in an error may be broken off before that, but not while it counts. -/
structure WindowFilled (memory : WindowMemory τ) (execution : Execution)
    (startPos requiredPos : Int) (countAllRows : Bool) (window : CursorWindow τ) (counted : Int) :
    Prop where
  showsRows : window.ShowsRows (execution.copies memory)
  fits : ∀ position shown, window.getRow position = some shown → memory.hasRoom [] shown = true
  counted : countAllRows = true → execution.fails = false ∧ counted = execution.rows.length
  required : requiredPos < execution.rows.length →
    ((window.getRow requiredPos).isSome = true ↔
      RowsFit memory (execution.copies memory) startPos requiredPos)

/-- Once all rows have been stepped through or the window is full, the required row is in
the window unless a row on the way to it does not fit. -/
theorem Filled.required_iff (h : Filled memory rows startPos iRowRequired filling)
    (hstart : startPos ≤ iRowRequired) (hwithin : iRowRequired < rows.length)
    (hended : filling.bOk = true → filling.nRow = rows.length) :
    iRowRequired < filling.iStart + filling.window.length ↔
      ∀ (position : Nat) (shown : WindowRow τ), startPos ≤ position → position ≤ iRowRequired →
        rows[position]? = some shown → memory.hasRoom [] shown = true := by
  have hiStart := h.iStart_le hstart
  constructor
  · intro hin position shown hposition hle hrow
    exact h.fits position shown hposition (by omega) hrow
  · intro hfit
    rcases hok : filling.bOk with _ | _
    · rcases h.full hok with hin | ⟨-, hle, shown, hrow, hroom⟩
      · exact hin
      · rw [hfit filling.iStart shown h.start_le hle hrow] at hroom
        cases hroom
    · have hlength := h.reaches hok
      rw [hended hok] at hlength
      omega

theorem nativeExecuteForCursorWindow_filled {execution : Execution} {window : List (WindowRow τ)}
    {result : BitVec 64}
    (hnative : nativeExecuteForCursorWindow memory execution startPos iRowRequired countAllRows =
      some (window, result)) :
    (¬ execution.ColumnsSet ∧ window = [] ∧ result = 0) ∨
      ∃ filling, Filled memory (execution.copies memory) startPos iRowRequired filling ∧
        window = filling.window ∧
        result = nativeResult (.ofNat 32 filling.iStart) (.ofNat 32 filling.nRow) ∧
        filling.nRow ≤ execution.rows.length ∧
        (filling.bOk = true → filling.nRow = execution.rows.length) ∧
        (countAllRows = true → execution.fails = false ∧
          filling.nRow = execution.rows.length) := by
  unfold nativeExecuteForCursorWindow at hnative
  split at hnative
  swap
  · rename_i hcolumns
    obtain ⟨rfl, rfl⟩ := Prod.mk.inj (Option.some.inj hnative)
    exact .inl ⟨fun hset => hcolumns hset.1, rfl, rfl⟩
  split at hnative
  · rename_i hnone
    obtain ⟨rfl, rfl⟩ := Prod.mk.inj (Option.some.inj hnative)
    refine .inl ⟨fun hset => ?_, rfl, rfl⟩
    have hsome := fillLoop_isSome memory countAllRows iRowRequired execution.rows
      ⟨[], startPos, 0, true⟩ fun position _ hless => hset.2 position (by simpa using hless)
    rw [hnone] at hsome
    cases hsome
  rename_i filling broke hloop
  split at hnative
  · cases hnative
  rename_i hended
  obtain ⟨rfl, rfl⟩ := Prod.mk.inj (Option.some.inj hnative)
  obtain ⟨hfilled, hcounted, hbroke⟩ := (filled_start memory (execution.copies memory) startPos
    iRowRequired).fillLoop (List.nil_append (execution.copies memory)).symm rfl hloop
  rw [Execution.copies_length] at hcounted hbroke
  refine .inr ⟨filling, hfilled, rfl, rfl, ?_⟩
  cases broke with
  | false =>
      have hsucceeds : execution.fails = false := by simpa using hended
      exact ⟨Nat.le_of_eq (hcounted rfl), fun _ => hcounted rfl,
        fun _ => ⟨hsucceeds, hcounted rfl⟩⟩
  | true =>
      obtain ⟨hfull, hpartly, hle⟩ := hbroke rfl
      refine ⟨hle, fun hok => ?_, fun hcounting => ?_⟩
      · rw [hfull] at hok
        cases hok
      · rw [hpartly] at hcounting
        cases hcounting

theorem executeForCursorWindow_filled (memory : WindowMemory τ) (execution : Execution)
    {startPos requiredPos counted : Int} {window : CursorWindow τ} (hstart : 0 ≤ startPos)
    (hrequired : startPos ≤ requiredPos) (hbound : requiredPos < 2 ^ 31)
    (hexecute : executeForCursorWindow memory execution startPos requiredPos countAllRows =
      some (window, counted)) :
    (¬ execution.ColumnsSet ∧ window = ⟨0, []⟩ ∧ counted = 0) ∨
      WindowFilled memory execution startPos requiredPos countAllRows window counted := by
  have hcountable := execution.countable
  unfold executeForCursorWindow at hexecute
  split at hexecute
  swap
  · cases hexecute
  obtain ⟨⟨shown, result⟩, hnative, hresult⟩ := Option.map_eq_some_iff.mp hexecute
  obtain ⟨rfl, rfl⟩ := Prod.mk.inj hresult
  rcases nativeExecuteForCursorWindow_filled hnative with ⟨hunset, rfl, rfl⟩ |
    ⟨filling, hfilled, rfl, rfl, hnRow, hended, hcounted⟩
  · exact .inl ⟨hunset, rfl, rfl⟩
  refine .inr ?_
  have hiStart := hfilled.iStart_le (by omega)
  rw [actualPos_eq (by omega) (by omega), countedRows_eq _ (by omega)]
  have hshows : CursorWindow.ShowsRows (execution.copies memory)
      ⟨filling.iStart, filling.window⟩ :=
    ⟨Int.natCast_nonneg _, by rw [Int.toNat_natCast]; exact hfilled.shows⟩
  refine ⟨hshows, fun position shown hrow => ?_, fun hcounting => ?_, fun hwithin => ?_⟩
  · have hin := CursorWindow.getRow_isSome_iff.mp (Option.isSome_of_eq_some hrow)
    dsimp only at hin
    have hstartLe := hfilled.start_le
    exact hfilled.fits position.toNat shown (by omega) (by omega) (hshows.getRow hrow).2
  · rw [(hcounted hcounting).2]
    exact ⟨(hcounted hcounting).1, rfl⟩
  · have hiff := hfilled.required_iff (by omega) (by rw [Execution.copies_length]; omega)
      (by rwa [Execution.copies_length])
    rw [CursorWindow.getRow_isSome_iff]
    dsimp only
    constructor
    · rintro ⟨-, hend⟩ position shown hposition hle hrow
      exact hiff.mp (by omega) position shown (by omega) (by omega) hrow
    · intro hfit
      refine ⟨by omega, ?_⟩
      have hin := hiff.mpr fun position shown hposition hle hrow =>
        hfit position shown (by omega) (by omega) hrow
      omega

/-- Unless the columns could not be set, which leaves nothing in the window and gives the
number 0: each row in the window is the copy of the row of the result at this position, the
number is that of the rows of a whole result if all rows are to be counted, and the required row
is in the window if and only if every row from the start position up to it fits into a window by
itself. -/
theorem executeForCursorWindow_required_iff (memory : WindowMemory τ) (execution : Execution)
    {startPos requiredPos counted : Int} {window : CursorWindow τ} (hstart : 0 ≤ startPos)
    (hrequired : startPos ≤ requiredPos) (hbound : requiredPos < 2 ^ 31)
    (hexecute : executeForCursorWindow memory execution startPos requiredPos countAllRows =
      some (window, counted)) :
    (¬ execution.ColumnsSet ∧ window = ⟨0, []⟩ ∧ counted = 0) ∨
      (∀ position shown, window.getRow position = some shown →
        0 ≤ position ∧ (execution.copies memory)[position.toNat]? = some shown) ∧
      (countAllRows = true → execution.fails = false ∧ counted = execution.rows.length) ∧
      (requiredPos < execution.rows.length →
        (window.getRow requiredPos = (execution.copies memory)[requiredPos.toNat]? ↔
          RowsFit memory (execution.copies memory) startPos requiredPos)) := by
  refine (executeForCursorWindow_filled memory execution hstart hrequired hbound hexecute).imp_right
    fun hfilled => ⟨fun position shown hrow => hfilled.showsRows.getRow hrow, hfilled.counted,
      fun hwithin => ?_⟩
  rw [← hfilled.required hwithin]
  constructor
  · intro hsame
    rw [hsame, List.getElem?_eq_getElem (by rw [Execution.copies_length]; omega)]
    rfl
  · intro hin
    obtain ⟨shown, hrow⟩ := Option.isSome_iff_exists.mp hin
    rw [hrow, (hfilled.showsRows.getRow hrow).2]

/-- A window for two rows of one field each, with strings of at most five bytes. -/
def smallMemory : WindowMemory (List (BitVec 8)) where
  newStringUTF bytes := bytes
  hasRoom window row := decide (window.length < 2) && row.all fun field =>
    match field with
    | .string text => decide (text.length ≤ 5)
    | _ => true
  allocated := [.null]
  hasRoom_nil := by
    intro window row hroom
    rw [Bool.and_eq_true] at hroom ⊢
    exact ⟨rfl, hroom.2⟩

/-- The text of the last row has a zero byte in it. -/
def fourRows (fails : Bool) : Execution where
  rows := [[.integer 2], [.text [65, 66]], [.null], [.text [67, 0, 68]]]
  starts := true
  columnsSet := true
  columnsSetAgain _ := true
  fails := fails
  countable := by decide

/-- The window is full when the required row comes, and starts again with it. -/
theorem executeForCursorWindow_required_iff_fourRows :
    executeForCursorWindow smallMemory (fourRows false) 1 3 true =
        some (⟨3, [[.string [67]]]⟩, 4) ∧
      ((⟨3, [[.string [67]]]⟩ : CursorWindow (List (BitVec 8))).getRow 3 =
          ((fourRows false).copies smallMemory)[3]? ↔
        RowsFit smallMemory ((fourRows false).copies smallMemory) 1 3) := by
  have hexecute : executeForCursorWindow smallMemory (fourRows false) 1 3 true =
      some (⟨3, [[.string [67]]]⟩, 4) := by decide
  rcases executeForCursorWindow_required_iff smallMemory (fourRows false) (by decide) (by decide)
    (by decide) hexecute with ⟨-, -, hnone⟩ | ⟨-, -, hrequired⟩
  · cases hnone
  · exact ⟨hexecute, hrequired (by decide)⟩

end LSTAndroid.WindowedCursor
