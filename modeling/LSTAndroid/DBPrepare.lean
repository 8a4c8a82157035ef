import LSTAndroid.Library.ValidPrefix
import LSTAndroid.SpaceTime
import Mathlib.Data.List.DropRight

namespace LSTAndroid.DBPrepare

open LSTAndroid.Library.ValidPrefix
open LSTAndroid.SpaceTime

/-- The two patterns at which lines are split, `" "` and `"\\s+"`. -/
inductive Delimiter where
  | space
  | whitespace
  deriving DecidableEq

def isWhitespace (c : Char) : Bool :=
  [' ', '\t', '\n', '\x0b', '\x0c', '\r'].contains c

def Delimiter.isDelimiter : Delimiter → Char → Bool
  | .space, c => c == ' '
  | .whitespace, c => isWhitespace c

/-- The parts between the matches; one match of `"\\s+"` takes all whitespace there is. -/
def Delimiter.parts (delimiter : Delimiter) (chars : List Char) : List (List Char) :=
  match delimiter, chars.splitOnP delimiter.isDelimiter with
  | .whitespace, first :: rest => first :: rest.filter fun part => !part.isEmpty
  | _, parts => parts

/-- `line.split(delimiter)`, which drops empty parts at the end and returns the line itself
when nothing matches. -/
def split (delimiter : Delimiter) (line : String) : List String :=
  if line.toList.any delimiter.isDelimiter then
    ((delimiter.parts line.toList).rdropWhile List.isEmpty).map String.ofList
  else [line]

structure Format where
  xIndex : ℕ
  yIndex : ℕ
  tIndex : ℕ
  delimiter : Delimiter

def format (isCabs : Bool) : Format :=
  if isCabs then ⟨1, 0, 3, .space⟩ else ⟨1, 2, 0, .whitespace⟩

variable {K : Type}

section Files

-- `valueOf` stands for `Float.valueOf`, which throws on what is no number.
variable (valueOf : String → Option K)

def readPoint (format : Format) (line : String) : Option (FullPoint K) := do
  let split := split format.delimiter line
  let x ← valueOf (← split[format.xIndex]?)
  let y ← valueOf (← split[format.yIndex]?)
  let t ← valueOf (← split[format.tIndex]?)
  return ⟨x, y, t⟩

/-- A structure by the points that `insert` is called with, in order; which of them its smart
insert keeps is up to the library. -/
structure LSTFilter (K : Type) where
  smartInsert : Bool
  inserted : List (FullPoint K)
  deriving DecidableEq

def LSTFilter.setSmartInsert (smartInsert : Bool) (struct : LSTFilter K) : LSTFilter K :=
  { struct with smartInsert }

def LSTFilter.insert (point : FullPoint K) (struct : LSTFilter K) : LSTFilter K :=
  { struct with inserted := struct.inserted ++ [point] }

def insertPoint (structs : List (LSTFilter K)) (temp : FullPoint K) : List (LSTFilter K) :=
  structs.map (LSTFilter.insert temp)

def smartInsOffVal : ℚ := -1

/-- The loop over the lines after the first; an exception leaves it with the structures as
they are. -/
def insertLines (format : Format) (num : ℤ) :
    List String → ℤ → List (LSTFilter K) → List (LSTFilter K)
  | [], _, structs => structs
  | line :: rest, count, structs =>
      if count < num then
        match readPoint valueOf format line with
        | none => structs
        | some point => insertLines format num rest (count + 1) (insertPoint structs point)
      else structs

-- `files` has the lines of the files that can be opened.
variable (files : String → Option (List String))

def populateDB (structs : List (LSTFilter K)) (fileName : String) (num : ℤ)
    (smartInsThresh : ℚ) (isCabs : Bool) : List (LSTFilter K) :=
  let smartInsert := smartInsThresh ≠ smartInsOffVal
  let structs := structs.map (LSTFilter.setSmartInsert smartInsert)
  match files fileName with
  | some (first :: rest) =>
      match readPoint valueOf (format isCabs) first with
      | none => structs
      | some point =>
          insertLines valueOf (format isCabs) num rest 1 (insertPoint structs point)
  -- the first line of an empty file is null
  | some [] => structs
  | none => structs

end Files

def insertPoints (structs : List (LSTFilter K)) (points : List (FullPoint K)) :
    List (LSTFilter K) :=
  points.foldl insertPoint structs

variable {valueOf : String → Option K} {files : String → Option (List String)}

theorem insertLines_eq (format : Format) (num : ℤ) (lines : List String) (count : ℤ)
    (structs : List (LSTFilter K)) :
    insertLines valueOf format num lines count structs = insertPoints structs
      (validPrefix (readPoint valueOf format) (lines.take (num - count).toNat)) := by
  induction lines generalizing count structs with
  | nil => simp [insertLines, validPrefix, insertPoints]
  | cons line rest ih =>
      rw [insertLines]
      split
      · have hleft : (num - count).toNat = (num - (count + 1)).toNat + 1 := by omega
        rw [hleft, List.take_succ_cons]
        split
        · rename_i hline
          rw [validPrefix_cons_none hline]
          rfl
        · rename_i point hline
          rw [validPrefix_cons_some hline, ih]
          rfl
      · have hnone : (num - count).toNat = 0 := by omega
        rw [hnone]
        rfl

theorem populateDB_eq {fileName : String} {lines : List String}
    (hfile : files fileName = some lines) (structs : List (LSTFilter K)) (num : ℤ)
    (smartInsThresh : ℚ) (isCabs : Bool) :
    populateDB valueOf files structs fileName num smartInsThresh isCabs =
      insertPoints (structs.map (LSTFilter.setSmartInsert (smartInsThresh ≠ smartInsOffVal)))
        (validPrefix (readPoint valueOf (format isCabs)) (lines.take (max 1 num.toNat))) := by
  cases lines with
  | nil => simp [populateDB, hfile, validPrefix, insertPoints]
  | cons first rest =>
      have hcount : max 1 num.toNat = (num - 1).toNat + 1 := by omega
      simp only [populateDB, hfile]
      rw [hcount, List.take_succ_cons]
      split
      · rename_i hfirst
        rw [validPrefix_cons_none hfirst]
        rfl
      · rename_i point hfirst
        rw [validPrefix_cons_some hfirst, insertLines_eq]
        rfl

theorem insertPoints_inserted (structs : List (LSTFilter K)) (points : List (FullPoint K)) :
    (insertPoints structs points).map LSTFilter.inserted =
      structs.map fun struct => struct.inserted ++ points := by
  induction points generalizing structs with
  | nil => simp [insertPoints]
  | cons point points ih =>
      rw [insertPoints, List.foldl_cons]
      exact (ih _).trans (by simp [insertPoint, LSTFilter.insert])

/-- `insert` of every structure has got exactly these points, in this order. -/
def Inserts (structs result : List (LSTFilter K)) (points : List (FullPoint K)) : Prop :=
  result.map LSTFilter.inserted = structs.map fun struct => struct.inserted ++ points

theorem Inserts.unique {structs result : List (LSTFilter K)} {points others : List (FullPoint K)}
    (h : Inserts structs result points) (hothers : Inserts structs result others)
    (hne : structs ≠ []) : points = others := by
  obtain ⟨struct, hstruct⟩ := List.exists_mem_of_ne_nil structs hne
  exact List.append_cancel_left (List.map_inj_left.mp (h.symm.trans hothers) struct hstruct)

theorem populateDB_inserts (valueOf : String → Option K) {fileName : String} {lines : List String}
    (hfile : files fileName = some lines) (structs : List (LSTFilter K)) (num : ℤ)
    (smartInsThresh : ℚ) (isCabs : Bool) :
    Inserts structs (populateDB valueOf files structs fileName num smartInsThresh isCabs)
      (validPrefix (readPoint valueOf (format isCabs)) (lines.take (max 1 num.toNat))) := by
  rw [Inserts, populateDB_eq hfile, insertPoints_inserted, List.map_map]
  rfl

section Files

variable (valueOf : String → Option K) (files : String → Option (List String))

/-- All structures get the points of the first `num` lines or, where a line among these is
malformed, the points of the lines before it. -/
structure FillsAlike (structs : List (LSTFilter K)) (fileName : String) (lines : List String)
    (num : ℕ) (smartInsThresh : ℚ) (isCabs : Bool) : Prop where
  wellFormed : ∀ points, ReadsAs (readPoint valueOf (format isCabs)) lines points →
    Inserts structs (populateDB valueOf files structs fileName num smartInsThresh isCabs)
      (points.take num)
  malformed : ∀ before line after points, lines = before ++ line :: after →
    ReadsAs (readPoint valueOf (format isCabs)) before points →
    readPoint valueOf (format isCabs) line = none → before.length < num →
      Inserts structs (populateDB valueOf files structs fileName num smartInsThresh isCabs) points
  alike : ∃ points,
    Inserts structs (populateDB valueOf files structs fileName num smartInsThresh isCabs) points

end Files

theorem fillsAlike_of_pos {fileName : String} {lines : List String}
    (hfile : files fileName = some lines) (structs : List (LSTFilter K)) {num : ℕ}
    (hnum : 0 < num) (smartInsThresh : ℚ) (isCabs : Bool) :
    FillsAlike valueOf files structs fileName lines num smartInsThresh isCabs := by
  have hinserts := populateDB_inserts valueOf hfile structs num smartInsThresh isCabs
  have hmax : max 1 num = num := max_eq_right hnum
  rw [Int.toNat_natCast, hmax, validPrefix_take] at hinserts
  refine ⟨?_, ?_, _, hinserts⟩
  · intro points hpoints
    rwa [validPrefix_eq hpoints] at hinserts
  · rintro before line after points rfl hbefore hline hless
    have hlength : points.length ≤ num := hbefore.length_eq ▸ hless.le
    rwa [validPrefix_append_none hbefore hline, List.take_of_length_le hlength] at hinserts

/-- The contents are right unless no line is asked for: then the first line of a well-formed
file is inserted all the same. -/
theorem fills_alike_iff {fileName : String} {lines : List String}
    (hfile : files fileName = some lines) (hlines : lines ≠ []) (structs : List (LSTFilter K))
    (num : ℕ) (smartInsThresh : ℚ) (isCabs : Bool) :
    FillsAlike valueOf files structs fileName lines num smartInsThresh isCabs ↔
      0 < num ∨ structs = [] ∨ ∃ line ∈ lines, readPoint valueOf (format isCabs) line = none := by
  rcases Nat.eq_zero_or_pos num with rfl | hnum
  · have hinserts := populateDB_inserts valueOf hfile structs (0 : ℕ) smartInsThresh
      isCabs
    constructor
    · intro h
      rw [or_iff_right (lt_irrefl 0), or_iff_not_imp_left]
      intro hstructs
      by_contra hwell
      push Not at hwell
      obtain ⟨points, hpoints⟩ := (exists_readsAs_iff lines).mpr hwell
      have hsame := hinserts.unique (h.wellFormed points hpoints) hstructs
      rw [validPrefix_take, validPrefix_eq hpoints] at hsame
      have hlength := congrArg List.length hsame
      have hpositive := List.length_pos_of_ne_nil hlines
      rw [hpoints.length_eq] at hpositive
      simp only [List.length_take, Int.toNat_natCast] at hlength
      omega
    · rintro (hnum | rfl | ⟨line, hline, hbad⟩)
      · exact absurd hnum (lt_irrefl 0)
      · exact ⟨fun _ _ => hinserts, fun _ _ _ _ _ _ _ _ => hinserts, _, hinserts⟩
      · refine ⟨fun points hpoints => ?_, fun _ _ _ _ _ _ _ hless => ?_, _, hinserts⟩
        · exact absurd hbad ((exists_readsAs_iff lines).mp ⟨points, hpoints⟩ line hline)
        · exact absurd hless (Nat.not_lt_zero _)
  · exact iff_of_true (fillsAlike_of_pos hfile structs hnum smartInsThresh isCabs) (.inl hnum)

def twoFixes : List String := ["30.25 -97.75 0 1213084687", "30.5 -97.5 1 1213084659"]

/-- The floats of the two lines; the two times are the same float. -/
def valueOfTwo (text : String) : Option ℚ :=
  [("30.25", (3025 : ℚ) / 100), ("-97.75", -9775 / 100), ("1213084687", 1213084672),
    ("30.5", 305 / 10), ("-97.5", -975 / 10), ("1213084659", 1213084672)].lookup text

def onlyFile (fileName : String) : Option (List String) :=
  if fileName = "new_abboip.txt" then some twoFixes else none

theorem fills_with_one_line :
    FillsAlike valueOfTwo onlyFile [⟨false, []⟩, ⟨false, []⟩] "new_abboip.txt" twoFixes 1
      smartInsOffVal true :=
  (fills_alike_iff rfl (by decide) _ 1 smartInsOffVal true).mpr (.inl Nat.one_pos)

/-- No line is asked for, and the first point is inserted. -/
theorem inserts_unasked_line :
    ¬ FillsAlike valueOfTwo onlyFile [⟨false, []⟩] "new_abboip.txt" twoFixes 0
      smartInsOffVal true := by
  intro h
  have hreads : ReadsAs (readPoint valueOfTwo (format true)) twoFixes
      [⟨-9775 / 100, 3025 / 100, 1213084672⟩, ⟨-975 / 10, 305 / 10, 1213084672⟩] :=
    .cons (by decide +kernel) (.cons (by decide +kernel) .nil)
  have hinserts := populateDB_inserts valueOfTwo (rfl : onlyFile "new_abboip.txt" = some twoFixes)
    [⟨false, []⟩] 0 smartInsOffVal true
  have hsame := hinserts.unique (h.wellFormed _ hreads) (List.cons_ne_nil _ _)
  rw [validPrefix_take, validPrefix_eq hreads] at hsame
  cases hsame

end LSTAndroid.DBPrepare
