import Mathlib.Data.List.AList
import Mathlib.Data.List.Induction

namespace LSTAndroid.Library.HashTable

universe u v w

/-- A table from `K` to `A`. -/
abbrev Table (K : Type u) (A : Type v) := AList fun _ : K => A

variable {K : Type u} {A : Type v} {Put : Type w}

section Histories

variable [DecidableEq K]

/-- A put replaces the value that the table has under the same key. -/
def putAll (key : Put → K) (value : Put → A) (puts : List Put) : Table K A :=
  puts.foldl (fun table put => table.insert (key put) (value put)) ∅

/-- No later put has the key of this one. -/
def LastPut (key : Put → K) (puts : List Put) (put : Put) : Prop :=
  ∃ before after, puts = before ++ put :: after ∧ ∀ later ∈ after, key later ≠ key put

variable {key : Put → K} {value : Put → A}

theorem putAll_concat (puts : List Put) (put : Put) :
    putAll key value (puts ++ [put]) = (putAll key value puts).insert (key put) (value put) := by
  simp [putAll]

omit [DecidableEq K] in
theorem not_lastPut_nil (put : Put) : ¬ LastPut key [] put := by
  rintro ⟨before, after, heq, -⟩
  simp at heq

omit [DecidableEq K] in
theorem lastPut_concat (puts : List Put) (last put : Put) :
    LastPut key (puts ++ [last]) put ↔ put = last ∨ LastPut key puts put ∧ key last ≠ key put := by
  constructor
  · rintro ⟨before, after, heq, hafter⟩
    rcases List.eq_nil_or_concat after with rfl | ⟨rest, final, rfl⟩
    · exact .inl (List.head_eq_of_cons_eq (List.append_inj' heq rfl).2).symm
    · rw [List.concat_eq_append, ← List.cons_append, ← List.append_assoc] at heq
      obtain ⟨rfl, hfinal⟩ := List.append_inj' heq rfl
      obtain rfl := List.head_eq_of_cons_eq hfinal
      rw [List.concat_eq_append, List.forall_mem_append, List.forall_mem_singleton] at hafter
      exact .inr ⟨⟨before, rest, rfl, hafter.1⟩, hafter.2⟩
  · rintro (rfl | ⟨⟨before, after, rfl, hafter⟩, hlast⟩)
    · exact ⟨puts, [], rfl, by simp⟩
    · refine ⟨before, after ++ [last], by simp, ?_⟩
      rw [List.forall_mem_append, List.forall_mem_singleton]
      exact ⟨hafter, hlast⟩

theorem lookup_putAll_iff (puts : List Put) (k : K) (a : A) :
    (putAll key value puts).lookup k = some a ↔
      ∃ put, LastPut key puts put ∧ key put = k ∧ value put = a := by
  induction puts using List.reverseRecOn with
  | nil => simp [putAll, not_lastPut_nil]
  | append_singleton puts last ih =>
      rw [putAll_concat]
      rcases eq_or_ne k (key last) with rfl | hkey
      · rw [AList.lookup_insert]
        constructor
        · rintro ⟨⟩
          exact ⟨last, (lastPut_concat puts last last).mpr (.inl rfl), rfl, rfl⟩
        · rintro ⟨put, hput, hsame, rfl⟩
          rcases (lastPut_concat puts last put).mp hput with rfl | ⟨-, hother⟩
          · rfl
          · exact absurd hsame.symm hother
      · rw [AList.lookup_insert_ne hkey, ih]
        constructor
        · rintro ⟨put, hput, rfl, rfl⟩
          exact ⟨put, (lastPut_concat puts last put).mpr (.inr ⟨hput, hkey.symm⟩), rfl, rfl⟩
        · rintro ⟨put, hput, rfl, rfl⟩
          rcases (lastPut_concat puts last put).mp hput with rfl | ⟨hearlier, -⟩
          · exact absurd rfl hkey
          · exact ⟨put, hearlier, rfl, rfl⟩

end Histories

structure IterationOrder (K : Type u) (A : Type v) where
  entries : Table K A → List (Σ _ : K, A)
  perm : ∀ table, (entries table).Perm table.entries

def storedOrder (K : Type u) (A : Type v) : IterationOrder K A where
  entries table := table.entries
  perm _ := .rfl

/-- The key of the first entry whose value passes the test. -/
def firstKey (order : IterationOrder K A) (test : A → Bool) (table : Table K A) : Option K :=
  ((order.entries table).find? fun entry => test entry.2).map Sigma.fst

variable [DecidableEq K] {order : IterationOrder K A} {test : A → Bool} {table : Table K A}

theorem mem_entries_iff (k : K) (a : A) :
    ⟨k, a⟩ ∈ order.entries table ↔ table.lookup k = some a := by
  rw [(order.perm table).mem_iff]
  exact AList.mem_lookup_iff.symm

theorem firstKey_eq_none_iff :
    firstKey order test table = none ↔ ∀ k a, table.lookup k = some a → test a = false := by
  rw [firstKey, Option.map_eq_none_iff, List.find?_eq_none]
  constructor
  · intro h k a hlookup
    simpa using h ⟨k, a⟩ ((mem_entries_iff k a).mpr hlookup)
  · rintro h ⟨k, a⟩ hmem
    simpa using h k a ((mem_entries_iff k a).mp hmem)

theorem firstKey_eq_some {k : K} (h : firstKey order test table = some k) :
    ∃ a, table.lookup k = some a ∧ test a = true := by
  obtain ⟨⟨_, a⟩, hfind, rfl⟩ := Option.map_eq_some_iff.mp h
  have htest := List.find?_some hfind
  exact ⟨a, (mem_entries_iff _ a).mp (List.mem_of_find?_eq_some hfind), htest⟩

end LSTAndroid.Library.HashTable
