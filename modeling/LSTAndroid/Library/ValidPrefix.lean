import Mathlib.Data.List.Forall2

namespace LSTAndroid.Library.ValidPrefix

universe u v

variable {A : Type u} {B : Type v} {read : A → Option B}

def validPrefix (read : A → Option B) : List A → List B
  | [] => []
  | item :: rest =>
      match read item with
      | none => []
      | some value => value :: validPrefix read rest

def ReadsAs (read : A → Option B) (items : List A) (values : List B) : Prop :=
  List.Forall₂ (fun item value => read item = some value) items values

theorem validPrefix_cons_none {item : A} (h : read item = none) (rest : List A) :
    validPrefix read (item :: rest) = [] := by
  rw [validPrefix, h]

theorem validPrefix_cons_some {item : A} {value : B} (h : read item = some value)
    (rest : List A) : validPrefix read (item :: rest) = value :: validPrefix read rest := by
  rw [validPrefix, h]

theorem validPrefix_append {items : List A} {values : List B} (h : ReadsAs read items values)
    (rest : List A) : validPrefix read (items ++ rest) = values ++ validPrefix read rest := by
  induction h with
  | nil => rfl
  | cons hread _ ih => rw [List.cons_append, validPrefix_cons_some hread, ih, List.cons_append]

theorem validPrefix_eq {items : List A} {values : List B} (h : ReadsAs read items values) :
    validPrefix read items = values := by
  have happend := validPrefix_append h []
  rwa [List.append_nil, validPrefix, List.append_nil] at happend

theorem validPrefix_append_none {items : List A} {values : List B}
    (h : ReadsAs read items values) {item : A} (hitem : read item = none) (rest : List A) :
    validPrefix read (items ++ item :: rest) = values := by
  rw [validPrefix_append h, validPrefix_cons_none hitem, List.append_nil]

theorem validPrefix_take (items : List A) (n : ℕ) :
    validPrefix read (items.take n) = (validPrefix read items).take n := by
  induction items generalizing n with
  | nil => simp [validPrefix]
  | cons item rest ih =>
      cases n with
      | zero => simp [validPrefix]
      | succ n =>
          rcases hitem : read item with - | value
          · rw [List.take_succ_cons, validPrefix_cons_none hitem, validPrefix_cons_none hitem]
            rfl
          · rw [List.take_succ_cons, validPrefix_cons_some hitem, validPrefix_cons_some hitem,
              List.take_succ_cons, ih]

theorem exists_readsAs_iff (items : List A) :
    (∃ values, ReadsAs read items values) ↔ ∀ item ∈ items, read item ≠ none := by
  induction items with
  | nil => exact iff_of_true ⟨[], .nil⟩ (by simp)
  | cons item rest ih =>
      rw [List.forall_mem_cons, ← ih]
      constructor
      · rintro ⟨_, hreads⟩
        cases hreads with
        | cons hread hrest => exact ⟨by simp [hread], _, hrest⟩
      · rintro ⟨hitem, values, hrest⟩
        obtain ⟨value, hvalue⟩ := Option.ne_none_iff_exists'.mp hitem
        exact ⟨value :: values, .cons hvalue hrest⟩

end LSTAndroid.Library.ValidPrefix
