import Mathlib.Data.List.Infix

namespace LSTAndroid.Library.SlidingWindow

variable {α : Type*} {whole window : List α} {start : Nat} {element : α}

/-- The window holds what stands in the list from `start` on, up to some point. -/
def Shows (whole : List α) (start : Nat) (window : List α) : Prop :=
  window <+: whole.drop start

theorem Shows.nil (whole : List α) (start : Nat) : Shows whole start [] :=
  List.nil_prefix

theorem Shows.getElem?_eq (h : Shows whole start window) {index : Nat}
    (hindex : index < window.length) : whole[start + index]? = window[index]? := by
  obtain ⟨rest, hrest⟩ := h
  rw [← List.getElem?_drop, ← hrest, List.getElem?_append_left hindex]

theorem Shows.getElem?_sub (h : Shows whole start window) {position : Nat}
    (hstart : start ≤ position) (hend : position < start + window.length) :
    window[position - start]? = whole[position]? := by
  have hread : whole[start + (position - start)]? = window[position - start]? :=
    h.getElem?_eq (by omega)
  rw [← hread, Nat.add_sub_cancel' hstart]

theorem Shows.concat (h : Shows whole start window)
    (hnext : whole[start + window.length]? = some element) :
    Shows whole start (window ++ [element]) := by
  obtain ⟨rest, hrest⟩ := h
  rw [← List.getElem?_drop, ← hrest, List.getElem?_append_right (Nat.le_refl _),
    Nat.sub_self] at hnext
  cases rest with
  | nil => simp at hnext
  | cons head rest =>
      obtain rfl : head = element := by simpa using hnext
      refine ⟨rest, ?_⟩
      rw [← hrest, List.append_assoc, List.singleton_append]

theorem Shows.restart (hfirst : whole[start]? = some element) : Shows whole start [element] :=
  (Shows.nil whole start).concat hfirst

end LSTAndroid.Library.SlidingWindow
