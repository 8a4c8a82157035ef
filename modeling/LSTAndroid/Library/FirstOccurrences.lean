import Mathlib.Data.List.Infix
import Mathlib.Data.List.Nodup

namespace LSTAndroid.Library.FirstOccurrences

variable {α β : Type} [DecidableEq α]

def appendNew (seen : List α) (a : α) : List α :=
  if a ∈ seen then seen else seen ++ [a]

theorem eraseDups_concat (offered : List α) (a : α) :
    (offered ++ [a]).eraseDups = appendNew offered.eraseDups a := by
  rw [List.eraseDups_append, appendNew]
  by_cases ha : a ∈ offered
  · simp [ha, List.removeAll]
  · simp [ha, List.removeAll, List.eraseDups_cons]

theorem nodup_eraseDups (offered : List α) : offered.eraseDups.Nodup := by
  induction offered using List.reverseRecOn with
  | nil => exact List.nodup_nil
  | append_singleton offered a ih =>
      rw [eraseDups_concat, appendNew]
      split
      · exact ih
      · rename_i hnew
        rw [← List.concat_eq_append]
        exact ih.concat hnew

theorem eraseDups_perm {offered other : List α} (h : ∀ a, a ∈ offered ↔ a ∈ other) :
    offered.eraseDups.Perm other.eraseDups := by
  rw [List.perm_ext_iff_of_nodup (nodup_eraseDups offered) (nodup_eraseDups other)]
  intro a
  rw [List.mem_eraseDups, List.mem_eraseDups, h a]

theorem eraseDups_append_of_mem {offered more : List α} (h : ∀ a ∈ more, a ∈ offered) :
    (offered ++ more).eraseDups = offered.eraseDups := by
  induction more using List.reverseRecOn with
  | nil => rw [List.append_nil]
  | append_singleton more a ih =>
      have hmore : ∀ b ∈ more, b ∈ offered :=
        fun b hb => h b (List.mem_append_left _ hb)
      have ha : a ∈ offered := h a (by simp)
      rw [← List.append_assoc, eraseDups_concat, ih hmore, appendNew,
        if_pos (List.mem_eraseDups.mpr ha)]

theorem eraseDups_append_congr {first first' second second' : List α}
    (hfirst : first.eraseDups = first'.eraseDups)
    (hsecond : second.eraseDups = second'.eraseDups) :
    (first ++ second).eraseDups = (first' ++ second').eraseDups := by
  have hkeep : ∀ offered more : List α,
      (offered ++ more).eraseDups = (offered ++ more.eraseDups).eraseDups := by
    intro offered more
    induction more using List.reverseRecOn with
    | nil => rfl
    | append_singleton more a ih =>
        rw [← List.append_assoc, eraseDups_concat, ih, eraseDups_concat more a, appendNew,
          appendNew]
        by_cases ha : a ∈ more
        · simp [ha]
        · simp only [List.mem_eraseDups, ha, if_false]
          rw [← List.append_assoc, eraseDups_concat, appendNew]
          simp only [List.mem_eraseDups]
  have hremove : ∀ more : List α, more.removeAll first = more.removeAll first' := by
    intro more
    have hmem : ∀ a, a ∈ first ↔ a ∈ first' := by
      intro a
      rw [← List.mem_eraseDups, hfirst, List.mem_eraseDups]
    simp [List.removeAll, hmem]
  calc
    (first ++ second).eraseDups = (first ++ second'.eraseDups).eraseDups := by
      rw [hkeep, hsecond]
    _ = (first' ++ second'.eraseDups).eraseDups := by
      rw [List.eraseDups_append, List.eraseDups_append, hfirst, hremove]
    _ = (first' ++ second').eraseDups := (hkeep first' second').symm

theorem eraseDups_flatMap_congr {f g : β → List α} (items : List β)
    (h : ∀ b ∈ items, (f b).eraseDups = (g b).eraseDups) :
    (items.flatMap f).eraseDups = (items.flatMap g).eraseDups := by
  induction items with
  | nil => rfl
  | cons b items ih =>
      rw [List.flatMap_cons, List.flatMap_cons]
      exact eraseDups_append_congr (h b List.mem_cons_self)
        (ih fun c hc => h c (List.mem_cons_of_mem b hc))

theorem eraseDups_of_forall_eq {offered : List α} {a : α} (h : ∀ b ∈ offered, b = a) :
    offered.eraseDups = if offered = [] then [] else [a] := by
  cases offered with
  | nil => rfl
  | cons b offered =>
      obtain rfl : b = a := h b List.mem_cons_self
      have hsame : ∀ c ∈ offered, c ∈ [b] := by
        intro c hc
        rw [h c (List.mem_cons_of_mem b hc)]
        exact List.mem_cons_self
      have hall := eraseDups_append_of_mem hsame
      simpa [List.eraseDups_cons] using hall

omit [DecidableEq α] in
/-- At most one entry of a list without repetition has the key `k` exactly when
the key determines its entry. -/
theorem length_filter_le_one_iff (key : α → β) [DecidableEq β] {entries : List α}
    (h : entries.Nodup) (k : β) :
    (entries.filter fun a => key a = k).length ≤ 1 ↔
      ∀ a ∈ entries, ∀ b ∈ entries, key a = k → key b = k → a = b := by
  constructor
  · intro hlength a ha b hb hka hkb
    have hmema : a ∈ entries.filter fun a => key a = k := by simp [ha, hka]
    have hmemb : b ∈ entries.filter fun a => key a = k := by simp [hb, hkb]
    rcases hentries : entries.filter fun a => key a = k with _ | ⟨c, _ | ⟨d, rest⟩⟩
    · simp [hentries] at hmema
    · rw [hentries] at hmema hmemb
      rw [List.mem_singleton.mp hmema, List.mem_singleton.mp hmemb]
    · simp [hentries] at hlength
  · intro hunique
    rcases hentries : entries.filter fun a => key a = k with _ | ⟨c, _ | ⟨d, rest⟩⟩
    · simp
    · simp
    · have hmem : ∀ a ∈ c :: d :: rest, a ∈ entries ∧ key a = k := by
        intro a ha
        rw [← hentries] at ha
        simpa using ha
      have hnodup := h.filter fun a => decide (key a = k)
      rw [hentries] at hnodup
      obtain ⟨hc, hkc⟩ := hmem c (by simp)
      obtain ⟨hd, hkd⟩ := hmem d (by simp)
      have heq := hunique c hc d hd hkc hkd
      simp [heq] at hnodup

end LSTAndroid.Library.FirstOccurrences
