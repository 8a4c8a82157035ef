import Mathlib.Data.List.Induction
import Mathlib.Order.Lattice

namespace LSTAndroid.Library.MinimumScan

universe u v

variable {A : Type u} {Key : Type v} [LinearOrder Key]

/-- An item without a key is passed over. -/
def keepSmaller (key : A → Option Key) (best : Option A × Key) (item : A) : Option A × Key :=
  match key item with
  | some k => if k < best.2 then (some item, k) else best
  | none => best

def scanMinimum (key : A → Option Key) (top : Key) (items : List A) : Option A × Key :=
  items.foldl (keepSmaller key) (none, top)

/-- The result of a scan: no item has a key below the bound it started from, or the
item found has the smallest key of all, and that key is below the bound. -/
inductive IsMinimum (key : A → Option Key) (top : Key) (items : List A) :
    Option A × Key → Prop where
  | absent (hnone : ∀ item ∈ items, ∀ k ∈ key item, top ≤ k) :
      IsMinimum key top items (none, top)
  | found {least : A} {smallest : Key} (hmem : least ∈ items)
      (hkey : key least = some smallest) (hbelow : smallest < top)
      (hleast : ∀ item ∈ items, ∀ k ∈ key item, smallest ≤ k) :
      IsMinimum key top items (some least, smallest)

theorem IsMinimum.concat {key : A → Option Key} {top : Key} {items : List A}
    {best : Option A × Key} (h : IsMinimum key top items best) (item : A) :
    IsMinimum key top (items ++ [item]) (keepSmaller key best item) := by
  unfold keepSmaller
  rcases hkey : key item with _ | k
  · have hskip : ∀ bound, (∀ other ∈ items, ∀ k ∈ key other, bound ≤ k) →
        ∀ other ∈ items ++ [item], ∀ k ∈ key other, bound ≤ k := by
      intro bound hbound
      simpa [or_imp, forall_and, hkey] using hbound
    cases h with
    | absent hnone => exact .absent (hskip _ hnone)
    | found hmem hfound hbelow hleast =>
        exact .found (List.mem_append_left _ hmem) hfound hbelow (hskip _ hleast)
  · have hextend : ∀ bound, bound ≤ k → (∀ other ∈ items, ∀ k ∈ key other, bound ≤ k) →
        ∀ other ∈ items ++ [item], ∀ k ∈ key other, bound ≤ k := by
      intro bound hbound hbefore
      simpa [or_imp, forall_and, hkey] using ⟨hbefore, hbound⟩
    have hlast : item ∈ items ++ [item] := List.mem_append_right _ (List.mem_singleton_self item)
    dsimp only
    split
    · rename_i hsmaller
      cases h with
      | absent hnone =>
          refine .found hlast hkey hsmaller (hextend _ le_rfl ?_)
          intro other hother kOther hk
          exact hsmaller.le.trans (hnone other hother kOther hk)
      | found hmem hfound hbelow hleast =>
          refine .found hlast hkey (hsmaller.trans hbelow) (hextend _ le_rfl ?_)
          intro other hother kOther hk
          exact hsmaller.le.trans (hleast other hother kOther hk)
    · rename_i hnot
      rw [not_lt] at hnot
      cases h with
      | absent hnone => exact .absent (hextend _ hnot hnone)
      | found hmem hfound hbelow hleast =>
          exact .found (List.mem_append_left _ hmem) hfound hbelow (hextend _ hnot hleast)

theorem scanMinimum_isMinimum (key : A → Option Key) (top : Key) (items : List A) :
    IsMinimum key top items (scanMinimum key top items) := by
  induction items using List.reverseRecOn with
  | nil => exact .absent (by simp)
  | append_singleton items item ih =>
      rw [scanMinimum, List.foldl_append]
      exact ih.concat item

theorem IsMinimum.mem {key : A → Option Key} {top : Key} {items : List A}
    {best : Option A × Key} (h : IsMinimum key top items best) {least : A}
    (hbest : best.1 = some least) : least ∈ items := by
  cases h with
  | absent hnone => cases hbest
  | found hmem hkey hbelow hleast =>
      obtain rfl := Option.some.inj hbest
      exact hmem

theorem IsMinimum.isSome_iff {key : A → Option Key} {top : Key} {items : List A}
    {best : Option A × Key} (h : IsMinimum key top items best) :
    best.1.isSome = true ↔ ∃ item ∈ items, ∃ k ∈ key item, k < top := by
  cases h with
  | absent hnone =>
      simp only [Option.isSome_none, Bool.false_eq_true, false_iff, not_exists, not_and, not_lt]
      exact hnone
  | found hmem hkey hbelow hleast =>
      simp only [Option.isSome_some, true_iff]
      exact ⟨_, hmem, _, hkey, hbelow⟩

theorem IsMinimum.of_perm {key : A → Option Key} {top : Key} {items others : List A}
    {best : Option A × Key} (h : IsMinimum key top items best) (hperm : items.Perm others) :
    IsMinimum key top others best := by
  cases h with
  | absent hnone => exact .absent fun item hitem => hnone item (hperm.mem_iff.mpr hitem)
  | found hmem hkey hbelow hleast =>
      exact .found (hperm.mem_iff.mp hmem) hkey hbelow
        fun item hitem => hleast item (hperm.mem_iff.mpr hitem)

theorem IsMinimum.key_eq {key : A → Option Key} {top : Key} {items : List A}
    {best other : Option A × Key} (h : IsMinimum key top items best)
    (hother : IsMinimum key top items other) : best.1.map key = other.1.map key := by
  cases h with
  | absent hnone =>
      cases hother with
      | absent _ => rfl
      | found hmem hkey hbelow _ => exact absurd hbelow (hnone _ hmem _ hkey).not_gt
  | found hmem hkey hbelow hleast =>
      cases hother with
      | absent hnone => exact absurd hbelow (hnone _ hmem _ hkey).not_gt
      | found hmemOther hkeyOther _ hleastOther =>
          have hle := hleast _ hmemOther _ hkeyOther
          have hge := hleastOther _ hmem _ hkey
          rw [Option.map_some, Option.map_some, hkey, hkeyOther, le_antisymm hle hge]

end LSTAndroid.Library.MinimumScan
