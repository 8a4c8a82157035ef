import Mathlib.Data.Multiset.UnionInter
import Mathlib.Data.Multiset.AddSub
import Mathlib.Logic.Relation

namespace LSTAndroid.Library.ResourceLedger

@[ext]
structure Ledger where
  next : Nat
  idle : Multiset Nat
  lent : Multiset Nat
  retired : Multiset Nat

namespace Ledger

def all (ledger : Ledger) : Multiset Nat :=
  ledger.idle + ledger.lent + ledger.retired

/-- Every resource is in one place, and the next number is not in use. -/
structure Valid (ledger : Ledger) : Prop where
  nodup : ledger.all.Nodup
  lt_next : ∀ resource ∈ ledger.all, resource < ledger.next

inductive Move : Ledger → Ledger → Prop
  | skip {next idle lent retired} :
      Move ⟨next, idle, lent, retired⟩ ⟨next + 1, idle, lent, retired⟩
  | create {next idle lent retired} :
      Move ⟨next, idle, lent, retired⟩ ⟨next + 1, next ::ₘ idle, lent, retired⟩
  | lend {next idle lent retired resource} :
      Move ⟨next, resource ::ₘ idle, lent, retired⟩ ⟨next, idle, resource ::ₘ lent, retired⟩
  | giveBack {next idle lent retired resource} :
      Move ⟨next, idle, resource ::ₘ lent, retired⟩ ⟨next, resource ::ₘ idle, lent, retired⟩
  | retire {next idle lent retired resource} :
      Move ⟨next, resource ::ₘ idle, lent, retired⟩ ⟨next, idle, lent, resource ::ₘ retired⟩

abbrev Moves : Ledger → Ledger → Prop :=
  Relation.ReflTransGen Move

variable {before after : Ledger}

theorem Move.all_eq (h : Move before after) :
    after.all = before.all ∨
      after.next = before.next + 1 ∧ after.all = before.next ::ₘ before.all := by
  cases h with
  | skip => exact .inl rfl
  | create => exact .inr ⟨rfl, by simp [all]⟩
  | lend => exact .inl (by simp [all])
  | giveBack => exact .inl (by simp [all])
  | retire => exact .inl (by simp [all])

theorem Move.next_le (h : Move before after) : before.next ≤ after.next := by
  cases h <;> simp

theorem Move.retired_le (h : Move before after) : before.retired ≤ after.retired := by
  cases h with
  | retire => exact Multiset.le_cons_self _ _
  | _ => exact le_rfl

theorem Move.valid (h : Move before after) (hvalid : before.Valid) : after.Valid := by
  rcases h.all_eq with hall | ⟨hnext, hall⟩
  · refine ⟨by rw [hall]; exact hvalid.nodup, fun resource hresource => ?_⟩
    rw [hall] at hresource
    exact (hvalid.lt_next resource hresource).trans_le h.next_le
  · refine ⟨?_, fun resource hresource => ?_⟩
    · rw [hall, Multiset.nodup_cons]
      exact ⟨fun hmem => (hvalid.lt_next _ hmem).false, hvalid.nodup⟩
    · rw [hall, Multiset.mem_cons] at hresource
      rcases hresource with rfl | hresource
      · omega
      · have hlt := hvalid.lt_next resource hresource
        omega

theorem Moves.valid (h : Moves before after) (hvalid : before.Valid) : after.Valid := by
  induction h with
  | refl => exact hvalid
  | tail _ hmove ih => exact hmove.valid ih

theorem Moves.all_le (h : Moves before after) : before.all ≤ after.all := by
  induction h with
  | refl => exact le_rfl
  | tail _ hmove ih =>
      rcases hmove.all_eq with hall | hall
      · rwa [hall]
      · rw [hall.2]
        exact ih.trans (Multiset.le_cons_self _ _)

theorem Moves.retired_le (h : Moves before after) : before.retired ≤ after.retired := by
  induction h with
  | refl => exact le_rfl
  | tail _ hmove ih => exact ih.trans hmove.retired_le

theorem Moves.refl {ledger : Ledger} : Moves ledger ledger :=
  Relation.ReflTransGen.refl

theorem Moves.trans {between : Ledger} (hfirst : Moves before between)
    (hsecond : Moves between after) : Moves before after :=
  Relation.ReflTransGen.trans hfirst hsecond

theorem Moves.of_skip (hnext : after.next = before.next + 1) (hidle : after.idle = before.idle)
    (hlent : after.lent = before.lent) (hretired : after.retired = before.retired) :
    Moves before after := by
  obtain ⟨next, idle, lent, retired⟩ := before
  obtain ⟨next', idle', lent', retired'⟩ := after
  dsimp only at hnext hidle hlent hretired
  subst hnext hidle hlent hretired
  exact .single .skip

theorem Moves.of_create (hnext : after.next = before.next + 1)
    (hidle : after.idle = before.next ::ₘ before.idle)
    (hlent : after.lent = before.lent) (hretired : after.retired = before.retired) :
    Moves before after := by
  obtain ⟨next, idle, lent, retired⟩ := before
  obtain ⟨next', idle', lent', retired'⟩ := after
  dsimp only at hnext hidle hlent hretired
  subst hnext hidle hlent hretired
  exact .single .create

theorem Moves.of_lend (resource : Nat) (hnext : after.next = before.next)
    (hidle : before.idle = resource ::ₘ after.idle)
    (hlent : after.lent = resource ::ₘ before.lent) (hretired : after.retired = before.retired) :
    Moves before after := by
  obtain ⟨next, idle, lent, retired⟩ := before
  obtain ⟨next', idle', lent', retired'⟩ := after
  dsimp only at hnext hidle hlent hretired
  subst hnext hidle hlent hretired
  exact .single .lend

theorem Moves.of_giveBack (resource : Nat) (hnext : after.next = before.next)
    (hidle : after.idle = resource ::ₘ before.idle)
    (hlent : before.lent = resource ::ₘ after.lent) (hretired : after.retired = before.retired) :
    Moves before after := by
  obtain ⟨next, idle, lent, retired⟩ := before
  obtain ⟨next', idle', lent', retired'⟩ := after
  dsimp only at hnext hidle hlent hretired
  subst hnext hidle hlent hretired
  exact .single .giveBack

theorem Moves.of_retire (resources : Multiset Nat) (hnext : after.next = before.next)
    (hidle : before.idle = resources + after.idle) (hlent : after.lent = before.lent)
    (hretired : after.retired = resources + before.retired) : Moves before after := by
  obtain ⟨next, idle, lent, retired⟩ := before
  obtain ⟨next', idle', lent', retired'⟩ := after
  dsimp only at hnext hidle hlent hretired
  subst hnext hidle hlent hretired
  induction resources using Multiset.induction generalizing retired with
  | empty => simpa using Relation.ReflTransGen.refl
  | cons resource resources ih =>
      rw [Multiset.cons_add]
      refine .head .retire ?_
      have hrest := ih (resource ::ₘ retired)
      rwa [Multiset.add_cons, ← Multiset.cons_add] at hrest

/-- Of some idle resources that are given up, part is retired and the rest is lent for good. -/
theorem Moves.of_giveUp (resources lost : Multiset Nat) (hnext : after.next = before.next)
    (hidle : before.idle = resources + lost + after.idle) (hlent : after.lent = lost + before.lent)
    (hretired : after.retired = resources + before.retired) : Moves before after := by
  have hlend : Moves before
      ⟨before.next, resources + after.idle, lost + before.lent, before.retired⟩ := by
    obtain ⟨next, idle, lent, retired⟩ := before
    dsimp only at hidle
    subst hidle
    clear hnext hlent hretired
    induction lost using Multiset.induction generalizing lent with
    | empty => simpa using Relation.ReflTransGen.refl
    | cons resource lost ih =>
        rw [Multiset.add_cons, Multiset.cons_add]
        refine .head .lend ?_
        have hrest := ih (resource ::ₘ lent)
        rwa [Multiset.add_cons, ← Multiset.cons_add] at hrest
  exact hlend.trans (Moves.of_retire resources hnext rfl hlent hretired)

theorem Valid.not_idle_of_lent (hvalid : before.Valid) {resource : Nat}
    (h : resource ∈ before.lent) : resource ∉ before.idle ∧ resource ∉ before.retired := by
  have hall := hvalid.nodup
  simp only [all, Multiset.nodup_add] at hall
  obtain ⟨⟨-, -, hidle⟩, -, hretired⟩ := hall
  refine ⟨fun hmem => ?_, fun hmem => ?_⟩
  · exact Multiset.disjoint_left.mp hidle hmem h
  · exact Multiset.disjoint_left.mp hretired (Multiset.mem_add.mpr (.inr h)) hmem

theorem Valid.nodup_lent (hvalid : before.Valid) : before.lent.Nodup :=
  (Multiset.nodup_add.mp (Multiset.nodup_add.mp hvalid.nodup).1).2.1

end Ledger

end LSTAndroid.Library.ResourceLedger
