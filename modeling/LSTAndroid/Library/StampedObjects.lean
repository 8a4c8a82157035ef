import Mathlib.Algebra.Group.Nat.Defs
import Mathlib.Data.Multiset.MapFold
import Mathlib.Logic.Relation

namespace LSTAndroid.Library.StampedObjects

/-- Objects that are used over and over: the next new one, how many stamps have been given,
and the stamp that each object has now.  A stamp of `w` bits tells one use of an object from
the next ones until it comes round. -/
structure Stamps (w : Nat) where
  objects : Nat
  given : Nat
  current : Multiset (Nat × BitVec w)

namespace Stamps

variable {w : Nat}

structure Valid (stamps : Stamps w) : Prop where
  nodup : (stamps.current.map Prod.fst).Nodup
  lt_objects : ∀ use ∈ stamps.current, use.1 < stamps.objects

inductive Change : Stamps w → Stamps w → Prop
  | create {objects given current} :
      Change ⟨objects, given, current⟩ ⟨objects + 1, given, (objects, 0) ::ₘ current⟩
  | restamp {objects given current object stamp} :
      Change ⟨objects, given, (object, stamp) ::ₘ current⟩
        ⟨objects, given + 1, (object, stamp + 1) ::ₘ current⟩

abbrev Changes : Stamps w → Stamps w → Prop :=
  Relation.ReflTransGen Change

/-- A use that was over when `since` stamps had been given: its object has got at least one
stamp after it, and no more than have been given. -/
def Spent (stamps : Stamps w) (use : Nat × BitVec w) (since : Nat) : Prop :=
  use.1 < stamps.objects ∧ ∀ other ∈ stamps.current, other.1 = use.1 →
    ∃ later, 0 < later ∧ since + later ≤ stamps.given ∧ other.2 = use.2 + BitVec.ofNat w later

variable {before after : Stamps w} {use : Nat × BitVec w} {since : Nat}

theorem Change.valid (h : Change before after) (hvalid : before.Valid) : after.Valid := by
  obtain ⟨hnodup, hlt⟩ := hvalid
  cases h with
  | create =>
      refine ⟨?_, fun other hother => ?_⟩
      · rw [Multiset.map_cons, Multiset.nodup_cons]
        refine ⟨fun hmem => ?_, hnodup⟩
        obtain ⟨other, hother, hsame⟩ := Multiset.mem_map.mp hmem
        have hless := hlt other hother
        dsimp only at hsame hless
        omega
      · rcases Multiset.mem_cons.mp hother with rfl | hother
        · exact Nat.lt_succ_self _
        · exact Nat.lt_succ_of_lt (hlt other hother)
  | @restamp objects given current object stamp =>
      refine ⟨by simpa using hnodup, fun other hother => ?_⟩
      rcases Multiset.mem_cons.mp hother with rfl | hother
      · exact hlt (object, stamp) (Multiset.mem_cons_self _ _)
      · exact hlt other (Multiset.mem_cons_of_mem hother)

theorem Changes.valid (h : Changes before after) (hvalid : before.Valid) : after.Valid := by
  induction h with
  | refl => exact hvalid
  | tail _ hchange ih => exact hchange.valid ih

theorem Changes.given_le (h : Changes before after) : before.given ≤ after.given := by
  induction h with
  | refl => exact Nat.le_refl _
  | tail _ hchange ih =>
      cases hchange with
      | create => exact ih
      | restamp => exact Nat.le_succ_of_le ih

theorem Change.spent (h : Change before after) (hspent : before.Spent use since) :
    after.Spent use since := by
  obtain ⟨hlt, hlater⟩ := hspent
  cases h with
  | create =>
      refine ⟨Nat.lt_succ_of_lt hlt, fun other hother hsame => ?_⟩
      rcases Multiset.mem_cons.mp hother with rfl | hother
      · dsimp only at hlt hsame
        omega
      · exact hlater other hother hsame
  | @restamp objects given current object stamp =>
      refine ⟨hlt, fun other hother hsame => ?_⟩
      rcases Multiset.mem_cons.mp hother with rfl | hother
      · obtain ⟨later, hpos, hle, hstamp⟩ :=
          hlater (object, stamp) (Multiset.mem_cons_self _ _) hsame
        dsimp only at hle hstamp
        refine ⟨later + 1, Nat.succ_pos _, by dsimp only; omega, ?_⟩
        rw [hstamp, BitVec.ofNat_add, BitVec.add_assoc]
        rfl
      · obtain ⟨later, hpos, hle, hstamp⟩ := hlater other (Multiset.mem_cons_of_mem hother) hsame
        exact ⟨later, hpos, Nat.le_succ_of_le hle, hstamp⟩

theorem Changes.spent (h : Changes before after) (hspent : before.Spent use since) :
    after.Spent use since := by
  induction h with
  | refl => exact hspent
  | tail _ hchange ih => exact hchange.spent ih

theorem Spent.notMem {stamps : Stamps w} (hspent : stamps.Spent use since)
    (hfew : stamps.given < since + 2 ^ w) : use ∉ stamps.current := by
  intro hmem
  obtain ⟨later, hpos, hle, hstamp⟩ := hspent.2 use hmem rfl
  have hzero : BitVec.ofNat w later = 0#w := BitVec.self_eq_add_right.mp hstamp
  have hmod : later % 2 ^ w = 0 := by
    simpa using congrArg BitVec.toNat hzero
  rw [Nat.mod_eq_of_lt (by omega)] at hmod
  omega

theorem Valid.ne_of_cons {objects given : Nat} {current : Multiset (Nat × BitVec w)}
    (hvalid : Valid ⟨objects, given, use ::ₘ current⟩) : ∀ other ∈ current, other.1 ≠ use.1 := by
  intro other hother hsame
  have hnodup := hvalid.nodup
  rw [Multiset.map_cons, Multiset.nodup_cons] at hnodup
  exact hnodup.1 (hsame ▸ Multiset.mem_map_of_mem _ hother)

theorem Valid.spent {objects given : Nat} {current : Multiset (Nat × BitVec w)}
    (hvalid : Valid ⟨objects, given, use ::ₘ current⟩) :
    Spent ⟨objects, given + 1, (use.1, use.2 + 1) ::ₘ current⟩ use given := by
  refine ⟨hvalid.lt_objects use (Multiset.mem_cons_self _ _), fun other hmem hsame => ?_⟩
  rcases Multiset.mem_cons.mp hmem with rfl | hmem
  · exact ⟨1, Nat.one_pos, Nat.le_refl _, rfl⟩
  · exact absurd hsame (hvalid.ne_of_cons other hmem)

end Stamps

end LSTAndroid.Library.StampedObjects
