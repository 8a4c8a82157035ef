import Mathlib.Logic.Function.Iterate
import Mathlib.Order.Monotone.Basic
import Mathlib.Data.Int.Order.Basic
import Mathlib.Order.Lattice

namespace LSTAndroid.Library.OpenLoop

universe u v

variable {K : Type u} {S : Type v} [LinearOrder K]

/-- A body without a result is one that does not end itself. -/
def openLoop (next : K → K) (hi : K) (body : K → S → Option (ForInStep S)) :
    ℕ → K → S → Option (ForInStep S)
  | 0, _, _ => none
  | rounds + 1, x, s =>
      if x < hi then
        match body x s with
        | none => none
        | some (.done ended) => some (.done ended)
        | some (.yield after) => openLoop next hi body rounds (next x) after
      else some (.yield s)

def Ends (next : K → K) (hi x : K) : Prop :=
  ∃ k, ¬ next^[k] x < hi

omit [LinearOrder K] in
theorem iterate_keeps {P : K → Prop} {next : K → K} (hnext : ∀ x, P x → P (next x)) {x : K}
    (hx : P x) (k : ℕ) : P (next^[k] x) :=
  Function.Iterate.rec P hx hnext k

variable {next : K → K} {hi : K} {body : K → S → Option (ForInStep S)}

theorem openLoop_isSome {x : K} {k rounds : ℕ} (hend : ¬ next^[k] x < hi) (hrounds : k < rounds)
    (hbody : ∀ v s, (body v s).isSome) (s : S) :
    (openLoop next hi body rounds x s).isSome := by
  induction rounds generalizing x k s with
  | zero => cases hrounds
  | succ rounds ih =>
      rw [openLoop]
      split
      · rename_i hlt
        cases k with
        | zero => exact absurd hlt hend
        | succ k =>
            obtain ⟨step, hstep⟩ := Option.isSome_iff_exists.mp (hbody x s)
            rw [hstep]
            cases step with
            | done ended => rfl
            | yield after => exact ih (k := k) hend (Nat.lt_of_succ_lt_succ hrounds) after
      · rfl

theorem openLoop_stop {x : K} (h : ¬ x < hi) (rounds : ℕ) (s : S) :
    openLoop next hi body (rounds + 1) x s = some (.yield s) := by
  rw [openLoop, if_neg h]

theorem openLoop_done {x : K} {s ended : S} (hx : x < hi) (hbody : body x s = some (.done ended))
    (rounds : ℕ) : openLoop next hi body (rounds + 1) x s = some (.done ended) := by
  rw [openLoop, if_pos hx, hbody]

theorem openLoop_none_of_body {x : K} {s : S} (hx : x < hi) (hbody : body x s = none)
    (rounds : ℕ) : openLoop next hi body rounds x s = none := by
  cases rounds with
  | zero => rfl
  | succ rounds => rw [openLoop, if_pos hx, hbody]

theorem openLoop_none {P : S → Prop} {x : K} (hnever : ¬ Ends next hi x)
    (hbody : ∀ v s, P s → ∃ after, body v s = some (.yield after) ∧ P after) {s : S} (hs : P s)
    (rounds : ℕ) : openLoop next hi body rounds x s = none := by
  induction rounds generalizing x s with
  | zero => rfl
  | succ rounds ih =>
      have hx : x < hi := not_not.mp (not_exists.mp hnever 0)
      obtain ⟨after, hafter, hP⟩ := hbody x s hs
      rw [openLoop, if_pos hx, hafter]
      refine ih ?_ hP
      rintro ⟨k, hk⟩
      exact hnever ⟨k + 1, hk⟩

section Nested

universe w

variable {I : Type w} {bodies : ℕ → I → K → S → Option (ForInStep S)}

def Total (runs : ℕ → I → S → Option (ForInStep S)) : Prop :=
  ∃ enough, ∀ rounds, enough ≤ rounds → ∀ i s, (runs rounds i s).isSome

theorem total_openLoop {x : K} (hends : Ends next hi x)
    (hbodies : Total fun rounds (iv : I × K) => bodies rounds iv.1 iv.2) :
    Total fun rounds i => openLoop next hi (bodies rounds i) rounds x := by
  obtain ⟨k, hk⟩ := hends
  obtain ⟨enough, hbody⟩ := hbodies
  refine ⟨enough + k + 1, fun rounds hrounds i s => ?_⟩
  exact openLoop_isSome hk (by omega) (fun v s => hbody rounds (by omega) (i, v) s) s

theorem total_openLoop_stop {x : K} (hstop : ¬ x < hi) :
    Total fun rounds i => openLoop next hi (bodies rounds i) rounds x := by
  refine ⟨1, fun rounds hrounds i s => ?_⟩
  obtain ⟨rounds, rfl⟩ := Nat.exists_eq_add_of_le' hrounds
  exact Option.isSome_iff_exists.mpr ⟨_, openLoop_stop hstop rounds s⟩

end Nested

section Progress

variable {next : ℤ → ℤ} {P : ℤ → Prop}

/-- A loop over the integers that never steps back ends exactly when each of its rounds
makes progress: a round without progress repeats for ever. -/
theorem ends_iff_progress (hnext : ∀ x, P x → P (next x)) (hle : ∀ x, P x → x ≤ next x)
    {hi x : ℤ} (hx : P x) :
    Ends next hi x ↔ ∀ k, next^[k] x < hi → next^[k] x < next (next^[k] x) := by
  have hP : ∀ k, P (next^[k] x) := iterate_keeps hnext hx
  constructor
  · rintro ⟨last, hlast⟩ k hk
    by_contra hstuck
    have hfixed : next (next^[k] x) = next^[k] x :=
      le_antisymm (not_lt.mp hstuck) (hle _ (hP k))
    rcases le_total last k with hearlier | hlater
    · have hmono : Monotone fun j => next^[j] x := by
        refine monotone_nat_of_le_succ fun j => ?_
        rw [Function.iterate_succ_apply']
        exact hle _ (hP j)
      exact hlast ((hmono hearlier).trans_lt hk)
    · obtain ⟨j, rfl⟩ := Nat.exists_eq_add_of_le' hlater
      rw [Function.iterate_add_apply, Function.iterate_fixed hfixed] at hlast
      exact hlast hk
  · intro hprogress
    by_contra hnever
    have hlt : ∀ k, next^[k] x < hi := fun k => not_not.mp (not_exists.mp hnever k)
    have hgrows : ∀ k : ℕ, x + k ≤ next^[k] x := by
      intro k
      induction k with
      | zero => simp
      | succ k ih =>
          have hstep := hprogress k (hlt k)
          rw [Function.iterate_succ_apply']
          omega
    have hreached := hgrows (hi - x).toNat
    have hbelow := hlt (hi - x).toNat
    omega

end Progress

end LSTAndroid.Library.OpenLoop
