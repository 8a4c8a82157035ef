import Mathlib.Data.List.Basic
import Mathlib.Tactic.Cases

namespace LSTAndroid.Library.RetryLoop

universe u v w

variable {Failure : Type u} {S : Type v} {T : Type w}

/-- Started in round `i` with the first state, the loop comes to round `j` with the
second one. -/
inductive Reaches (body : ℕ → S → Except Failure (ForInStep S)) : ℕ → S → ℕ → S → Prop where
  | here (i : ℕ) (state : S) : Reaches body i state i state
  | round {i j : ℕ} {state next last : S} (hyield : body i state = .ok (.yield next))
      (hrest : Reaches body (i + 1) next j last) : Reaches body i state j last

variable {body : ℕ → S → Except Failure (ForInStep S)}

theorem Reaches.eq_start {i j : ℕ} {state last : S} (h : Reaches body i state j last)
    (hends : ∀ next, body i state ≠ .ok (.yield next)) : j = i ∧ last = state := by
  cases h with
  | here => exact ⟨rfl, rfl⟩
  | round hyield _ => exact absurd hyield (hends _)

theorem forIn_range'_succ (body : ℕ → S → Except Failure (ForInStep S)) (start count : ℕ)
    (init : S) :
    forIn (List.range' start (count + 1)) init body =
      (body start init).bind fun step =>
        match step with
        | .done final => .ok final
        | .yield next => forIn (List.range' (start + 1) count) next body := by
  rw [List.range'_succ, List.forIn_cons]
  rfl

/-- The state a loop returns: that of its last round, or the one with which a round
has ended it. -/
theorem reaches_of_forIn {start count : ℕ} {init final : S}
    (h : forIn (List.range' start count) init body = .ok final) :
    Reaches body start init (start + count) final ∨
      ∃ i < start + count, ∃ state,
        Reaches body start init i state ∧ body i state = .ok (.done final) := by
  induction count generalizing start init with
  | zero =>
      obtain rfl : init = final := Except.ok.inj h
      exact .inl (.here start init)
  | succ count ih =>
      rw [forIn_range'_succ] at h
      rcases hbody : body start init with failure | step
      · rw [hbody] at h
        cases h
      rw [hbody] at h
      rcases step with ended | next
      · obtain rfl : ended = final := Except.ok.inj h
        exact .inr ⟨start, by omega, init, .here start init, hbody⟩
      · have hcount : start + 1 + count = start + (count + 1) := by omega
        rcases ih h with hlast | ⟨i, hi, state, hreached, hdone⟩
        · rw [hcount] at hlast
          exact .inl (.round hbody hlast)
        · rw [hcount] at hi
          exact .inr ⟨i, hi, state, .round hbody hreached, hdone⟩

/-- The loop rule: `P` carries over to the next round, and a round that ends the loop
establishes `Q`. -/
theorem forIn_rounds {P : ℕ → S → Prop} {Q : S → Prop}
    (hround : ∀ i state, P i state → (∃ next, body i state = .ok (.yield next) ∧ P (i + 1) next) ∨
      ∃ final, body i state = .ok (.done final) ∧ Q final)
    (start count : ℕ) (init : S) (hstart : P start init) :
    ∃ final, forIn (List.range' start count) init body = .ok final ∧
      (P (start + count) final ∨ Q final) := by
  induction count generalizing start init with
  | zero => exact ⟨init, rfl, .inl hstart⟩
  | succ count ih =>
      simp only [forIn_range'_succ]
      rcases hround start init hstart with ⟨next, hbody, hnext⟩ | ⟨final, hbody, hfinal⟩
      · obtain ⟨final, hrest, hpost⟩ := ih (start + 1) next hnext
        rw [show start + 1 + count = start + (count + 1) by omega] at hpost
        exact ⟨final, by rw [hbody]; exact hrest, hpost⟩
      · exact ⟨final, by rw [hbody]; rfl, .inr hfinal⟩

/-- Two loops in step: related states make both bodies go on, or both end, with
related states. -/
theorem forIn_related {other : ℕ → T → Except Failure (ForInStep T)} {R : S → T → Prop}
    (hround : ∀ i state paired, R state paired →
      ∃ next nextPaired, R next nextPaired ∧
        (body i state = .ok (.yield next) ∧ other i paired = .ok (.yield nextPaired) ∨
          body i state = .ok (.done next) ∧ other i paired = .ok (.done nextPaired)))
    (start count : ℕ) (init : S) (initPaired : T) (hinit : R init initPaired) :
    ∃ final finalPaired, R final finalPaired ∧
      forIn (List.range' start count) init body = .ok final ∧
      forIn (List.range' start count) initPaired other = .ok finalPaired := by
  induction count generalizing start init initPaired with
  | zero => exact ⟨init, initPaired, hinit, rfl, rfl⟩
  | succ count ih =>
      simp only [forIn_range'_succ]
      obtain ⟨next, nextPaired, hnext, ⟨hbody, hother⟩ | ⟨hbody, hother⟩⟩ :=
        hround start init initPaired hinit
      · obtain ⟨final, finalPaired, hfinal, hrest, hrestPaired⟩ :=
          ih (start + 1) next nextPaired hnext
        exact ⟨final, finalPaired, hfinal, by rw [hbody]; exact hrest,
          by rw [hother]; exact hrestPaired⟩
      · exact ⟨next, nextPaired, hnext, by rw [hbody]; rfl, by rw [hother]; rfl⟩

end LSTAndroid.Library.RetryLoop
