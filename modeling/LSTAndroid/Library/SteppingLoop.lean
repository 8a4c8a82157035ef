import Mathlib.Order.Lattice
import Mathlib.Data.Nat.Notation

namespace LSTAndroid.Library.SteppingLoop

universe u v

variable {K : Type u} {S : Type v} [LinearOrder K]

/-- A way to advance a loop variable that ends every loop: `rounds hi x` falls in each
round of a loop that is at `x` and runs up to `hi`. -/
structure Stepping (K : Type u) [LT K] where
  next : K → K
  rounds : K → K → ℕ
  rounds_lt : ∀ {hi x : K}, x < hi → rounds hi (next x) < rounds hi x

def stepLoop (stepping : Stepping K) (hi : K) (body : K → S → ForInStep S) (x : K) (s : S) :
    ForInStep S :=
  if x < hi then
    match body x s with
    | .done ended => .done ended
    | .yield next => stepLoop stepping hi body (stepping.next x) next
  else .yield s
termination_by stepping.rounds hi x
decreasing_by exact stepping.rounds_lt ‹x < hi›

/-- A loop that starts at `x` has a round at `v`. -/
inductive HasRound (stepping : Stepping K) (hi : K) : K → K → Prop where
  | here {x : K} (h : x < hi) : HasRound stepping hi x x
  | later {x v : K} (h : x < hi) (hrest : HasRound stepping hi (stepping.next x) v) :
      HasRound stepping hi x v

/-- The closed intervals from each round to the next cover everything up to the bound. -/
theorem exists_hasRound (stepping : Stepping K) {hi x c : K} (hx : x < hi) (hlow : x ≤ c)
    (hhigh : c ≤ hi) : ∃ v, HasRound stepping hi x v ∧ v ≤ c ∧ c ≤ stepping.next v := by
  induction hrounds : stepping.rounds hi x using Nat.strongRecOn generalizing x with
  | ind rounds ih =>
      rcases le_or_gt c (stepping.next x) with hnext | hnext
      · exact ⟨x, .here hx, hlow, hnext⟩
      · obtain ⟨v, hround, hv⟩ := ih _ (hrounds ▸ stepping.rounds_lt hx)
          (hnext.trans_le hhigh) hnext.le rfl
        exact ⟨v, .later hx hround, hv⟩

variable {stepping : Stepping K} {hi : K} {body : K → S → ForInStep S}

theorem stepLoop_stop {x : K} (h : ¬ x < hi) (s : S) :
    stepLoop stepping hi body x s = .yield s := by
  rw [stepLoop, if_neg h]

theorem stepLoop_eq_yield {x : K} {s last : S} (h : x < hi)
    (hloop : stepLoop stepping hi body x s = .yield last) :
    ∃ next, body x s = .yield next ∧
      stepLoop stepping hi body (stepping.next x) next = .yield last := by
  rw [stepLoop, if_pos h] at hloop
  rcases hnext : body x s with ended | next
  · rw [hnext] at hloop
    cases hloop
  · rw [hnext] at hloop
    exact ⟨next, rfl, hloop⟩

theorem stepLoop_keeps {P : S → Prop}
    (hbody : ∀ v s after, body v s = .yield after → P s → P after) {x : K} {s last : S}
    (hloop : stepLoop stepping hi body x s = .yield last) (hs : P s) : P last := by
  fun_induction stepLoop stepping hi body x s with
  | case1 x s h ended hended => cases hloop
  | case2 x s h next hnext ih => exact ih hloop (hbody x s next hnext hs)
  | case3 x s h =>
      obtain rfl := ForInStep.yield.inj hloop
      exact hs

/-- What holds whenever a round breaks off holds when the loop has been broken off. -/
theorem stepLoop_done {Q : S → Prop} (hbody : ∀ v s ended, body v s = .done ended → Q ended)
    {x : K} {s last : S} (hloop : stepLoop stepping hi body x s = .done last) : Q last := by
  fun_induction stepLoop stepping hi body x s with
  | case1 x s h ended hended =>
      obtain rfl := ForInStep.done.inj hloop
      exact hbody x s ended hended
  | case2 x s h next hnext ih => exact ih hloop
  | case3 x s h => cases hloop

/-- What each round establishes about its own value, and the later ones preserve, holds of
all rounds in the end. -/
theorem stepLoop_covers (Seen : K → S → Prop)
    (hbody : ∀ v s after, body v s = .yield after → Seen v after)
    (hkeep : ∀ v w s after, body w s = .yield after → Seen v s → Seen v after) {x : K}
    {s last : S} (hloop : stepLoop stepping hi body x s = .yield last) {v : K}
    (hround : HasRound stepping hi x v) : Seen v last := by
  induction hround generalizing s with
  | @here x h =>
      obtain ⟨next, hnext, hrest⟩ := stepLoop_eq_yield h hloop
      exact stepLoop_keeps (hkeep x) hrest (hbody x s next hnext)
  | @later x v h _ ih =>
      obtain ⟨next, -, hrest⟩ := stepLoop_eq_yield h hloop
      exact ih hrest

end LSTAndroid.Library.SteppingLoop
