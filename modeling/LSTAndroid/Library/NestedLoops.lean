import Mathlib.Data.List.Infix
import Mathlib.Logic.Function.Iterate
import Mathlib.Tactic.Ring

namespace LSTAndroid.Library.NestedLoops

universe u v w

variable {K : Type u} {W : Type v} {S : Type w}

def andThen (result : Option (ForInStep S)) (rest : S → Option (ForInStep S)) :
    Option (ForInStep S) :=
  match result with
  | none => none
  | some (.done final) => some (.done final)
  | some (.yield after) => rest after

theorem andThen_assoc (result : Option (ForInStep S)) (f g : S → Option (ForInStep S)) :
    andThen (andThen result f) g = andThen result fun s => andThen (f s) g := by
  rcases result with - | final | after <;> rfl

/-- A body without a result is one that does not end itself; `done` breaks off this loop
and those around it. -/
def forLoop (test : K → Bool) (next : K → K) (body : K → S → Option (ForInStep S)) :
    ℕ → K → S → Option (ForInStep S)
  | 0, _, _ => none
  | rounds + 1, x, s =>
      if test x then andThen (body x s) (forLoop test next body rounds (next x))
      else some (.yield s)

/-- What some rounds go through, and whether nothing is left after them. -/
structure Rounds (W : Type v) where
  values : List W
  ended : Bool

namespace Rounds

def visitAll (body : W → S → ForInStep S) (ended : Bool) :
    List W → S → Option (ForInStep S)
  | [], s => if ended then some (.yield s) else none
  | value :: rest, s => andThen (some (body value s)) (visitAll body ended rest)

def visit (rounds : Rounds W) (body : W → S → ForInStep S) : S → Option (ForInStep S) :=
  visitAll body rounds.ended rounds.values

def single (value : W) : Rounds W :=
  ⟨[value], true⟩

def append (first second : Rounds W) : Rounds W :=
  if first.ended then ⟨first.values ++ second.values, second.ended⟩ else first

/-- A loop around others: `inner x` is what its body goes through at `x`. -/
def ofLoop (test : K → Bool) (next : K → K) (inner : K → Rounds W) : ℕ → K → Rounds W
  | 0, _ => ⟨[], false⟩
  | rounds + 1, x =>
      if test x then (inner x).append (ofLoop test next inner rounds (next x)) else ⟨[], true⟩

variable (body : W → S → ForInStep S)

theorem visit_single (value : W) (s : S) :
    (single value).visit body s = some (body value s) := by
  rcases h : body value s with final | after <;> simp [visit, visitAll, single, andThen, h]

theorem visitAll_append (ended : Bool) (first second : List W) (s : S) :
    visitAll body ended (first ++ second) s =
      andThen (visitAll body true first s) (visitAll body ended second) := by
  induction first generalizing s with
  | nil => rfl
  | cons value rest ih =>
      rw [List.cons_append, visitAll, visitAll, andThen_assoc]
      congr 1
      funext after
      exact ih after

theorem visitAll_false_andThen (values : List W) (rest : S → Option (ForInStep S)) (s : S) :
    andThen (visitAll body false values s) rest = visitAll body false values s := by
  induction values generalizing s with
  | nil => rfl
  | cons value values ih =>
      rw [visitAll, andThen_assoc]
      congr 1
      funext after
      exact ih after

theorem visit_append (first second : Rounds W) (s : S) :
    (first.append second).visit body s =
      andThen (first.visit body s) (second.visit body) := by
  obtain ⟨values, ended⟩ := first
  cases ended with
  | false => exact (visitAll_false_andThen body values _ s).symm
  | true => exact visitAll_append body second.ended values second.values s

theorem forLoop_eq_visit {test : K → Bool} {next : K → K} {inner : K → Rounds W}
    {loopBody : K → S → Option (ForInStep S)}
    (hbody : ∀ x s, loopBody x s = (inner x).visit body s) (rounds : ℕ) (x : K) (s : S) :
    forLoop test next loopBody rounds x s = (ofLoop test next inner rounds x).visit body s := by
  induction rounds generalizing x s with
  | zero => rfl
  | succ rounds ih =>
      rw [forLoop, ofLoop]
      split
      · rw [visit_append, hbody]
        congr 1
        funext after
        exact ih (next x) after
      · rfl

/-- These are all values, and there are `n` of them. -/
structure Complete (rounds : Rounds W) (n : ℕ) : Prop where
  ended : rounds.ended = true
  length : rounds.values.length = n

theorem complete_single (value : W) : (single value).Complete 1 :=
  ⟨rfl, rfl⟩

theorem complete_ofLoop {test : K → Bool} {next : K → K} {inner : K → Rounds W} {n k : ℕ}
    (hinner : ∀ x, (inner x).Complete n) {x : K} (htest : ∀ j < k, test (next^[j] x) = true)
    (hstop : test (next^[k] x) = false) {rounds : ℕ} (hrounds : k < rounds) :
    (ofLoop test next inner rounds x).Complete (k * n) := by
  induction k generalizing x rounds with
  | zero =>
      obtain ⟨rounds, rfl⟩ := Nat.exists_eq_add_of_le' hrounds
      have hx : test x = false := hstop
      rw [ofLoop, if_neg (by simp [hx]), Nat.zero_mul]
      exact ⟨rfl, rfl⟩
  | succ k ih =>
      obtain ⟨rounds, rfl⟩ := Nat.exists_eq_add_of_le' (Nat.zero_lt_of_lt hrounds)
      have hrest := ih (x := next x) (fun j hj => htest (j + 1) (Nat.succ_lt_succ hj)) hstop
        (Nat.lt_of_succ_lt_succ hrounds)
      have hx : test x = true := htest 0 k.succ_pos
      rw [ofLoop, if_pos hx, append, if_pos (hinner x).ended]
      refine ⟨hrest.ended, ?_⟩
      rw [List.length_append, (hinner x).length, hrest.length, Nat.succ_mul, Nat.add_comm]

end Rounds

section Breaks

variable {stop : S → Bool} {f : W → S → S}

def breakWhen (stop : S → Bool) (f : W → S → S) (value : W) (s : S) : ForInStep S :=
  if stop (f value s) then .done (f value s) else .yield (f value s)

def visited (stop : S → Bool) (f : W → S → S) : List W → S → List W
  | [], _ => []
  | value :: rest, s =>
      if stop (f value s) then [value] else value :: visited stop f rest (f value s)

def stateAfter (f : W → S → S) (values : List W) (s : S) : S :=
  values.foldl (fun s value => f value s) s

@[simp] theorem stateAfter_nil (s : S) : stateAfter f [] s = s := rfl

@[simp] theorem stateAfter_cons (value : W) (rest : List W) (s : S) :
    stateAfter f (value :: rest) s = stateAfter f rest (f value s) := rfl

@[simp] theorem stateAfter_concat (values : List W) (last : W) (s : S) :
    stateAfter f (values ++ [last]) s = f last (stateAfter f values s) := by
  simp [stateAfter]

theorem visited_initial (values : List W) (s : S) : visited stop f values s <+: values := by
  induction values generalizing s with
  | nil => exact List.prefix_rfl
  | cons value rest ih =>
      rw [visited]
      split
      · exact ⟨rest, rfl⟩
      · exact List.cons_prefix_cons.mpr ⟨rfl, ih _⟩

theorem visited_eq_nil_iff (values : List W) (s : S) :
    visited stop f values s = [] ↔ values = [] := by
  cases values with
  | nil => simp [visited]
  | cons value rest =>
      rw [visited]
      split <;> simp

theorem visit_breakWhen (stop : S → Bool) (f : W → S → S) (rounds : Rounds W) (s : S) :
    (rounds.visit (breakWhen stop f) s).map ForInStep.value =
      if rounds.ended ∨ rounds.values ≠ [] ∧
          stop (stateAfter f (visited stop f rounds.values s) s) then
        some (stateAfter f (visited stop f rounds.values s) s)
      else none := by
  obtain ⟨values, ended⟩ := rounds
  change (Rounds.visitAll (breakWhen stop f) ended values s).map _ = _
  induction values generalizing s with
  | nil => cases ended <;> simp [Rounds.visitAll, visited]
  | cons value rest ih =>
      rw [Rounds.visitAll, breakWhen, visited]
      by_cases hstop : stop (f value s)
      · simp [andThen, hstop]
      · simp only [andThen, hstop, Bool.false_eq_true, if_false, ih (f value s),
          stateAfter_cons]
        cases rest with
        | nil => simp [visited, hstop]
        | cons second rest => simp

theorem visit_eq_some {rounds : Rounds W} {s : S} {result : ForInStep S}
    (h : rounds.visit (breakWhen stop f) s = some result) :
    result.value = stateAfter f (visited stop f rounds.values s) s ∧
      (rounds.ended ∨ rounds.values ≠ [] ∧ stop result.value) := by
  have hvalue := visit_breakWhen stop f rounds s
  rw [h, Option.map_some] at hvalue
  split at hvalue
  · rename_i hends
    obtain hvalue := Option.some.inj hvalue
    exact ⟨hvalue, hvalue ▸ hends⟩
  · cases hvalue

theorem visit_isSome {rounds : Rounds W} {s : S}
    (h : rounds.ended ∨ rounds.values ≠ [] ∧
      stop (stateAfter f (visited stop f rounds.values s) s)) :
    ∃ result, rounds.visit (breakWhen stop f) s = some result ∧
      result.value = stateAfter f (visited stop f rounds.values s) s := by
  have hvalue := visit_breakWhen stop f rounds s
  rw [if_pos h] at hvalue
  exact Option.map_eq_some_iff.mp hvalue

/-- A body that breaks off with the last of the first values, and not before, visits these. -/
theorem visited_eq_of_initial {first values : List W} {s : S} (hinitial : first <+: values)
    (hne : first ≠ [])
    (hmore : ∀ j, 0 < j → j < first.length → stop (stateAfter f (first.take j) s) = false)
    (hstop : stop (stateAfter f first s) = true) : visited stop f values s = first := by
  obtain ⟨rest, rfl⟩ := hinitial
  induction first generalizing s with
  | nil => exact absurd rfl hne
  | cons value later ih =>
      rw [List.cons_append, visited]
      cases later with
      | nil => exact if_pos hstop
      | cons second later =>
          have hfirst : stop (f value s) = false := hmore 1 one_pos (by simp)
          rw [if_neg (by simp [hfirst])]
          congr 1
          refine ih (List.cons_ne_nil _ _) (fun j hj hlt => ?_) hstop
          exact hmore (j + 1) j.succ_pos (Nat.succ_lt_succ hlt)

theorem length_visited_le_iff (hmono : ∀ value s, stop s = true → stop (f value s) = true)
    {values : List W} {s : S} (hs : stop s = false) (n : ℕ) :
    (visited stop f values s).length ≤ n ↔
      values.length ≤ n ∨ stop (stateAfter f (values.take n) s) = true := by
  induction values generalizing n s with
  | nil => simp [visited]
  | cons value rest ih =>
      rw [visited]
      cases n with
      | zero => split <;> simp [hs]
      | succ n =>
          rw [List.take_succ_cons, stateAfter_cons]
          split
          · rename_i hstop
            have hkeeps : ∀ (later : List W) (s : S), stop s = true →
                stop (stateAfter f later s) = true := by
              intro later
              induction later with
              | nil => exact fun s hs => hs
              | cons first later ihl => exact fun s hs => ihl _ (hmono first s hs)
            exact iff_of_true (by simp) (.inr (hkeeps _ _ hstop))
          · rename_i hstop
            rw [List.length_cons, List.length_cons, Nat.succ_le_succ_iff, Nat.succ_le_succ_iff,
              ih (by simpa using hstop)]

theorem stateAfter_counter {count : S → ℤ} {step : ℤ} {m : ℕ}
    (hcount : ∀ value s, count (f value s) = (count s + step).bmod m)
    (values : List W) {s : S} (hs : (count s).bmod m = count s) :
    count (stateAfter f values s) = (count s + values.length * step).bmod m := by
  induction values using List.reverseRecOn with
  | nil => simpa using hs.symm
  | append_singleton before last ih =>
      rw [stateAfter_concat, hcount, ih, Int.bmod_add_bmod]
      congr 1
      push_cast [List.length_append, List.length_singleton]
      ring

end Breaks

end LSTAndroid.Library.NestedLoops
