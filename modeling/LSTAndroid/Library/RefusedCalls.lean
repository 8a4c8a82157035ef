import Mathlib.Data.List.Induction

namespace LSTAndroid.Library.RefusedCalls

variable {C A Call Reply : Type*}

section Runs

variable (step : C → Call → C × Option Reply) (answer : A → Call → A × Reply)

def run (state : C) (calls : List Call) : C :=
  calls.foldl (fun state call => (step state call).1) state

def served : C → List Call → List (Call × Reply)
  | _, [] => []
  | state, call :: calls =>
      match step state call with
      | (next, none) => served next calls
      | (next, some reply) => (call, reply) :: served next calls

def replies : A → List Call → List Reply
  | _, [] => []
  | state, call :: calls => (answer state call).2 :: replies (answer state call).1 calls

/-- Each call of the run suits the state that the second machine has reached with the
calls served so far. -/
def Suits (suits : A → Call → Prop) : C → A → List Call → Prop
  | _, _, [] => True
  | state, model, call :: calls => suits model call ∧
      match step state call with
      | (next, none) => Suits suits next model calls
      | (next, some _) => Suits suits next (answer model call).1 calls

end Runs

variable {step : C → Call → C × Option Reply} {answer : A → Call → A × Reply}
  {suits : A → Call → Prop} {Related : C → A → Prop} {state next : C} {model : A}

theorem suits_of_forall {calls : List Call}
    (h : ∀ call ∈ calls, ∀ model, suits model call) :
    Suits step answer suits state model calls := by
  induction calls generalizing state model with
  | nil => trivial
  | cons call calls ih =>
      have hrest : ∀ other ∈ calls, ∀ model, suits model other :=
        fun other hother => h other (List.mem_cons_of_mem _ hother)
      refine ⟨h call List.mem_cons_self model, ?_⟩
      split
      · exact ih hrest
      · exact ih hrest

/-- A call that is refused leaves the states related, and one that is served does so
together with the same call of the second machine, and is answered alike. -/
structure Refines (step : C → Call → C × Option Reply) (answer : A → Call → A × Reply)
    (suits : A → Call → Prop) (Related : C → A → Prop) : Prop where
  refuse : ∀ {state next model call}, Related state model → suits model call →
    step state call = (next, none) → Related next model
  serve : ∀ {state next model call reply}, Related state model → suits model call →
    step state call = (next, some reply) →
      Related next (answer model call).1 ∧ (answer model call).2 = reply

theorem Refines.replies_served (h : Refines step answer suits Related)
    (hrelated : Related state model) {calls : List Call}
    (hsuits : Suits step answer suits state model calls) :
    (served step state calls).map Prod.snd =
      replies answer model ((served step state calls).map Prod.fst) := by
  induction calls generalizing state model with
  | nil => rfl
  | cons call calls ih =>
      obtain ⟨hcall, hcalls⟩ := hsuits
      unfold served
      rcases hstep : step state call with ⟨next, _ | reply⟩
      · rw [hstep] at hcalls
        exact ih (h.refuse hrelated hcall hstep) hcalls
      · rw [hstep] at hcalls
        obtain ⟨hnext, hreply⟩ := h.serve hrelated hcall hstep
        simp only [List.map_cons, replies, hreply]
        rw [ih hnext hcalls]

/-- No call of a run is refused, and each is answered alike, if a relation makes sure of that
and is kept by the calls. -/
theorem served_all (Ready : C → A → Prop) (hrelated : Ready state model)
    (hserve : ∀ state model call, Ready state model → suits model call →
      ∃ next, step state call = (next, some (answer model call).2) ∧
        Ready next (answer model call).1)
    {calls : List Call} (hsuits : Suits step answer suits state model calls) :
    (served step state calls).map Prod.fst = calls ∧
      (served step state calls).map Prod.snd = replies answer model calls := by
  induction calls generalizing state model with
  | nil => exact ⟨rfl, rfl⟩
  | cons call calls ih =>
      obtain ⟨hcall, hcalls⟩ := hsuits
      obtain ⟨next, hstep, hnext⟩ := hserve state model call hrelated hcall
      rw [hstep] at hcalls
      obtain ⟨hfirst, hsecond⟩ := ih hnext hcalls
      unfold served replies
      rw [hstep]
      exact ⟨congrArg _ hfirst, congrArg _ hsecond⟩

theorem run_history {R : List Call → C → Prop} (hstart : R [] state)
    (hstep : ∀ before call, R before (run step state before) →
      R (before ++ [call]) (step (run step state before) call).1)
    (calls : List Call) : R calls (run step state calls) := by
  induction calls using List.reverseRecOn with
  | nil => exact hstart
  | append_singleton before call ih =>
      have hlast := hstep before call ih
      unfold run at hlast ⊢
      rwa [List.foldl_append]

end LSTAndroid.Library.RefusedCalls
