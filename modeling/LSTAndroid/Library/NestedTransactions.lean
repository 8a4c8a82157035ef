import Mathlib.Data.List.Basic

/-!
Transactions that contain transactions, and what all of them together mean for the data.
-/

namespace LSTAndroid.Library.NestedTransactions

/-- Updates and transactions one after another, each with what is known of it. -/
inductive Work (D α β : Type) where
  | done
  | update (label : β) (effect : D → D) (next : Work D α β)
  | transaction (label : α) (body next : Work D α β)

namespace Work

variable {D α β : Type} (succeeds : α → Bool)

def allSucceed : Work D α β → Bool
  | .done => true
  | .update _ _ next => next.allSucceed
  | .transaction label body next =>
      succeeds label && body.allSucceed && next.allSucceed

def apply : Work D α β → D → D
  | .done, data => data
  | .update _ effect next, data => next.apply (effect data)
  | .transaction _ body next, data => next.apply (body.apply data)

/-- What is left of the work: an outermost transaction counts as a whole or not at all. -/
def commit : Work D α β → D → D
  | .done, data => data
  | .update _ effect next, data => next.commit (effect data)
  | .transaction label body next, data =>
      next.commit (if succeeds label && body.allSucceed succeeds then body.apply data else data)

end Work

/-- The data of a database: what is durable, and the copies in the open transactions. -/
structure Store (D : Type) where
  durable : D
  working : List (Nat × D)

/-- How a statement that ends a transaction goes; a refused one leaves it open. -/
inductive Ending where
  | done
  | refused
  | abandoned
  deriving DecidableEq

/-- What any other statement does.  It may begin or end the transaction of its owner by
itself, whatever the owner knows of it. -/
inductive Effect (D : Type) where
  | update (effect : D → D)
  | begins
  | commits
  | rollsBack

def Effect.Keeps {D : Type} : Effect D → Prop
  | .update _ => True
  | _ => False

/-- What it does to the data then. -/
def Effect.apply {D : Type} : Effect D → D → D
  | .update effect, data => effect data
  | _, data => data

def Effect.applyAll {D : Type} (effects : List (Effect D)) (data : D) : D :=
  effects.foldl (fun data effect => effect.apply data) data

def Effect.reading {D : Type} : Effect D → Effect D
  | .update _ => .update id
  | effect => effect

def Effect.Preserves {D : Type} (p : D → Prop) (effect : Effect D) : Prop :=
  ∀ data, p data → p (effect.apply data)

theorem Effect.Preserves.applyAll {D : Type} {p : D → Prop} {effects : List (Effect D)} {data : D}
    (h : ∀ effect ∈ effects, effect.Preserves p) (hdata : p data) :
    p (Effect.applyAll effects data) := by
  induction effects generalizing data with
  | nil => exact hdata
  | cons effect effects ih =>
      refine ih (fun other hother => h other (List.mem_cons_of_mem _ hother)) ?_
      exact h effect List.mem_cons_self data hdata

theorem Effect.Keeps.reading {D : Type} {effect : Effect D} (h : effect.Keeps) :
    effect.reading.Keeps := by
  cases effect with
  | update => exact trivial
  | _ => exact h

theorem Effect.Preserves.reading {D : Type} {p : D → Prop} {effect : Effect D}
    (h : effect.Preserves p) : effect.reading.Preserves p := by
  cases effect with
  | update => exact fun _ hdata => hdata
  | _ => exact h

namespace Store

variable {D : Type}

def close (owner : Nat) (store : Store D) : Store D :=
  { store with working := store.working.filter fun entry => entry.1 != owner }

/-- `BEGIN`: one owner has one transaction at most. -/
def begin (throws : Bool) (owner : Nat) (store : Store D) : Store D × Bool :=
  match throws, store.working.lookup owner with
  | false, none => ({ store with working := (owner, store.durable) :: store.working }, true)
  | _, _ => (store, false)

/-- `COMMIT` -/
def commit (ending : Ending) (owner : Nat) (store : Store D) : Store D × Bool :=
  match ending, store.working.lookup owner with
  | .done, some data => ({ store.close owner with durable := data }, true)
  | .abandoned, some _ => (store.close owner, false)
  | _, _ => (store, false)

/-- `ROLLBACK` -/
def rollback (ending : Ending) (owner : Nat) (store : Store D) : Store D × Bool :=
  match ending, store.working.lookup owner with
  | .done, some _ => (store.close owner, true)
  | .abandoned, some _ => (store.close owner, false)
  | _, _ => (store, false)

/-- A statement that changes the data; without a transaction it is one of its own. -/
def update (effect : D → D) (owner : Nat) (store : Store D) : Store D :=
  match store.working.lookup owner with
  | some _ => { store with
      working := store.working.map fun entry =>
        if entry.1 = owner then (entry.1, effect entry.2) else entry }
  | none => { store with durable := effect store.durable }

def run (effect : Effect D) (owner : Nat) (store : Store D) : Store D :=
  match effect with
  | .update effect => store.update effect owner
  | .begins => (store.begin false owner).1
  | .commits => (store.commit .done owner).1
  | .rollsBack => (store.rollback .done owner).1

def runAll (effects : List (Effect D)) (owner : Nat) (store : Store D) : Store D :=
  effects.foldl (fun store effect => store.run effect owner) store

variable {owner : Nat} {store : Store D} {data : D}

theorem begin_idle (hidle : store.working = []) :
    store.begin false owner = (⟨store.durable, [(owner, store.durable)]⟩, true) := by
  simp [begin, hidle]

theorem commit_only (honly : store.working = [(owner, data)]) :
    store.commit .done owner = (⟨data, []⟩, true) := by
  simp [commit, close, honly]

theorem rollback_only (honly : store.working = [(owner, data)]) :
    store.rollback .done owner = (⟨store.durable, []⟩, true) := by
  simp [rollback, close, honly]

theorem update_only (effect : D → D) (honly : store.working = [(owner, data)]) :
    store.update effect owner = ⟨store.durable, [(owner, effect data)]⟩ := by
  simp [update, honly]

theorem update_idle (effect : D → D) (hidle : store.working = []) :
    store.update effect owner = ⟨effect store.durable, []⟩ := by
  simp [update, hidle]

theorem run_only {effect : Effect D} (hkeeps : effect.Keeps)
    (honly : store.working = [(owner, data)]) :
    store.run effect owner = ⟨store.durable, [(owner, effect.apply data)]⟩ := by
  cases effect with
  | update change => exact update_only change honly
  | _ => cases hkeeps

theorem run_idle {effect : Effect D} (hkeeps : effect.Keeps) (hidle : store.working = []) :
    store.run effect owner = ⟨effect.apply store.durable, []⟩ := by
  cases effect with
  | update change => exact update_idle change hidle
  | _ => cases hkeeps

theorem runAll_only {effects : List (Effect D)} (hkeeps : ∀ effect ∈ effects, effect.Keeps)
    (honly : store.working = [(owner, data)]) :
    store.runAll effects owner = ⟨store.durable, [(owner, Effect.applyAll effects data)]⟩ := by
  induction effects generalizing store data with
  | nil =>
      rw [runAll, List.foldl_nil, Effect.applyAll, List.foldl_nil, ← honly]
  | cons effect effects ih =>
      rw [runAll, List.foldl_cons, run_only (hkeeps effect List.mem_cons_self) honly]
      exact ih (fun other hother => hkeeps other (List.mem_cons_of_mem _ hother)) rfl

theorem begin_of_open (throws : Bool) (hopen : (store.working.lookup owner).isSome) :
    store.begin throws owner = (store, false) := by
  obtain ⟨data, hdata⟩ := Option.isSome_iff_exists.mp hopen
  cases throws <;> simp [begin, hdata]

theorem update_of_open (effect : D → D) (hopen : (store.working.lookup owner).isSome) :
    (store.update effect owner).durable = store.durable ∧
      ((store.update effect owner).working.lookup owner).isSome := by
  obtain ⟨data, hdata⟩ := Option.isSome_iff_exists.mp hopen
  have hupdate : store.update effect owner = { store with
      working := store.working.map fun entry =>
        if entry.1 = owner then (entry.1, effect entry.2) else entry } := by
    simp [update, hdata]
  rw [hupdate]
  refine ⟨rfl, ?_⟩
  clear hupdate hopen
  obtain ⟨durable, working⟩ := store
  dsimp only at hdata ⊢
  induction working with
  | nil => cases hdata
  | cons entry working ih =>
      obtain ⟨other, copy⟩ := entry
      by_cases hsame : other = owner
      · subst hsame
        simp
      · have hne : (owner == other) = false := by simpa using Ne.symm hsame
        simp only [List.lookup_cons, hne] at hdata
        simpa [List.lookup_cons, hsame, hne] using ih hdata

def All (p : D → Prop) (store : Store D) : Prop :=
  p store.durable ∧ ∀ entry ∈ store.working, p entry.2

section All

variable {p : D → Prop}

theorem All.close (h : store.All p) (owner : Nat) : (store.close owner).All p :=
  ⟨h.1, fun entry hentry => h.2 entry (List.mem_of_mem_filter hentry)⟩

theorem All.lookup (h : store.All p) (hdata : store.working.lookup owner = some data) : p data := by
  obtain ⟨durable, working⟩ := store
  obtain ⟨-, hworking⟩ := h
  dsimp only at hdata hworking
  induction working with
  | nil => cases hdata
  | cons entry working ih =>
      rw [List.lookup_cons] at hdata
      split at hdata
      · obtain rfl := Option.some.inj hdata
        exact hworking entry List.mem_cons_self
      · exact ih hdata fun other hother => hworking other (List.mem_cons_of_mem _ hother)

theorem All.begin (h : store.All p) (throws : Bool) (owner : Nat) :
    (store.begin throws owner).1.All p := by
  unfold Store.begin
  split
  · refine ⟨h.1, fun entry hentry => ?_⟩
    rcases List.mem_cons.mp hentry with rfl | hentry
    · exact h.1
    · exact h.2 entry hentry
  · exact h

theorem All.commit (h : store.All p) (ending : Ending) (owner : Nat) :
    (store.commit ending owner).1.All p := by
  unfold Store.commit
  split
  · rename_i hdata
    exact ⟨h.lookup hdata, (h.close owner).2⟩
  · exact h.close owner
  · exact h

theorem All.rollback (h : store.All p) (ending : Ending) (owner : Nat) :
    (store.rollback ending owner).1.All p := by
  unfold Store.rollback
  split
  · exact h.close owner
  · exact h.close owner
  · exact h

theorem All.update {effect : D → D} (h : store.All p) (heffect : ∀ data, p data → p (effect data))
    (owner : Nat) : (store.update effect owner).All p := by
  unfold Store.update
  split
  · refine ⟨h.1, fun entry hentry => ?_⟩
    obtain ⟨old, hold, rfl⟩ := List.mem_map.mp hentry
    split
    · exact heffect _ (h.2 old hold)
    · exact h.2 old hold
  · exact ⟨heffect _ h.1, h.2⟩

theorem All.run {effect : Effect D} (h : store.All p) (heffect : effect.Preserves p)
    (owner : Nat) : (store.run effect owner).All p := by
  cases effect with
  | update => exact h.update heffect owner
  | begins => exact h.begin false owner
  | commits => exact h.commit .done owner
  | rollsBack => exact h.rollback .done owner

theorem All.runAll {effects : List (Effect D)} (h : store.All p)
    (heffects : ∀ effect ∈ effects, effect.Preserves p) (owner : Nat) :
    (store.runAll effects owner).All p := by
  induction effects generalizing store with
  | nil => exact h
  | cons effect effects ih =>
      refine ih (h.run (heffects effect List.mem_cons_self) owner) fun other hother => ?_
      exact heffects other (List.mem_cons_of_mem _ hother)

end All

theorem run_of_open {effect : Effect D} (hkeeps : effect.Keeps)
    (hopen : (store.working.lookup owner).isSome) :
    (store.run effect owner).durable = store.durable ∧
      ((store.run effect owner).working.lookup owner).isSome := by
  cases effect with
  | update change => exact update_of_open change hopen
  | _ => cases hkeeps

end Store

end LSTAndroid.Library.NestedTransactions
