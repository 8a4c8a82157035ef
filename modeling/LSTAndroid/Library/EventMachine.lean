import Mathlib.Data.List.Infix

/-!
Deterministic machines that handle one event at a time, and the rules by which
facts about single events become facts about whole runs.
-/

namespace LSTAndroid.Library.EventMachine

universe u v w

theorem bind_eq_ok_iff {Failure : Type u} {A B : Type v} {first : Except Failure A}
    {second : A → Except Failure B} {result : B} :
    first >>= second = .ok result ↔ ∃ value, first = .ok value ∧ second value = .ok result := by
  cases first with
  | error failure => simp [bind, Except.bind]
  | ok value => simp [bind, Except.bind]

theorem map_eq_ok_iff {Failure : Type u} {A B : Type v} {computed : Except Failure A}
    {f : A → B} {result : B} :
    computed.map f = .ok result ↔ ∃ value, computed = .ok value ∧ f value = result := by
  cases computed with
  | error failure => simp [Except.map]
  | ok value => simp [Except.map]

/-- A machine starts in `init`; handling an event moves it to the next state and
emits outputs. -/
structure Machine (State : Type u) (Event : Type v) (Output : Type w) where
  init : State
  next : State → Event → State
  emit : State → Event → List Output

namespace Machine

variable {State : Type u} {Event : Type v} {Output : Type w}
variable (M : Machine State Event Output)

def run (events : List Event) : State :=
  events.foldl M.next M.init

@[simp] theorem run_concat (events : List Event) (event : Event) :
    M.run (events ++ [event]) = M.next (M.run events) event := by
  simp [run]

def emitAfter (before : List Event) (event : Event) : List Output :=
  M.emit (M.run before) event

def outputs (events : List Event) : List Output :=
  (events.foldl (fun (state, sent) event => (M.next state event, sent ++ M.emit state event))
    (M.init, [])).2

@[simp] theorem outputs_concat (events : List Event) (event : Event) :
    M.outputs (events ++ [event]) = M.outputs events ++ M.emitAfter events event := by
  have hstate : ∀ (rest : List Event) (start : State × List Output),
      (rest.foldl (fun (state, sent) event => (M.next state event, sent ++ M.emit state event))
        start).1 = rest.foldl M.next start.1 := by
    intro rest
    induction rest with
    | nil => exact fun start => rfl
    | cons first rest ih => exact fun start => ih _
  rw [outputs, List.foldl_append, List.foldl_cons, List.foldl_nil, emitAfter, run, ← hstate events
    (M.init, [])]
  rfl

/-- `P` holds of the start and of every state a run goes through. -/
def Always (P : State → Prop) (events : List Event) : Prop :=
  ∀ before, before <+: events → P (M.run before)

/-- A relation between the events handled so far and the state reached carries
over from one event to the next, so it holds along every run. -/
theorem run_history {R : List Event → State → Prop}
    (hinit : R [] M.init)
    (hnext : ∀ before event, R before (M.run before) →
      R (before ++ [event]) (M.next (M.run before) event))
    (events : List Event) : R events (M.run events) := by
  induction events using List.reverseRecOn with
  | nil => exact hinit
  | append_singleton before event ih =>
      rw [run_concat]
      exact hnext before event ih

section Handlers

variable {Failure : Type u}

/-- The machine of a handler that may fail; after a failure nothing is handled any
more. -/
def ofHandler (init : State) (handle : State → Event → Except Failure (State × List Output)) :
    Machine (Except Failure State) Event Output where
  init := .ok init
  next state event := (state.bind fun state => handle state event).map Prod.fst
  emit state event :=
    match state.bind fun state => handle state event with
    | .ok (_, outputs) => outputs
    | .error _ => []

variable {init : State}

theorem ofHandler_step (handle : State → Event → Except Failure (State × List Output))
    {state after : State} {event : Event} {outputs : List Output}
    (h : handle state event = .ok (after, outputs)) :
    (ofHandler init handle).next (.ok state) event = .ok after ∧
      (ofHandler init handle).emit (.ok state) event = outputs := by
  simp [ofHandler, Except.bind, Except.map, h]

theorem ofHandler_emitAfter {handle : State → Event → Except Failure (State × List Output)}
    {before : List Event} {state after : State} {event : Event} {outputs : List Output}
    (hrun : (ofHandler init handle).run before = .ok state)
    (h : handle state event = .ok (after, outputs)) :
    (ofHandler init handle).emitAfter before event = outputs := by
  rw [emitAfter, hrun]
  exact (ofHandler_step handle h).2

/-- A relation between the events handled so far and the state that lets the handler
succeed and carries over to the next state holds along every run. -/
theorem ofHandler_history
    {handle : State → Event → Except Failure (State × List Output)}
    {R : List Event → State → Prop} (hinit : R [] init)
    (hstep : ∀ before state event, R before state →
      ∃ after outputs, handle state event = .ok (after, outputs) ∧
        R (before ++ [event]) after)
    (events : List Event) :
    ∃ state, (ofHandler init handle).run events = .ok state ∧ R events state := by
  refine (ofHandler init handle).run_history
    (R := fun events state => ∃ reached, state = .ok reached ∧ R events reached)
    ⟨init, rfl, hinit⟩ ?_ events
  rintro before event ⟨state, hrun, hstate⟩
  obtain ⟨after, outputs, hok, hafter⟩ := hstep before state event hstate
  rw [hrun]
  exact ⟨after, (ofHandler_step handle hok).1, hafter⟩

theorem ofHandler_history_of_forall
    {handle : State → Event → Except Failure (State × List Output)} {P : Event → Prop}
    {R : List Event → State → Prop} (hinit : R [] init)
    (hstep : ∀ before state event, (ofHandler init handle).run before = .ok state →
      R before state → P event →
        ∃ after outputs, handle state event = .ok (after, outputs) ∧ R (before ++ [event]) after)
    {events : List Event} (hevents : ∀ event ∈ events, P event) :
    ∃ state, (ofHandler init handle).run events = .ok state ∧ R events state := by
  induction events using List.reverseRecOn with
  | nil => exact ⟨init, rfl, hinit⟩
  | append_singleton before event ih =>
      obtain ⟨state, hrun, hstate⟩ :=
        ih fun other hother => hevents other (List.mem_append_left _ hother)
      obtain ⟨after, outputs, hok, hafter⟩ :=
        hstep before state event hrun hstate (hevents event (by simp))
      rw [run_concat, hrun]
      exact ⟨after, (ofHandler_step handle hok).1, hafter⟩

theorem ofHandler_history_of_ok
    {handle : State → Event → Except Failure (State × List Output)}
    {R : List Event → State → Prop} (hinit : R [] init)
    (hstep : ∀ before state event after outputs, R before state →
      handle state event = .ok (after, outputs) → R (before ++ [event]) after)
    (events : List Event) {state : State}
    (h : (ofHandler init handle).run events = .ok state) : R events state := by
  refine (ofHandler init handle).run_history
    (R := fun events reached => ∀ state, reached = .ok state → R events state)
    ?_ ?_ events state h
  · rintro _ ⟨⟩
    exact hinit
  · intro before event ih after hafter
    rcases hrun : (ofHandler init handle).run before with failure | state
    · rw [hrun] at hafter
      cases hafter
    · rw [hrun] at hafter
      rcases hok : handle state event with failure | ⟨next, outputs⟩
      · simp [ofHandler, Except.bind, Except.map, hok] at hafter
      · rw [(ofHandler_step handle hok).1] at hafter
        obtain rfl := Except.ok.inj hafter
        exact hstep before state event next outputs (ih state hrun) hok

def handleAll (handle : State → Event → Except Failure (State × List Output)) :
    List Event → State → Except Failure (State × List Output)
  | [], state => .ok (state, [])
  | event :: events, state =>
      (handle state event).bind fun (next, outputs) =>
        (handleAll handle events next).map fun (after, more) => (after, outputs ++ more)

theorem handleAll_cons_iff {handle : State → Event → Except Failure (State × List Output)}
    {state after : State} {event : Event} {events : List Event} {outputs : List Output} :
    handleAll handle (event :: events) state = .ok (after, outputs) ↔
      ∃ next sent more, handle state event = .ok (next, sent) ∧
        handleAll handle events next = .ok (after, more) ∧ sent ++ more = outputs := by
  constructor
  · intro h
    obtain ⟨⟨next, sent⟩, hfirst, h⟩ := bind_eq_ok_iff.mp h
    obtain ⟨⟨last, more⟩, hrest, h⟩ := map_eq_ok_iff.mp h
    obtain ⟨rfl, rfl⟩ := Prod.mk.inj h
    exact ⟨next, sent, more, hfirst, hrest, rfl⟩
  · rintro ⟨next, sent, more, hfirst, hrest, rfl⟩
    simp [handleAll, hfirst, hrest, Except.bind, Except.map]

/-- When one handler does for an event what another does for the event that `f` makes of
it, up to the names of the outputs, so it is for all events. -/
theorem handleAll_map {Event' Output' : Type*}
    {handle : State → Event → Except Failure (State × List Output)}
    {handle' : State → Event' → Except Failure (State × List Output')} {f : Event' → Event}
    {p : Output' → Output}
    (h : ∀ state event, (handle' state event).map (Prod.map id (List.map p)) =
      handle state (f event)) (events : List Event') (state : State) :
    (handleAll handle' events state).map (Prod.map id (List.map p)) =
      handleAll handle (events.map f) state := by
  induction events generalizing state with
  | nil => rfl
  | cons event events ih =>
      rw [List.map_cons, handleAll, handleAll, ← h]
      rcases handle' state event with failure | ⟨next, outputs⟩
      · rfl
      · change _ = (handleAll handle (events.map f) next).map _
        rw [← ih next]
        rcases hrest : handleAll handle' events next with failure | ⟨after, more⟩
        · simp [Except.map, Except.bind, hrest]
        · simp [Except.map, Except.bind, hrest]

/-- A handler that succeeds on the states of `P` with outputs that depend on the event
alone. -/
theorem handleAll_flatMap {handle : State → Event → Except Failure (State × List Output)}
    {P : State → Prop} {f : Event → List Output} {events : List Event}
    (hhandle : ∀ event ∈ events, ∀ state, P state →
      ∃ after, handle state event = .ok (after, f event) ∧ P after)
    {state : State} (hstate : P state) :
    ∃ after, handleAll handle events state = .ok (after, events.flatMap f) ∧ P after := by
  induction events generalizing state with
  | nil => exact ⟨state, rfl, hstate⟩
  | cons event events ih =>
      obtain ⟨next, hfirst, hnext⟩ := hhandle event List.mem_cons_self state hstate
      obtain ⟨after, hrest, hafter⟩ :=
        ih (fun other hother => hhandle other (List.mem_cons_of_mem event hother)) hnext
      refine ⟨after, ?_, hafter⟩
      rw [List.flatMap_cons]
      exact handleAll_cons_iff.mpr ⟨next, _, _, hfirst, hrest, rfl⟩

end Handlers

end Machine

variable {Event : Type v}

/-- `P before event` holds each time a run handles an event, `before` being the
events handled until then. -/
def AtEachEvent (P : List Event → Event → Prop) (events : List Event) : Prop :=
  ∀ before event after, events = before ++ event :: after → P before event

theorem atEachEvent_congr {P Q : List Event → Event → Prop} {events : List Event}
    (h : ∀ before event after, events = before ++ event :: after →
      (P before event ↔ Q before event)) :
    AtEachEvent P events ↔ AtEachEvent Q events := by
  constructor
  · intro hP before event after heq
    exact (h before event after heq).mp (hP before event after heq)
  · intro hQ before event after heq
    exact (h before event after heq).mpr (hQ before event after heq)

theorem atEachEvent_iff {P Q : List Event → Event → Prop}
    (h : ∀ before event, P before event ↔ Q before event) (events : List Event) :
    AtEachEvent P events ↔ AtEachEvent Q events :=
  atEachEvent_congr fun before event _ _ => h before event

/-- `P before event` held for some event that a run has handled. -/
def AtSomeEvent (P : List Event → Event → Prop) (events : List Event) : Prop :=
  ∃ before event after, events = before ++ event :: after ∧ P before event

@[simp] theorem atSomeEvent_nil (P : List Event → Event → Prop) : ¬ AtSomeEvent P [] := by
  rintro ⟨before, event, after, heq, -⟩
  simp at heq

theorem atSomeEvent_concat (P : List Event → Event → Prop) (events : List Event)
    (event : Event) :
    AtSomeEvent P (events ++ [event]) ↔ AtSomeEvent P events ∨ P events event := by
  constructor
  · rintro ⟨before, first, after, heq, hP⟩
    rcases List.eq_nil_or_concat after with rfl | ⟨rest, last, rfl⟩
    · obtain ⟨rfl, hlast⟩ := List.append_inj' heq rfl
      obtain rfl := List.head_eq_of_cons_eq hlast
      exact .inr hP
    · rw [List.concat_eq_append, ← List.cons_append, ← List.append_assoc] at heq
      exact .inl ⟨before, first, rest, (List.append_inj' heq rfl).1, hP⟩
  · rintro (⟨before, first, after, rfl, hP⟩ | hP)
    · exact ⟨before, first, after ++ [event], by simp, hP⟩
    · exact ⟨events, event, [], rfl, hP⟩

end LSTAndroid.Library.EventMachine
