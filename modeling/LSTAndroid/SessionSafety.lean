import LSTAndroid.SessionTransactions

namespace LSTAndroid.SQLiteSession

open LSTAndroid.ConnectionPool
open LSTAndroid.Library.NestedTransactions

variable {D : Type} {state after : State D} {answers later : Answers D}

section Orderly

/-- The database does not refuse to end a transaction, and no statement of a listener begins
or ends one by itself. -/
structure Answers.Orderly (answers : Answers D) : Prop where
  ending : answers.ending = .done
  keeps : ∀ effect ∈ answers.heard, effect.Keeps

/-- Nor does any other statement. -/
def Call.Orderly : Call D → Prop
  | .yieldTransaction _ later => later.Orderly
  | .finishStatement effect => effect.Keeps
  | _ => True

/-- The statement that the call finishes, if any, leaves the transactions as they are. -/
def Call.Keeps : Call D → Prop
  | .finishStatement effect => effect.Keeps
  | _ => True

inductive Orderly : State D → Prop
  | start (data : D) : Orderly (.start data)
  | step {state : State D} (answers : Answers D) (call : Call D) :
      Orderly state → state.Allowed call → answers.Orderly → call.Orderly →
        Orderly (state.step answers call).1

theorem Orderly.reachable (h : Orderly state) : Reachable state := by
  induction h with
  | start data => exact .start data
  | step answers call _ hallowed _ _ ih => exact .step answers call ih hallowed

/-- The database has a transaction, on the connection of the session, exactly if the
session has one. -/
structure Matched (state : State D) : Prop where
  idle : state.session.transactionStack = [] → state.store.working = []
  within : state.session.transactionStack ≠ [] → ∃ connection data,
    state.session.connection = some connection ∧
      state.store.working = [(connection.connectionId, data)]

theorem Matched.store_idle (h : Matched state) (hstack : state.session.transactionStack = []) :
    state.store = ⟨state.store.durable, []⟩ := by
  rw [← h.idle hstack]

theorem Matched.store_within (h : Matched state) (hstack : state.session.transactionStack ≠ []) :
    ∃ connection data, state.session.connection = some connection ∧
      state.store = ⟨state.store.durable, [(connection.connectionId, data)]⟩ := by
  obtain ⟨connection, data, hconnection, hworking⟩ := h.within hstack
  exact ⟨connection, data, hconnection, by rw [← hworking]⟩

theorem matched_start (data : D) : Matched (State.start data) :=
  ⟨fun _ => rfl, fun hne => absurd rfl hne⟩

/-- The same transactions, in the session and in the database, and the same durable data. -/
structure SameTransactions (state after : State D) : Prop where
  durable : after.store.durable = state.store.durable
  owners : after.store.working.map Prod.fst = state.store.working.map Prod.fst
  stack : after.session.transactionStack = state.session.transactionStack
  statements : after.statements = state.statements
  useCount : after.session.connectionUseCount = state.session.connectionUseCount
  connection : after.session.connection = state.session.connection

theorem SameTransactions.refl (state : State D) : SameTransactions state state :=
  ⟨rfl, rfl, rfl, rfl, rfl, rfl⟩

theorem SameTransactions.matched (h : SameTransactions state after) (hmatched : Matched state) :
    Matched after := by
  have howners := h.owners
  refine ⟨fun hstack => ?_, fun hstack => ?_⟩
  · rw [hmatched.idle (h.stack.symm.trans hstack)] at howners
    exact List.map_eq_nil_iff.mp howners
  · obtain ⟨connection, data, hconnection, hworking⟩ := hmatched.within (h.stack ▸ hstack)
    rw [hworking] at howners
    obtain ⟨⟨owner, copy⟩, hcopy, rfl⟩ := List.map_eq_singleton_iff.mp howners
    exact ⟨connection, copy, h.connection.trans hconnection, hcopy⟩

theorem sameTransactions_listen (hmatched : Matched state) (horderly : answers.Orderly)
    (hstack : state.session.transactionStack ≠ []) (listener : Option Nat) :
    SameTransactions state (state.listen answers listener) := by
  obtain ⟨connection, data, hconnection, hstore⟩ := hmatched.store_within hstack
  rw [listen_only listener hconnection hstore horderly.keeps]
  refine ⟨rfl, ?_, rfl, rfl, rfl, rfl⟩
  rw [hstore]
  rfl

theorem sameTransactions_release {connectionFlags : BitVec 32} {acquired : State D} {inUse : Nat}
    (hsane : Sane inUse state)
    (h : state.acquireConnection answers connectionFlags = (acquired, .ok ())) :
    SameTransactions state acquired.releaseConnection ∧
      acquired.releaseConnection.store = state.store := by
  rcases acquireConnection_cases hsane h with
    ⟨failure, hanswer, -⟩ | ⟨-, hheld, hstore, hstatements, hstack, connection, hsome, hfrom⟩
  · cases hanswer
  · have hreleased := hheld.releaseConnection
    have hsame : acquired.releaseConnection.store = state.store := by simpa using hstore
    refine ⟨⟨by rw [hsame], by rw [hsame], by simpa using hstack, by simpa using hstatements,
      hreleased.useCount.trans hsane.useCount.symm, ?_⟩, hsame⟩
    rcases Nat.eq_zero_or_pos inUse with hzero | hpos
    · rw [hreleased.held.mpr hzero, hsane.held.mpr hzero]
    · have hkept : acquired.releaseConnection.session.connection =
          acquired.session.connection := by
        unfold State.releaseConnection
        rw [hheld.useCount]
        dsimp only
        rw [if_neg (by omega)]
      rw [hkept, hsome]
      rcases hfrom with hsame | ⟨hnone, -⟩
      · exact hsame.symm
      · exact absurd (hsane.held.mp hnone) (by omega)

/-- What becomes of an attempt to begin a transaction. -/
inductive Begun (answers : Answers D) (state : State D) (mode : Int) (listener : Option Nat) :
    State D → Except SessionException Unit → Prop
  | failed {after : State D} (failure : SessionException) :
      SameTransactions state after →
      (state.session.transactionStack = [] → after.store = state.store) →
        Begun answers state mode listener after (.error failure)
  | nested {heard : State D} :
      state.session.transactionStack ≠ [] → SameTransactions state heard →
        Begun answers state mode listener (heard.pushTransaction mode listener) (.ok ())
  | outermost {after : State D} (connection : Connection) :
      state.session.transactionStack = [] →
      after.session.transactionStack = [⟨mode, listener, false, false⟩] →
      after.session.connection = some connection →
      after.store = ⟨state.store.durable,
        [(connection.connectionId, answers.listened listener state.store.durable)]⟩ →
        Begun answers state mode listener after (.ok ())

theorem beginTransactionUnchecked_begun {mode : Int} {listener : Option Nat}
    {connectionFlags : BitVec 32} {answer : Except SessionException Unit}
    (hsane : Sane state.uses state) (hmatched : Matched state) (horderly : answers.Orderly)
    (h : state.beginTransactionUnchecked answers mode listener connectionFlags =
      (after, answer)) : Begun answers state mode listener after answer := by
  unfold State.beginTransactionUnchecked at h
  split at h
  · obtain ⟨rfl, rfl⟩ := Prod.mk.inj h
    exact .failed _ (.refl _) fun _ => rfl
  split at h
  · rename_i hempty
    have hstack : state.session.transactionStack = [] := by simpa using hempty
    rcases hacquire : state.acquireConnection answers connectionFlags with ⟨acquired, result⟩
    rw [hacquire] at h
    rcases acquireConnection_cases (hsane.uses_of_empty hstack) hacquire with
      ⟨failure, rfl, rfl⟩ | ⟨rfl, hheld, hstore, hstatements, hsame, connection, hsome, -⟩
    · obtain ⟨rfl, rfl⟩ := Prod.mk.inj h
      exact .failed _ (.refl _) fun _ => rfl
    · obtain ⟨hreleased, hsameStore⟩ :=
        sameTransactions_release (hsane.uses_of_empty hstack) hacquire
      have hidle : acquired.store = ⟨state.store.durable, []⟩ := by
        rw [hstore]
        exact hmatched.store_idle hstack
      have hbegin : acquired.beginOutermost answers mode listener = (after, answer) := h
      rw [beginOutermost_eq hsome hidle horderly.ending horderly.keeps] at hbegin
      split at hbegin
      · obtain ⟨rfl, rfl⟩ := Prod.mk.inj hbegin
        exact .failed _ hreleased fun _ => hsameStore
      split at hbegin
      · obtain ⟨rfl, rfl⟩ := Prod.mk.inj hbegin
        exact .failed _ hreleased fun _ => hsameStore
      · obtain ⟨rfl, rfl⟩ := Prod.mk.inj hbegin
        refine .outermost connection hstack ?_ ?_ rfl
        · simp [State.pushTransaction, hsame, hstack]
        · simpa [State.pushTransaction] using hsome
  · rename_i hopen
    have hstack : state.session.transactionStack ≠ [] := by simpa using hopen
    have hheard := sameTransactions_listen hmatched horderly hstack listener
    dsimp only at h
    split at h
    · obtain ⟨rfl, rfl⟩ := Prod.mk.inj h
      exact .failed _ hheard fun hempty => absurd hempty hstack
    · obtain ⟨rfl, rfl⟩ := Prod.mk.inj h
      exact .nested hstack hheard

theorem Begun.matched {mode : Int} {listener : Option Nat}
    {answer : Except SessionException Unit} (h : Begun answers state mode listener after answer)
    (hmatched : Matched state) :
    Matched after ∧ after.store.durable = state.store.durable := by
  cases h with
  | failed failure hsame => exact ⟨hsame.matched hmatched, hsame.durable⟩
  | nested hstack hheard =>
      refine ⟨⟨fun hempty => ?_, fun _ => ?_⟩, hheard.durable⟩
      · simp [State.pushTransaction] at hempty
      · have hwithin := (hheard.matched hmatched).within (hheard.stack ▸ hstack)
        simpa [State.pushTransaction] using hwithin
  | outermost connection hstack hafter hconnection hstore =>
      refine ⟨⟨fun hempty => ?_, fun _ => ?_⟩, by rw [hstore]⟩
      · rw [hafter] at hempty
        cases hempty
      · exact ⟨connection, _, hconnection, by rw [hstore]⟩

/-- What becomes of an attempt to end one. -/
inductive Ended (answers : Answers D) (yielding : Bool) (state : State D) :
    State D → Except SessionException Unit → Prop
  | failed (failure : SessionException) : Ended answers yielding state state (.error failure)
  | nested {heard after : State D} {answer : Except SessionException Unit} :
      SameTransactions state heard → after.store = heard.store →
      after.session.connection = heard.session.connection →
      after.session.transactionStack ≠ [] → state.session.transactionStack.tail ≠ [] →
        Ended answers yielding state after answer
  | outermost {after : State D} {answer : Except SessionException Unit} (top : Transaction)
      (connection : Connection) (data : D) (successful : Bool) :
      state.session.transactionStack = [top] →
      state.store = ⟨state.store.durable, [(connection.connectionId, data)]⟩ →
      (answer = .error .listener ∧ successful = false ∨
        answer = .ok () ∧
          successful = ((top.markedSuccessful || yielding) && !top.childFailed)) →
      after.session.transactionStack = [] →
      after.store =
        ⟨if successful then answers.listened top.listener data else state.store.durable, []⟩ →
        Ended answers yielding state after answer

theorem popped_store {connection : Connection} {durable data : D} (top : Transaction)
    (horderly : answers.Orderly) (hconnection : state.session.connection = some connection)
    (hstore : state.store = ⟨durable, [(connection.connectionId, data)]⟩) :
    (state.popped answers top).store =
      ⟨durable, [(connection.connectionId, answers.listened top.listener data)]⟩ := by
  rw [State.popped, listen_only top.listener hconnection hstore horderly.keeps]

theorem endTransactionUnchecked_ended {yielding : Bool} {answer : Except SessionException Unit}
    (hmatched : Matched state) (horderly : answers.Orderly)
    (h : state.endTransactionUnchecked answers yielding = (after, answer)) :
    Ended answers yielding state after answer := by
  rcases hcanceled : answers.canceled with _ | _
  · rcases hstack : state.session.transactionStack with _ | ⟨top, parents⟩
    · simp only [State.endTransactionUnchecked, hcanceled, hstack] at h
      obtain ⟨rfl, rfl⟩ := Prod.mk.inj h
      exact .failed _
    · obtain ⟨connection, data, hconnection, hstore⟩ := hmatched.store_within (by simp [hstack])
      rcases parents with _ | ⟨parent, others⟩
      · have hpopped := popped_store top horderly hconnection hstore
        have hend : (state.popped answers top).endOutermost answers ((top.markedSuccessful ||
            yielding) && !top.childFailed && !(top.listener.isSome && answers.onEndThrows))
              (top.listener.isSome && answers.onEndThrows) = _ :=
          endOutermost_eq _ _ hconnection hpopped horderly.ending
        rw [endTransactionUnchecked_outermost hstack hcanceled, hend] at h
        obtain ⟨rfl, rfl⟩ := Prod.mk.inj h
        refine .outermost top connection data ((top.markedSuccessful || yielding) &&
          !top.childFailed && !(top.listener.isSome && answers.onEndThrows)) hstack hstore
            ?_ ?_ ?_
        · rcases top.listener.isSome && answers.onEndThrows with _ | _
          · exact .inr ⟨rfl, by simp⟩
          · exact .inl ⟨rfl, by simp⟩
        · simp [Session.recycleTransaction, State.popped]
        · simp
      · have hheard := sameTransactions_listen hmatched horderly (by simp [hstack]) top.listener
        simp only [State.endTransactionUnchecked, hcanceled, hstack] at h
        obtain ⟨rfl, -⟩ := Prod.mk.inj h
        exact .nested hheard rfl rfl (by simp) (by simp [hstack])
  · simp only [State.endTransactionUnchecked, hcanceled, if_true] at h
    obtain ⟨rfl, rfl⟩ := Prod.mk.inj h
    exact .failed _

theorem Ended.matched {yielding : Bool} {answer : Except SessionException Unit}
    (h : Ended answers yielding state after answer) (hmatched : Matched state) :
    Matched after := by
  cases h with
  | failed => exact hmatched
  | nested hheard hstore hconnection hafter hstack =>
      refine ⟨fun hempty => absurd hempty hafter, fun _ => ?_⟩
      rw [hstore, hconnection]
      refine (hheard.matched hmatched).within fun hnone => hstack ?_
      rw [← hheard.stack, hnone]
      rfl
  | outermost top connection data successful hstack hstore hanswer hafter hended =>
      exact ⟨fun _ => by rw [hended], fun hne => absurd hafter hne⟩

/-- What becomes of an attempt to yield. -/
inductive Yielded (answers later : Answers D) (state : State D) :
    State D → Except SessionException Bool → Prop
  | unchanged {result : Except SessionException Bool} :
      result ≠ .ok true → Yielded answers later state state result
  | ended {after : State D} (top : Transaction) (connection : Connection) (data : D)
      (result : Except SessionException Bool) :
      state.session.transactionStack = [top] → top.markedSuccessful = false →
      top.childFailed = false →
      state.store = ⟨state.store.durable, [(connection.connectionId, data)]⟩ →
      Matched after →
      (result = .error .listener ∧ after.store = ⟨state.store.durable, []⟩ ∧
          after.session.transactionStack = [] ∨
        (∃ failure, result = .error failure) ∧
          after.store = ⟨answers.listened top.listener data, []⟩ ∧
          after.session.transactionStack = [] ∨
        result = .ok true ∧
          after.session.transactionStack = [⟨top.mode, top.listener, false, false⟩] ∧
          ∃ granted : Connection, after.session.connection = some granted ∧
            after.store = ⟨answers.listened top.listener data, [(granted.connectionId,
              later.listened top.listener (answers.listened top.listener data))]⟩) →
        Yielded answers later state after result

theorem yieldTransactionUnchecked_yielded {top : Transaction}
    {result : Except SessionException Bool} (hsane : Sane state.uses state)
    (hmatched : Matched state) (horderly : answers.Orderly) (hlater : later.Orderly)
    (hstack : state.session.transactionStack = [top]) (hmarked : top.markedSuccessful = false)
    (hfailed : top.childFailed = false)
    (h : state.yieldTransactionUnchecked answers later top = (after, result)) :
    Yielded answers later state after result := by
  unfold State.yieldTransactionUnchecked at h
  split at h
  · obtain ⟨rfl, rfl⟩ := Prod.mk.inj h
    exact .unchanged (by simp)
  split at h
  · obtain ⟨rfl, rfl⟩ := Prod.mk.inj h
    exact .unchanged (by simp)
  · obtain ⟨rfl, rfl⟩ := Prod.mk.inj h
    exact .unchanged (by simp)
  · rcases hend : state.endTransactionUnchecked answers true with ⟨ended, answer⟩
    have hsaneEnded := sane_endTransactionUnchecked hsane hend
    have hcases := endTransactionUnchecked_ended hmatched horderly hend
    have hmatchedEnded := hcases.matched hmatched
    rw [hend] at h
    cases hcases with
    | failed failure =>
        obtain ⟨rfl, rfl⟩ := Prod.mk.inj h
        exact .unchanged (by simp)
    | nested hheard hstore hconnection hafter htail => simp [hstack] at htail
    | outermost last connection data successful hlast hstore hanswer hempty hended =>
        obtain rfl : last = top := by simpa [hstack] using hlast.symm
        rcases hanswer with ⟨rfl, rfl⟩ | ⟨rfl, rfl⟩
        · obtain ⟨rfl, rfl⟩ := Prod.mk.inj h
          exact .ended last connection data _ hstack hmarked hfailed hstore hmatchedEnded
            (.inl ⟨rfl, hended, hempty⟩)
        · have hcommitted : ended.store = ⟨answers.listened last.listener data, []⟩ := by
            simpa [hfailed] using hended
          rcases hbegin : ended.beginTransactionUnchecked later last.mode last.listener
            state.session.connectionFlags with ⟨begun, answer⟩
          have hbegun := beginTransactionUnchecked_begun hsaneEnded hmatchedEnded hlater hbegin
          have hmatchedBegun := (hbegun.matched hmatchedEnded).1
          simp only [hbegin] at h
          refine .ended last connection data result hstack hmarked hfailed hstore ?_ ?_
          · rcases answer with failure | _
            · obtain ⟨rfl, -⟩ := Prod.mk.inj h
              exact hmatchedBegun
            · obtain ⟨rfl, -⟩ := Prod.mk.inj h
              exact hmatchedBegun
          · cases hbegun with
            | failed failure hsame hsameStore =>
                obtain ⟨rfl, rfl⟩ := Prod.mk.inj h
                exact .inr (.inl ⟨⟨failure, rfl⟩, (hsameStore hempty).trans hcommitted,
                  hsame.stack.trans hempty⟩)
            | nested hopen => exact absurd hempty hopen
            | outermost granted _ hnew hgranted hfresh =>
                obtain ⟨rfl, rfl⟩ := Prod.mk.inj h
                rw [hcommitted] at hfresh
                exact .inr (.inr ⟨rfl, hnew, granted, hgranted, hfresh⟩)

theorem yieldTransaction_yielded {throwIfUnsafe : Bool} {result : Except SessionException Bool}
    (hsane : Sane state.uses state) (hmatched : Matched state) (horderly : answers.Orderly)
    (hlater : later.Orderly)
    (h : state.yieldTransaction answers later throwIfUnsafe = (after, result)) :
    Yielded answers later state after result := by
  unfold State.yieldTransaction at h
  split at h
  · obtain ⟨rfl, rfl⟩ := Prod.mk.inj h
    exact .unchanged (by cases throwIfUnsafe <;> simp)
  rename_i top parents hstack
  split at h
  · obtain ⟨rfl, rfl⟩ := Prod.mk.inj h
    exact .unchanged (by cases throwIfUnsafe <;> simp)
  rename_i hmarked
  split at h
  · obtain ⟨rfl, rfl⟩ := Prod.mk.inj h
    exact .unchanged (by cases throwIfUnsafe <;> simp)
  rename_i hparents
  obtain rfl : parents = [] := by simpa using hparents
  split at h
  · obtain ⟨rfl, rfl⟩ := Prod.mk.inj h
    exact .unchanged (by simp)
  rename_i hfailed
  exact yieldTransactionUnchecked_yielded hsane hmatched horderly hlater hstack
    (by simpa using hmarked) (by simpa using hfailed) h

/-- No transaction is open, or one that goes on with the durable data. -/
def GoesOn (later : Option (Answers D)) (top : Transaction) (state : State D) : Prop :=
  state.session.transactionStack = [] ∧ state.store.working = [] ∨
    ∃ answers ∈ later, ∃ owner,
      state.store.working = [(owner, answers.listened top.listener state.store.durable)]

/-- The durable data stay, or become what the only transaction and at last its listener have
made of them, where nothing in it has failed. -/
def KeptOrCommitted (answers : Answers D) (later : Option (Answers D))
    (commits : Transaction → Prop) (state after : State D) : Prop :=
  after.store.durable = state.store.durable ∨
    ∃ top owner data, state.session.transactionStack = [top] ∧ top.childFailed = false ∧
      commits top ∧ state.store.working = [(owner, data)] ∧
      after.store.durable = answers.listened top.listener data ∧ GoesOn later top after

theorem Ended.keptOrCommitted {yielding : Bool} {answer : Except SessionException Unit}
    (h : Ended answers yielding state after answer) (later : Option (Answers D)) :
    KeptOrCommitted answers later (fun top => (top.markedSuccessful || yielding) = true)
      state after := by
  cases h with
  | failed => exact .inl rfl
  | nested hheard hstore => exact .inl (by rw [hstore, hheard.durable])
  | outermost top connection data successful hstack hstore hanswer hafter hended =>
      rcases successful with _ | _
      · exact .inl (by rw [hended]; rfl)
      · rcases hanswer with ⟨-, hfalse⟩ | ⟨-, hsuccessful⟩
        · cases hfalse
        · have hboth := Bool.and_eq_true_iff.mp hsuccessful.symm
          refine .inr ⟨top, connection.connectionId, data, hstack, by simpa using hboth.2,
            hboth.1, by rw [hstore], ?_, .inl ⟨hafter, by rw [hended]⟩⟩
          rw [hended]
          rfl

theorem Yielded.keptOrCommitted {result : Except SessionException Bool}
    (h : Yielded answers later state after result) :
    KeptOrCommitted answers (some later) (fun top => top.markedSuccessful = false)
      state after := by
  cases h with
  | unchanged => exact .inl rfl
  | ended top connection data _ hstack hmarked hfailed hstore _ hresult =>
      rcases hresult with ⟨-, hsame, -⟩ | ⟨-, hended, hempty⟩ | ⟨-, -, granted, -, hended⟩
      · exact .inl (by rw [hsame])
      · exact .inr ⟨top, connection.connectionId, data, hstack, hfailed, hmarked,
          by rw [hstore], by rw [hended], .inl ⟨hempty, by rw [hended]⟩⟩
      · exact .inr ⟨top, connection.connectionId, data, hstack, hfailed, hmarked,
          by rw [hstore], by rw [hended], .inr ⟨later, rfl, granted.connectionId, by rw [hended]⟩⟩

theorem Yielded.matched {result : Except SessionException Bool}
    (h : Yielded answers later state after result) (hmatched : Matched state) : Matched after := by
  cases h with
  | unchanged => exact hmatched
  | ended _ _ _ _ _ _ _ _ hafter _ => exact hafter

theorem endTransaction_ended {answer : Except SessionException Unit} (hmatched : Matched state)
    (horderly : answers.Orderly) (h : state.endTransaction answers = (after, answer)) :
    Ended answers false state after answer := by
  unfold State.endTransaction at h
  split at h
  · obtain ⟨rfl, rfl⟩ := Prod.mk.inj h
    exact .failed _
  · exact endTransactionUnchecked_ended hmatched horderly h

theorem beginTransaction_begun {mode : Int} {listener : Option Nat} {connectionFlags : BitVec 32}
    {answer : Except SessionException Unit} (hsane : Sane state.uses state)
    (hmatched : Matched state) (horderly : answers.Orderly)
    (h : state.beginTransaction answers mode listener connectionFlags = (after, answer)) :
    Begun answers state mode listener after answer := by
  unfold State.beginTransaction at h
  split at h
  · obtain ⟨rfl, rfl⟩ := Prod.mk.inj h
    exact .failed _ (.refl _) fun _ => rfl
  · exact beginTransactionUnchecked_begun hsane hmatched horderly h

theorem setTransactionSuccessful_cases {answer : Except SessionException Unit}
    (h : state.setTransactionSuccessful = (after, answer)) :
    (∃ failure, answer = .error failure) ∧ after = state ∨
      answer = .ok () ∧ ∃ top parents, state.session.transactionStack = top :: parents ∧
        top.markedSuccessful = false ∧ after = { state with
          session.transactionStack := { top with markedSuccessful := true } :: parents } := by
  unfold State.setTransactionSuccessful at h
  split at h
  · obtain ⟨rfl, rfl⟩ := Prod.mk.inj h
    exact .inl ⟨⟨_, rfl⟩, rfl⟩
  · rename_i top parents hstack
    split at h
    · obtain ⟨rfl, rfl⟩ := Prod.mk.inj h
      exact .inl ⟨⟨_, rfl⟩, rfl⟩
    · rename_i hmarked
      obtain ⟨rfl, rfl⟩ := Prod.mk.inj h
      exact .inr ⟨rfl, top, parents, hstack, by simpa using hmarked, rfl⟩

theorem setTransactionSuccessful_matched {answer : Except SessionException Unit}
    (hmatched : Matched state) (h : state.setTransactionSuccessful = (after, answer)) :
    Matched after ∧ after.store = state.store := by
  rcases setTransactionSuccessful_cases h with ⟨-, rfl⟩ | ⟨-, top, parents, hstack, -, rfl⟩
  · exact ⟨hmatched, rfl⟩
  · exact ⟨⟨fun hempty => absurd hempty (List.cons_ne_nil _ _),
      fun _ => hmatched.within (by simp [hstack])⟩, rfl⟩

def Call.Commits : Call D → Transaction → Prop
  | .endTransaction, top | .startStatement .abort _, top => top.markedSuccessful = true
  | .yieldTransaction _ _, top | .startStatement .commit _, top => top.markedSuccessful = false
  | _, _ => False

/-- What the session gets when the call begins a transaction again that it has ended. -/
def Call.again : Call D → Option (Answers D)
  | .yieldTransaction _ later => some later
  | _ => none

theorem matched_acquireConnection {connectionFlags : BitVec 32} {inUse : Nat}
    {answer : Except SessionException Unit} (hsane : Sane inUse state) (hmatched : Matched state)
    (h : state.acquireConnection answers connectionFlags = (after, answer)) :
    Matched after ∧ after.store = state.store := by
  rcases acquireConnection_cases hsane h with
    ⟨failure, -, rfl⟩ | ⟨-, -, hstore, -, hstack, connection, hsome, hfrom⟩
  · exact ⟨hmatched, rfl⟩
  · refine ⟨⟨fun hempty => ?_, fun hopen => ?_⟩, hstore⟩
    · rw [hstore]
      exact hmatched.idle (hstack.symm.trans hempty)
    · obtain ⟨held, data, hheld, hworking⟩ := hmatched.within (hstack ▸ hopen)
      rw [hheld] at hfrom
      rcases hfrom with hsame | ⟨hnone, -⟩
      · obtain rfl : held = connection := Option.some.inj hsame
        exact ⟨held, data, hsome, by rw [hstore, hworking]⟩
      · cases hnone

theorem executeSpecial_durable {type : StatementType} {connectionFlags : BitVec 32}
    {result : Except SessionException Bool} (hsane : Sane state.uses state)
    (hmatched : Matched state) (horderly : answers.Orderly)
    (h : state.executeSpecial answers type connectionFlags = (after, result)) :
    Matched after ∧ KeptOrCommitted answers none
      (Call.startStatement type connectionFlags : Call D).Commits state after := by
  unfold State.executeSpecial at h
  split at h
  · obtain ⟨rfl, -⟩ := Prod.mk.inj h
    exact ⟨hmatched, .inl rfl⟩
  cases type with
  | begin =>
      dsimp only at h
      rcases hbegin : state.beginTransaction answers transactionModeExclusive none
        connectionFlags with ⟨begun, answer⟩
      have hbegun := (beginTransaction_begun hsane hmatched horderly hbegin).matched hmatched
      rw [hbegin] at h
      obtain ⟨rfl, -⟩ := Prod.mk.inj h
      exact ⟨hbegun.1, .inl hbegun.2⟩
  | commit =>
      dsimp only at h
      rcases hmark : state.setTransactionSuccessful with ⟨marked, answer⟩
      have hmarked := setTransactionSuccessful_matched hmatched hmark
      rw [hmark] at h
      rcases setTransactionSuccessful_cases hmark with
        ⟨⟨failure, rfl⟩, rfl⟩ | ⟨rfl, top, parents, hstack, hunmarked, rfl⟩
      · obtain ⟨rfl, -⟩ := Prod.mk.inj h
        exact ⟨hmatched, .inl rfl⟩
      · rcases hend : ({ state with session.transactionStack :=
          { top with markedSuccessful := true } :: parents } : State D).endTransaction answers with
          ⟨ended, answer⟩
        have hended := endTransaction_ended hmarked.1 horderly hend
        simp only [hend] at h
        obtain ⟨rfl, -⟩ := Prod.mk.inj h
        refine ⟨hended.matched hmarked.1, ?_⟩
        rcases hended.keptOrCommitted none with
          hkept | ⟨last, owner, data, hlast, hfailed, -, hworking, hdurable, hgoesOn⟩
        · exact .inl hkept
        · obtain ⟨rfl, rfl⟩ := List.cons.inj hlast
          exact .inr ⟨top, owner, data, hstack, hfailed, hunmarked, hworking, hdurable, hgoesOn⟩
  | abort =>
      dsimp only at h
      rcases hend : state.endTransaction answers with ⟨ended, answer⟩
      have hended := endTransaction_ended hmatched horderly hend
      rw [hend] at h
      obtain ⟨rfl, -⟩ := Prod.mk.inj h
      refine ⟨hended.matched hmatched, ?_⟩
      simpa [KeptOrCommitted, Call.Commits] using hended.keptOrCommitted none
  | other =>
      obtain ⟨rfl, -⟩ := Prod.mk.inj h
      exact ⟨hmatched, .inl rfl⟩

theorem startStatement_durable {type : StatementType} {connectionFlags : BitVec 32}
    {result : Except SessionException Bool} (hsane : Sane state.uses state)
    (hmatched : Matched state) (horderly : answers.Orderly)
    (h : state.startStatement answers type connectionFlags = (after, result)) :
    Matched after ∧ KeptOrCommitted answers none
      (Call.startStatement type connectionFlags : Call D).Commits state after := by
  unfold State.startStatement at h
  rcases hspecial : state.executeSpecial answers type connectionFlags with ⟨between, special⟩
  have hbetween := executeSpecial_durable hsane hmatched horderly hspecial
  have hsaneBetween := sane_executeSpecial hsane hspecial
  rw [hspecial] at h
  split at h
  · rename_i heq
    obtain ⟨rfl, -⟩ := Prod.mk.inj heq
    rcases hacquire : between.acquireConnection answers connectionFlags with ⟨acquired, answer⟩
    have hacquired := matched_acquireConnection hsaneBetween hbetween.1 hacquire
    have hstack : acquired.session.transactionStack = between.session.transactionStack := by
      simpa [hacquire] using acquireConnection_transactionStack answers connectionFlags between
    rw [hacquire] at h
    have hkept : KeptOrCommitted answers none
        (Call.startStatement type connectionFlags : Call D).Commits state acquired := by
      unfold KeptOrCommitted GoesOn
      rw [hacquired.2, hstack]
      exact hbetween.2
    rcases answer with failure | _
    · obtain ⟨rfl, -⟩ := Prod.mk.inj h
      exact ⟨hacquired.1, hkept⟩
    · obtain ⟨rfl, -⟩ := Prod.mk.inj h
      exact ⟨⟨hacquired.1.idle, hacquired.1.within⟩, hkept⟩
  · obtain ⟨rfl, -⟩ := Prod.mk.inj h
    exact hbetween

theorem finishStatement_within {effect : Effect D} {connection : Connection} {durable data : D}
    (hkeeps : effect.Keeps) (hconnection : state.session.connection = some connection)
    (hstore : state.store = ⟨durable, [(connection.connectionId, data)]⟩) :
    (state.finishStatement effect).store =
      ⟨durable, [(connection.connectionId, effect.apply data)]⟩ := by
  have hrun : state.store.run effect connection.connectionId =
      ⟨durable, [(connection.connectionId, effect.apply data)]⟩ := by
    rw [hstore, Store.run_only hkeeps rfl]
  simp [State.finishStatement, execute_some _ hconnection, hrun]

/-- A statement inside a transaction leaves the durable data alone; outside, it is a
transaction of its own. -/
theorem finishStatement_durable {effect : Effect D} (hkeeps : effect.Keeps)
    (hsane : Sane state.uses state) (hmatched : Matched state) (hallowed : 0 < state.statements) :
    Matched (state.finishStatement effect) ∧ (state.finishStatement effect).store.durable =
      if state.session.transactionStack.isEmpty then effect.apply state.store.durable
      else state.store.durable := by
  rcases hstack : state.session.transactionStack with _ | ⟨top, parents⟩
  · have hsaneEmpty := hsane.uses_of_empty hstack
    have hidle := hmatched.idle hstack
    have hsome : ∃ connection, state.session.connection = some connection := by
      rcases hconnection : state.session.connection with _ | connection
      · exact absurd (hsaneEmpty.held.mp hconnection) (by omega)
      · exact ⟨connection, rfl⟩
    obtain ⟨connection, hconnection⟩ := hsome
    have hstore : (state.finishStatement effect).store =
        ⟨effect.apply state.store.durable, []⟩ := by
      simp [State.finishStatement, execute_some _ hconnection, Store.run_idle hkeeps hidle]
    have hempty : (state.finishStatement effect).session.transactionStack = [] := by
      simp [hstack]
    exact ⟨⟨fun _ => by rw [hstore], fun hne => absurd hempty hne⟩, by rw [hstore]; rfl⟩
  · obtain ⟨connection, data, hconnection, hstore⟩ := hmatched.store_within (by simp [hstack])
    have hcount := (hsane.uses_of_cons hstack).useCount
    have hafter := finishStatement_within hkeeps hconnection hstore
    have hopen : (state.finishStatement effect).session.transactionStack = top :: parents := by
      simp [hstack]
    have hheld : (state.finishStatement effect).session.connection = some connection := by
      have hmore : state.session.connectionUseCount - 1 ≠ 0 := by omega
      simp [State.finishStatement, execute_some _ hconnection, State.releaseConnection, hmore,
        hconnection]
    refine ⟨⟨fun hnone => ?_, fun _ => ⟨connection, _, hheld, by rw [hafter]⟩⟩, ?_⟩
    · rw [hopen] at hnone
      cases hnone
    · rw [hafter]
      rfl

theorem matched_step (answers : Answers D) (call : Call D) (hsane : Sane state.uses state)
    (hmatched : Matched state) (hallowed : state.Allowed call) (horderly : answers.Orderly)
    (hcall : call.Orderly) : Matched (state.step answers call).1 := by
  cases call with
  | beginTransaction mode listener connectionFlags =>
      exact ((beginTransaction_begun hsane hmatched horderly rfl).matched hmatched).1
  | setTransactionSuccessful => exact (setTransactionSuccessful_matched hmatched rfl).1
  | endTransaction => exact (endTransaction_ended hmatched horderly rfl).matched hmatched
  | yieldTransaction throwIfUnsafe later =>
      exact (yieldTransaction_yielded hsane hmatched horderly hcall rfl).matched hmatched
  | startStatement type connectionFlags =>
      exact (startStatement_durable hsane hmatched horderly rfl).1
  | finishStatement effect => exact (finishStatement_durable hcall hsane hmatched hallowed).1

theorem Orderly.matched (h : Orderly state) : Matched state := by
  induction h with
  | start data => exact matched_start data
  | step answers call hbefore hallowed horderly hcall ih =>
      exact matched_step answers call hbefore.reachable.sane ih hallowed horderly hcall

/-- While the database never refuses to end a transaction and no statement begins or ends one
by itself, the database has one exactly while the session has, and a call changes the durable
data only as a statement outside of every transaction, or as the end of an only transaction in
which nothing failed: then all that was done in it becomes durable at once, and no transaction
is open, or, after yielding, one that goes on with these data. -/
theorem Orderly.durable_changes (h : Orderly state) (call : Call D)
    (hallowed : state.Allowed call) (horderly : answers.Orderly) (hcall : call.Orderly)
    (hafter : (state.step answers call).1 = after) :
    (state.session.transactionStack = [] ↔ state.store.working = []) ∧
      (KeptOrCommitted answers call.again call.Commits state after ∨
        ∃ effect, call = .finishStatement effect ∧ state.session.transactionStack = [] ∧
          after.store.durable = effect.apply state.store.durable) := by
  have hsane := h.reachable.sane
  have hmatched := h.matched
  refine ⟨⟨hmatched.idle, fun hidle => ?_⟩, ?_⟩
  · by_contra hopen
    obtain ⟨connection, data, -, hworking⟩ := hmatched.within hopen
    rw [hidle] at hworking
    cases hworking
  subst hafter
  cases call with
  | beginTransaction mode listener connectionFlags =>
      exact .inl (.inl ((beginTransaction_begun hsane hmatched horderly rfl).matched hmatched).2)
  | setTransactionSuccessful =>
      refine .inl (.inl ?_)
      exact congrArg Store.durable (setTransactionSuccessful_matched hmatched rfl).2
  | endTransaction =>
      have hended : Ended answers false state (state.step answers .endTransaction).1
          (state.endTransaction answers).2 := endTransaction_ended hmatched horderly rfl
      refine .inl ?_
      simpa [KeptOrCommitted, Call.Commits, Call.again] using hended.keptOrCommitted none
  | yieldTransaction throwIfUnsafe later =>
      exact .inl (yieldTransaction_yielded hsane hmatched horderly hcall rfl).keptOrCommitted
  | startStatement type connectionFlags =>
      exact .inl (startStatement_durable hsane hmatched horderly rfl).2
  | finishStatement effect =>
      have hfinished := (finishStatement_durable hcall hsane hmatched hallowed).2
      rcases hstack : state.session.transactionStack with _ | ⟨top, parents⟩
      · rw [hstack] at hfinished
        exact .inr ⟨effect, rfl, rfl, hfinished⟩
      · rw [hstack] at hfinished
        exact .inl (.inl hfinished)

/-- As long as some transaction is open, nothing becomes durable but by yielding. -/
theorem Orderly.durable_within (h : Orderly state) {call : Call D} (hallowed : state.Allowed call)
    (horderly : answers.Orderly) (hcall : call.Orderly) (hyield : call.again = none)
    (hbefore : state.session.transactionStack ≠ [])
    (hafter : (state.step answers call).1.session.transactionStack ≠ []) :
    (state.step answers call).1.store.durable = state.store.durable := by
  rcases (h.durable_changes call hallowed horderly hcall rfl).2 with
    hkept | ⟨effect, -, hempty, -⟩
  · rcases hkept with hsame | ⟨top, owner, data, -, -, -, -, -, ⟨hempty, -⟩ | ⟨later, hlater, -⟩⟩
    · exact hsame
    · exact absurd hempty hafter
    · rw [hyield] at hlater
      cases hlater
  · exact absurd hempty hbefore

theorem smooth_orderly (granted : Connection) (onEndThrows : Bool) :
    (smooth granted onEndThrows : Answers D).Orderly :=
  ⟨rfl, nofun⟩

theorem orderly_added : Orderly added :=
  .step _ _ (.step _ _ (.step _ _ (.start 0) trivial (smooth_orderly _ _) trivial) trivial
    (smooth_orderly _ _) trivial) Nat.one_pos (smooth_orderly _ _) trivial

theorem added_durable_changes :
    (added.session.transactionStack = [] ↔ added.store.working = []) ∧
      (KeptOrCommitted (smooth sampleConnection false) none
          (.startStatement .commit 0 : Call Nat).Commits added
          (added.step (smooth sampleConnection false) (.startStatement .commit 0)).1 ∨
        ∃ effect, Call.startStatement .commit 0 = .finishStatement effect ∧
          added.session.transactionStack = [] ∧
          (added.step (smooth sampleConnection false) (.startStatement .commit 0)).1.store.durable =
            effect.apply added.store.durable) :=
  orderly_added.durable_changes (.startStatement .commit 0) trivial (smooth_orderly _ _) trivial rfl

/-- Yielding makes all that the transaction and at last its listener have done durable and goes
on in a new one of the same mode and listener; or nothing happens; or, with an exception, the
transaction is over, and its work durable unless a listener has thrown. -/
theorem Orderly.yieldTransaction_cases (h : Orderly state) {throwIfUnsafe : Bool}
    {result : Except SessionException Bool} (horderly : answers.Orderly)
    (hlater : later.Orderly)
    (hyield : state.yieldTransaction answers later throwIfUnsafe = (after, result)) :
    after = state ∧ result ≠ .ok true ∨
      ∃ top owner data, state.session.transactionStack = [top] ∧ top.markedSuccessful = false ∧
        top.childFailed = false ∧ state.store.working = [(owner, data)] ∧
        (result = .ok true ∧
            after.session.transactionStack = [⟨top.mode, top.listener, false, false⟩] ∧
            (∃ granted, after.session.connection = some granted ∧
              after.store = ⟨answers.listened top.listener data, [(granted.connectionId,
                later.listened top.listener (answers.listened top.listener data))]⟩) ∨
          (∃ failure, result = .error failure ∧
            (after.store = ⟨answers.listened top.listener data, []⟩ ∨
              failure = .listener ∧ after.store = ⟨state.store.durable, []⟩)) ∧
            after.session.transactionStack = []) := by
  cases yieldTransaction_yielded h.reachable.sane h.matched horderly hlater hyield with
  | unchanged hresult => exact .inl ⟨rfl, hresult⟩
  | ended top connection data _ hstack hmarked hfailed hstore _ hcases =>
      refine .inr ⟨top, connection.connectionId, data, hstack, hmarked, hfailed,
        by rw [hstore], ?_⟩
      rcases hcases with ⟨hresult, hsame, hempty⟩ | ⟨⟨failure, hresult⟩, hended, hempty⟩ |
        ⟨hresult, hnew, granted, hgranted, hended⟩
      · exact .inr ⟨⟨_, hresult, .inr ⟨rfl, hsame⟩⟩, hempty⟩
      · exact .inr ⟨⟨failure, hresult, .inl hended⟩, hempty⟩
      · exact .inl ⟨hresult, hnew, granted, hgranted, hended⟩

def contended : Answers Nat :=
  { smooth sampleConnection false with shouldYield := .ok true }

def yielded : State Nat × Except SessionException Bool :=
  added.yieldTransaction contended (smooth sampleConnection false) true

theorem added_yieldTransaction_cases :
    yielded.1 = added ∧ yielded.2 ≠ .ok true ∨
      ∃ top owner data, added.session.transactionStack = [top] ∧ top.markedSuccessful = false ∧
        top.childFailed = false ∧ added.store.working = [(owner, data)] ∧
        (yielded.2 = .ok true ∧
            yielded.1.session.transactionStack = [⟨top.mode, top.listener, false, false⟩] ∧
            (∃ granted, yielded.1.session.connection = some granted ∧
              yielded.1.store = ⟨contended.listened top.listener data, [(granted.connectionId,
                (smooth sampleConnection false).listened top.listener
                  (contended.listened top.listener data))]⟩) ∨
          (∃ failure, yielded.2 = .error failure ∧
            (yielded.1.store = ⟨contended.listened top.listener data, []⟩ ∨
              failure = .listener ∧ yielded.1.store = ⟨added.store.durable, []⟩)) ∧
            yielded.1.session.transactionStack = []) := by
  have horderly : contended.Orderly := ⟨rfl, nofun⟩
  have hyield : added.yieldTransaction contended (smooth sampleConnection false) true =
      (yielded.1, yielded.2) := rfl
  exact orderly_added.yieldTransaction_cases horderly (smooth_orderly _ _) hyield

end Orderly

section Refused

variable {connectionId : Nat}

def Answers.Grants (connectionId : Nat) (answers : Answers D) : Prop :=
  ∀ connection, answers.acquired = .ok connection → connection.connectionId = connectionId

/-- The session has no transaction, but the database still has one on the connection. -/
structure Stranded (connectionId : Nat) (state : State D) : Prop where
  stack : state.session.transactionStack = []
  working : (state.store.working.lookup connectionId).isSome
  held : ∀ connection, state.session.connection = some connection →
    connection.connectionId = connectionId

theorem Stranded.releaseConnection (h : Stranded connectionId state) :
    Stranded connectionId state.releaseConnection := by
  refine ⟨by simpa using h.stack, by simpa using h.working, fun connection hconnection => ?_⟩
  unfold State.releaseConnection at hconnection
  dsimp only at hconnection
  split at hconnection
  · cases hconnection
  · exact h.held connection hconnection

theorem Stranded.acquireConnection (h : Stranded connectionId state)
    (hgrants : answers.Grants connectionId) (connectionFlags : BitVec 32) :
    Stranded connectionId (state.acquireConnection answers connectionFlags).1 ∧
      (state.acquireConnection answers connectionFlags).1.store = state.store := by
  unfold State.acquireConnection
  dsimp only
  split
  · rename_i connection hconnection
    exact ⟨⟨h.stack, h.working, h.held⟩, rfl⟩
  · split
    · exact ⟨h, rfl⟩
    · rename_i connection hacquired
      refine ⟨⟨h.stack, h.working, fun other hother => ?_⟩, rfl⟩
      obtain rfl : connection = other := Option.some.inj hother
      exact hgrants connection hacquired

theorem Stranded.beginOutermost (h : Stranded connectionId state) (mode : Int)
    (listener : Option Nat) :
    state.beginOutermost answers mode listener = (state.releaseConnection, .error .sql) := by
  unfold State.beginOutermost
  rcases hconnection : state.session.connection with _ | connection
  · simp [State.execute, hconnection]
  · have hopen : (state.store.working.lookup connection.connectionId).isSome := by
      rw [h.held connection hconnection]
      exact h.working
    rw [execute_some _ hconnection, Store.begin_of_open answers.beginThrows hopen]

theorem Stranded.beginTransaction (h : Stranded connectionId state)
    (hgrants : answers.Grants connectionId) {mode : Int} {listener : Option Nat}
    {connectionFlags : BitVec 32} {answer : Except SessionException Unit}
    (hbegin : state.beginTransaction answers mode listener connectionFlags = (after, answer)) :
    Stranded connectionId after ∧ after.store = state.store ∧
      ∃ failure, answer = .error failure := by
  have hunmarked : state.session.throwIfTransactionMarkedSuccessful = .ok () := by
    simp [Session.throwIfTransactionMarkedSuccessful, h.stack]
  rw [State.beginTransaction, hunmarked] at hbegin
  dsimp only at hbegin
  unfold State.beginTransactionUnchecked at hbegin
  split at hbegin
  · obtain ⟨rfl, rfl⟩ := Prod.mk.inj hbegin
    exact ⟨h, rfl, _, rfl⟩
  rw [if_pos (by simp [h.stack])] at hbegin
  have hacquired := h.acquireConnection hgrants connectionFlags
  rcases hacquire : state.acquireConnection answers connectionFlags with ⟨acquired, result⟩
  rw [hacquire] at hbegin hacquired
  rcases result with failure | _
  · obtain ⟨rfl, rfl⟩ := Prod.mk.inj hbegin
    exact ⟨hacquired.1, hacquired.2, _, rfl⟩
  · dsimp only at hbegin
    rw [hacquired.1.beginOutermost mode listener] at hbegin
    obtain ⟨rfl, rfl⟩ := Prod.mk.inj hbegin
    exact ⟨hacquired.1.releaseConnection, by simpa using hacquired.2, _, rfl⟩

theorem Stranded.startStatement (h : Stranded connectionId state)
    (hgrants : answers.Grants connectionId) (type : StatementType) (connectionFlags : BitVec 32) :
    Stranded connectionId (state.startStatement answers type connectionFlags).1 ∧
      (state.startStatement answers type connectionFlags).1.store = state.store := by
  have hmark : state.setTransactionSuccessful = (state, .error .noTransaction) := by
    simp [State.setTransactionSuccessful, h.stack]
  have hend : state.endTransaction answers = (state, .error .noTransaction) := by
    simp [State.endTransaction, Session.throwIfNoTransaction, h.stack]
  unfold State.startStatement State.executeSpecial
  rcases hcanceled : answers.canceled with _ | _
  · rw [if_neg Bool.false_ne_true]
    cases type with
    | begin =>
        rcases hbegin : state.beginTransaction answers transactionModeExclusive none
          connectionFlags with ⟨begun, answer⟩
        obtain ⟨hbegun, hstore, failure, rfl⟩ := h.beginTransaction hgrants hbegin
        exact ⟨hbegun, hstore⟩
    | commit =>
        dsimp only
        rw [hmark]
        exact ⟨h, rfl⟩
    | abort =>
        dsimp only
        rw [hend]
        exact ⟨h, rfl⟩
    | other =>
        have hacquired := h.acquireConnection hgrants connectionFlags
        rcases hacquire : state.acquireConnection answers connectionFlags with
          ⟨acquired, failure | _⟩
        · rw [hacquire] at hacquired
          simpa [hacquire] using hacquired
        · rw [hacquire] at hacquired
          obtain ⟨⟨hstack, hworking, hheld⟩, hstore⟩ := hacquired
          simpa [hacquire] using ⟨⟨hstack, hworking, hheld⟩, hstore⟩
  · exact ⟨h, rfl⟩

/-- Even a statement without a transaction goes into the one that was left open. -/
theorem Stranded.finishStatement (h : Stranded connectionId state) {effect : Effect D}
    (hkeeps : effect.Keeps) :
    Stranded connectionId (state.finishStatement effect) ∧
      (state.finishStatement effect).store.durable = state.store.durable := by
  unfold State.finishStatement
  dsimp only
  rcases hconnection : state.session.connection with _ | connection
  · rw [State.execute, hconnection]
    dsimp only
    have hfewer : Stranded connectionId { state with statements := state.statements - 1 } :=
      ⟨h.stack, h.working, h.held⟩
    exact ⟨hfewer.releaseConnection, by simp⟩
  · rw [execute_some _ hconnection]
    dsimp only
    rw [h.held connection hconnection]
    have hrun := Store.run_of_open hkeeps h.working
    have hchanged : Stranded connectionId { state with
        store := state.store.run effect connectionId
        statements := state.statements - 1 } := ⟨h.stack, hrun.2, h.held⟩
    exact ⟨hchanged.releaseConnection, by simpa using hrun.1⟩

theorem Stranded.step (h : Stranded connectionId state) (hgrants : answers.Grants connectionId)
    {call : Call D} (hkeeps : call.Keeps) :
    Stranded connectionId (state.step answers call).1 ∧
      (state.step answers call).1.store.durable = state.store.durable := by
  cases call with
  | beginTransaction mode listener connectionFlags =>
      obtain ⟨hbegun, hstore, -⟩ := h.beginTransaction hgrants (Prod.eta _).symm
      exact ⟨hbegun, congrArg Store.durable hstore⟩
  | setTransactionSuccessful =>
      have hmark : state.setTransactionSuccessful = (state, .error .noTransaction) := by
        simp [State.setTransactionSuccessful, h.stack]
      rw [State.step, hmark]
      exact ⟨h, rfl⟩
  | endTransaction =>
      have hend : state.endTransaction answers = (state, .error .noTransaction) := by
        simp [State.endTransaction, Session.throwIfNoTransaction, h.stack]
      rw [State.step, hend]
      exact ⟨h, rfl⟩
  | yieldTransaction throwIfUnsafe later =>
      have hyield : (state.yieldTransaction answers later throwIfUnsafe).1 = state := by
        simp [State.yieldTransaction, h.stack]
      rw [State.step, hyield]
      exact ⟨h, rfl⟩
  | startStatement type connectionFlags =>
      obtain ⟨hstarted, hstore⟩ := h.startStatement hgrants type connectionFlags
      exact ⟨hstarted, congrArg Store.durable hstore⟩
  | finishStatement effect => exact h.finishStatement hkeeps

theorem Stranded.perform (h : Stranded connectionId state) (calls : List (Answers D × Call D))
    (hcalls : ∀ call ∈ calls, call.1.Grants connectionId ∧ call.2.Keeps) :
    Stranded connectionId (state.perform calls) ∧
      (state.perform calls).store.durable = state.store.durable := by
  induction calls generalizing state with
  | nil => exact ⟨h, rfl⟩
  | cons call calls ih =>
      obtain ⟨answers, call⟩ := call
      obtain ⟨hgrants, hkeeps⟩ := hcalls _ List.mem_cons_self
      have hstep := h.step hgrants hkeeps
      have hrest := ih hstep.1 fun later hlater => hcalls later (List.mem_cons_of_mem _ hlater)
      exact ⟨hrest.1, hrest.2.trans hstep.2⟩

/-- The session forgets a transaction that the database has refused to end, but the
connection goes back to the pool with it. -/
theorem stranded_of_refused {top : Transaction} {connection : Connection}
    (hmatched : Matched state) (hstack : state.session.transactionStack = [top])
    (hconnection : state.session.connection = some connection)
    (hcanceled : answers.canceled = false) (hrefused : answers.ending = .refused)
    (hkeeps : ∀ effect ∈ answers.heard, effect.Keeps) :
    (state.step answers .endTransaction).2 = .error .sql ∧
      Stranded connection.connectionId (state.step answers .endTransaction).1 ∧
      (state.step answers .endTransaction).1.store.durable = state.store.durable := by
  obtain ⟨held, data, hheld, hstore⟩ := hmatched.store_within (by simp [hstack])
  obtain rfl : held = connection := Option.some.inj (hheld.symm.trans hconnection)
  have hlistened : (state.popped answers top).store = ⟨state.store.durable,
      [(held.connectionId, answers.listened top.listener data)]⟩ := by
    rw [State.popped, listen_only top.listener hheld hstore hkeeps]
  have hstill : (state.popped answers top).session.connection = some held := by
    simpa [State.popped, Session.recycleTransaction] using hheld
  have hstays : ∀ successful : Bool, (if successful = true then
      Store.commit answers.ending else Store.rollback answers.ending) held.connectionId
        (state.popped answers top).store = ((state.popped answers top).store, false) := by
    intro successful
    rw [hrefused]
    cases successful <;> rfl
  have hend : ∀ successful listenerThrew,
      (state.popped answers top).endOutermost answers successful listenerThrew =
        ((state.popped answers top).releaseConnection, .error .sql) := by
    intro successful listenerThrew
    have hsame : (state.popped answers top).execute (if successful = true then
        Store.commit answers.ending else Store.rollback answers.ending) =
          (state.popped answers top, false) := by
      rw [execute_some _ hstill, hstays]
    rw [State.endOutermost, hsame]
  have hstep : state.endTransaction answers =
      ((state.popped answers top).releaseConnection, .error .sql) := by
    rw [State.endTransaction]
    simp only [Session.throwIfNoTransaction, hstack, List.isEmpty_cons, Bool.false_eq_true,
      if_false]
    rw [endTransactionUnchecked_outermost hstack hcanceled]
    exact hend _ _
  have hpopped : Stranded held.connectionId (state.popped answers top) := by
    refine ⟨by simp [State.popped, Session.recycleTransaction], by simp [hlistened],
      fun other hother => ?_⟩
    obtain rfl : held = other := Option.some.inj (hstill.symm.trans hother)
    rfl
  rw [State.step, hstep]
  exact ⟨rfl, hpopped.releaseConnection, by simp [hlistened]⟩

/-- When the database refuses the end of an outermost transaction and the pool has no other
connection to grant, no transaction can begin on it any more, none of the session's calls
ends the one left open, and nothing that is written later becomes durable, unless a
statement ends that transaction by itself. -/
theorem Orderly.refused_end_final (h : Orderly state) {top : Transaction}
    {connection : Connection} (hstack : state.session.transactionStack = [top])
    (hconnection : state.session.connection = some connection)
    (hcanceled : answers.canceled = false) (hrefused : answers.ending = .refused)
    (hkeeps : ∀ effect ∈ answers.heard, effect.Keeps)
    (calls : List (Answers D × Call D))
    (hcalls : ∀ call ∈ calls, call.1.Grants connection.connectionId ∧ call.2.Keeps) :
    (state.step answers .endTransaction).2 = .error .sql ∧
      ((state.step answers .endTransaction).1.perform calls).store.durable =
        state.store.durable ∧
      ∀ (later : Answers D) (mode : Int) (listener : Option Nat) (connectionFlags : BitVec 32),
        later.Grants connection.connectionId →
        ∃ failure, (((state.step answers .endTransaction).1.perform calls).step later
          (.beginTransaction mode listener connectionFlags)).2 = .error failure := by
  obtain ⟨hanswer, hstranded, hsame⟩ :=
    stranded_of_refused h.matched hstack hconnection hcanceled hrefused hkeeps
  have hrun := hstranded.perform calls hcalls
  refine ⟨hanswer, hrun.2.trans hsame, fun later mode listener connectionFlags hlater => ?_⟩
  generalize (state.step answers .endTransaction).1.perform calls = left at hrun ⊢
  rcases hbegin : left.beginTransaction later mode listener connectionFlags with ⟨begun, answer⟩
  obtain ⟨-, -, failure, rfl⟩ := hrun.1.beginTransaction hlater hbegin
  exact ⟨failure, by rw [State.step, hbegin]; rfl⟩

/-- The commit is refused, and a statement has added `3` since. -/
def strandedAdded : State Nat :=
  (added.step { smooth sampleConnection false with ending := .refused } .endTransaction).1.perform
    [(smooth sampleConnection false, .startStatement .other 0),
      (smooth sampleConnection false, .finishStatement (.update (· + 3)))]

theorem strandedAdded_final :
    strandedAdded.store.durable = 0 ∧
      ∃ failure, (strandedAdded.step (smooth sampleConnection false)
        (.beginTransaction transactionModeExclusive none 0)).2 = .error failure := by
  have hgrants : (smooth sampleConnection false : Answers Nat).Grants
      sampleConnection.connectionId :=
    fun connection hconnection => congrArg Connection.connectionId (Except.ok.inj hconnection).symm
  have hrefused : ({ smooth sampleConnection false with ending := .refused } :
      Answers Nat).ending = .refused := rfl
  have hfinal := orderly_added.refused_end_final rfl rfl rfl hrefused nofun
    [(smooth sampleConnection false, .startStatement .other 0),
      (smooth sampleConnection false, .finishStatement (.update (· + 3)))]
    (by
      intro call hcall
      rcases List.mem_pair.mp hcall with rfl | rfl <;> exact ⟨hgrants, trivial⟩)
  exact ⟨hfinal.2.1, hfinal.2.2 _ _ none 0 hgrants⟩

end Refused

end LSTAndroid.SQLiteSession
