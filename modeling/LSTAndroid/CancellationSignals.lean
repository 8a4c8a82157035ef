import LSTAndroid.StatementSafety

namespace LSTAndroid.StatementCache

variable {connection after : Connection} {answers : Answers} {sql : String}

section Signals

/-- The signals that were passed to what runs, innermost first. -/
def Connection.signals (connection : Connection) : List Nat :=
  connection.running.filterMap Prod.snd

/-- Only the outermost signal calls back, as long as its statement runs. -/
structure Signalled (connection : Connection) : Prop where
  count : connection.cancellationSignalAttachCount = connection.signals.length
  listening : connection.listening = connection.signals.getLast?.toList
  cancelable : connection.cancelable = !connection.signals.isEmpty

theorem Signalled.frame (h : Signalled connection) (hsame : SameSignals connection after) :
    Signalled after := by
  have hsignals : after.signals = connection.signals := by
    rw [Connection.signals, hsame.running]
    rfl
  refine ⟨?_, ?_, ?_⟩
  · rw [hsame.count, hsignals, h.count]
  · rw [hsame.listening, hsignals, h.listening]
  · rw [hsame.cancelable, hsignals, h.cancelable]

theorem Signalled.attach (h : Signalled connection) {signal : Option Nat}
    (hattach : connection.attachCancellationSignal answers signal = (after, true))
    (statement : Nat) :
    Signalled { after with running := (statement, signal) :: after.running } := by
  obtain ⟨hcount, hlistening, hcancelable⟩ := h
  unfold Connection.attachCancellationSignal at hattach
  cases signal with
  | none =>
      obtain ⟨rfl, -⟩ := Prod.mk.inj hattach
      exact ⟨hcount, hlistening, hcancelable⟩
  | some signal =>
      dsimp only at hattach
      split at hattach
      · cases (Prod.mk.inj hattach).2
      rcases hsignals : connection.signals with _ | ⟨first, others⟩
      · rw [hsignals] at hcount hlistening
        have hfirst : connection.cancellationSignalAttachCount + 1 = 1 := congrArg Nat.succ hcount
        rw [if_pos hfirst] at hattach
        obtain ⟨rfl, -⟩ := Prod.mk.inj hattach
        have hnew : Connection.signals { connection with
            running := (statement, some signal) :: connection.running } = [signal] :=
          congrArg (List.cons signal) hsignals
        refine ⟨?_, ?_, ?_⟩
        · exact (congrArg Nat.succ hcount).trans (congrArg List.length hnew).symm
        · exact (congrArg (List.cons signal) hlistening).trans
            (congrArg (fun signals => signals.getLast?.toList) hnew).symm
        · exact (congrArg (fun signals => !List.isEmpty signals) hnew).symm
      · rw [hsignals] at hcount hlistening hcancelable
        have hnested : connection.cancellationSignalAttachCount + 1 ≠ 1 := by
          rw [hcount, List.length_cons]
          omega
        rw [if_neg hnested] at hattach
        obtain ⟨rfl, -⟩ := Prod.mk.inj hattach
        have hnew : Connection.signals { connection with
            running := (statement, some signal) :: connection.running } =
              signal :: first :: others :=
          congrArg (List.cons signal) hsignals
        refine ⟨?_, ?_, ?_⟩
        · exact (congrArg Nat.succ hcount).trans (congrArg List.length hnew).symm
        · have hlast : (signal :: first :: others).getLast? = (first :: others).getLast? :=
            List.getLast?_cons_cons
          rw [← hlast] at hlistening
          exact hlistening.trans (congrArg (fun signals => signals.getLast?.toList) hnew).symm
        · exact hcancelable.trans (congrArg (fun signals => !List.isEmpty signals) hnew).symm

theorem Signalled.detach {statement : Nat} {signal : Option Nat}
    {others : List (Nat × Option Nat)} (h : Signalled connection)
    (hrunning : connection.running = (statement, signal) :: others) :
    Signalled ({ connection with running := others }.detachCancellationSignal signal) := by
  obtain ⟨hcount, hlistening, hcancelable⟩ := h
  have hsignals : connection.signals = signal.toList ++ others.filterMap Prod.snd := by
    rw [Connection.signals, hrunning]
    cases signal <;> rfl
  rw [hsignals] at hcount hlistening hcancelable
  unfold Connection.detachCancellationSignal
  cases signal with
  | none => exact ⟨hcount, hlistening, hcancelable⟩
  | some signal =>
      dsimp only
      rcases hothers : others.filterMap Prod.snd with _ | ⟨first, rest⟩
      · rw [hothers] at hcount hlistening
        have hzero : connection.cancellationSignalAttachCount - 1 = 0 := by
          rw [hcount]
          rfl
        rw [if_pos hzero]
        refine ⟨?_, ?_, ?_⟩
        · exact hzero.trans (congrArg List.length hothers).symm
        · dsimp only [Connection.signals]
          rw [hothers, hlistening]
          simp
        · exact (congrArg (fun signals => !List.isEmpty signals) hothers).symm
      · rw [hothers] at hcount hlistening hcancelable
        have hpos : connection.cancellationSignalAttachCount - 1 ≠ 0 := by
          rw [hcount]
          simp
        rw [if_neg hpos]
        refine ⟨?_, ?_, ?_⟩
        · dsimp only [Connection.signals]
          rw [hothers, hcount]
          simp
        · dsimp only [Connection.signals]
          rw [hothers, hlistening]
          rfl
        · exact hcancelable.trans (congrArg (fun signals => !List.isEmpty signals) hothers).symm

theorem Signalled.startExecution (h : Signalled connection) {bindArgs : Nat}
    {signal : Option Nat} {result : Except StatementException Nat}
    (hstart : connection.startExecution answers sql bindArgs signal = (after, result)) :
    Signalled after := by
  unfold Connection.startExecution at hstart
  have hsame := SameSignals.acquirePreparedStatement answers sql connection
  rcases hacquire : connection.acquirePreparedStatement answers sql with ⟨acquired, answer⟩
  rw [hacquire] at hstart hsame
  have hacquired := h.frame hsame
  rcases answer with failure | statement
  · obtain ⟨rfl, -⟩ := Prod.mk.inj hstart
    exact hacquired
  · have hfailed := hacquired.frame (.releasePreparedStatement answers statement acquired)
    dsimp only at hstart
    split at hstart
    · obtain ⟨rfl, -⟩ := Prod.mk.inj hstart
      exact hfailed
    split at hstart
    · obtain ⟨rfl, -⟩ := Prod.mk.inj hstart
      exact hfailed
    split at hstart
    · obtain ⟨rfl, -⟩ := Prod.mk.inj hstart
      exact hfailed
    split at hstart
    · obtain ⟨rfl, -⟩ := Prod.mk.inj hstart
      exact hfailed
    · rename_i attached hattach
      obtain ⟨rfl, -⟩ := Prod.mk.inj hstart
      exact hacquired.attach hattach statement

theorem Reachable.signalled (h : Reachable connection) : Signalled connection := by
  induction h with
  | opened hopen =>
      unfold Connection.open? at hopen
      split at hopen
      · obtain rfl := Option.some.inj hopen
        exact ⟨rfl, rfl, rfl⟩
      · cases hopen
  | @step connection answers call _ ih =>
      cases call with
      | isPreparedStatementInCache sql => exact ih.frame ⟨rfl, rfl, rfl, rfl⟩
      | setOnlyAllowReadOnlyOperations readOnly => exact ih.frame ⟨rfl, rfl, rfl, rfl⟩
      | prepare sql =>
          have hacquired := ih.frame (.acquirePreparedStatement answers sql connection)
          rw [Connection.step, Connection.prepare]
          rcases hacquire : connection.acquirePreparedStatement answers sql with
            ⟨acquired, failure | statement⟩
          · rw [hacquire] at hacquired
            exact hacquired
          · rw [hacquire] at hacquired
            exact hacquired.frame (.releasePreparedStatement answers statement acquired)
      | startExecution sql bindArgs signal => exact ih.startExecution rfl
      | finishExecution =>
          rw [Connection.step, Connection.finishExecution]
          rcases hrunning : connection.running with _ | ⟨⟨statement, signal⟩, others⟩
          · exact ih
          · exact (ih.detach hrunning).frame (.releasePreparedStatement answers statement _)

/-- After any calls, one inside the other, the connection counts the running statements that
were given a signal; it can be canceled while there are any, by the outermost signal alone,
and once they have all returned no signal calls it back any more. -/
theorem Reachable.cancellation_balanced (h : Reachable connection) :
    connection.cancellationSignalAttachCount = (connection.running.filterMap Prod.snd).length ∧
      connection.listening = (connection.running.filterMap Prod.snd).getLast?.toList ∧
      (connection.cancelable = true ↔ connection.running.filterMap Prod.snd ≠ []) := by
  obtain ⟨hcount, hlistening, hcancelable⟩ := h.signalled
  refine ⟨hcount, hlistening, ?_⟩
  rw [hcancelable, Connection.signals]
  simp

theorem nested_cancellation_balanced :
    nested.cancellationSignalAttachCount = (nested.running.filterMap Prod.snd).length ∧
      nested.listening = (nested.running.filterMap Prod.snd).getLast?.toList ∧
      (nested.cancelable = true ↔ nested.running.filterMap Prod.snd ≠ []) :=
  careful_nested.reachable.cancellation_balanced

end Signals

end LSTAndroid.StatementCache
