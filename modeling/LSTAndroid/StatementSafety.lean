import LSTAndroid.StatementOwnership

namespace LSTAndroid.StatementCache

open LSTAndroid.Library.RecencyCache

variable {connection after : Connection} {answers : Answers} {held : List Nat} {statement : Nat}
  {sql : String}

section Calls

theorem Kept.entry_eq_iff (h : Kept held connection) {first second : String × Nat}
    (hfirst : first ∈ connection.preparedStatementCache.entries)
    (hsecond : second ∈ connection.preparedStatementCache.entries) :
    first.1 = second.1 ↔ first.2 = second.2 := by
  obtain ⟨text, statement⟩ := first
  obtain ⟨other, another⟩ := second
  constructor
  · rintro rfl
    have hnodup := connection.preparedStatementCache.keys_nodup
    have hfound := (lookup_eq_some_iff hnodup).mpr hfirst
    have hagain := (lookup_eq_some_iff hnodup).mpr hsecond
    exact Option.some.inj (hfound.symm.trans hagain)
  · rintro rfl
    have htext := (h.cached text _ hfirst).2.1
    have hother := (h.cached other _ hsecond).2.1
    exact Option.some.inj (htext.symm.trans hother)

theorem Kept.mem_remove_iff (h : Kept held connection) {entry : String × Nat}
    (hentry : entry ∈ connection.preparedStatementCache.entries) (other : String × Nat) :
    other ∈ (connection.preparedStatementCache.remove entry.1).1.entries ↔
      other ∈ connection.preparedStatementCache.entries ∧ other.2 ≠ entry.2 := by
  rw [LruCache.mem_remove]
  constructor
  · rintro ⟨hother, hne⟩
    exact ⟨hother, fun heq => hne ((h.entry_eq_iff hother hentry).mpr heq)⟩
  · rintro ⟨hother, hne⟩
    exact ⟨hother, fun heq => hne ((h.entry_eq_iff hother hentry).mp heq)⟩

/-- The eldest statement, which a full cache drops, runs without being marked. -/
def EldestAtRisk (held : List Nat) (connection : Connection) : Prop :=
  connection.preparedStatementCache.entries.length = connection.preparedStatementCache.maxSize ∧
    ∃ entry ∈ connection.preparedStatementCache.entries.head?,
      entry.2 ∈ held ∧ (connection.statements entry.2).inUse = false

theorem Kept.putStatement (h : Kept held connection) (hheld : statement ∈ held)
    (hsql : (connection.statements statement).sql = some sql)
    (huncached : (connection.statements statement).inCache = false)
    (hmissing : sql ∉ connection.preparedStatementCache.entries.map Prod.fst)
    (hsafe : ¬ EldestAtRisk held connection) :
    Kept held ((connection.putStatement sql statement).setStatement statement
        fun object => { object with inCache := true }) ∧
      ((connection.putStatement sql statement).statements statement).sql = some sql := by
  have hput : (connection.preparedStatementCache.put sql statement).2 = _ ∧
    (connection.preparedStatementCache.put sql statement).1.entries = _ :=
      LruCache.put_of_missing hmissing
  obtain ⟨hremoved, hentries⟩ := hput
  unfold Connection.putStatement
  dsimp only
  rw [hremoved]
  by_cases hfull : connection.preparedStatementCache.entries.length =
    connection.preparedStatementCache.maxSize
  · rw [if_pos hfull] at hentries ⊢
    rcases hall : connection.preparedStatementCache.entries with _ | ⟨eldest, rest⟩
    · rw [hall] at hfull
      exact absurd hfull (Nat.ne_of_lt connection.preparedStatementCache.maxSize_pos)
    · have heldest : eldest ∈ connection.preparedStatementCache.entries := by simp [hall]
      have hne : statement ≠ eldest.2 := by
        rintro rfl
        have hflag := (h.cached eldest.1 eldest.2 heldest).2.2
        rw [huncached] at hflag
        cases hflag
      have hmarked : eldest.2 ∈ held → (connection.statements eldest.2).inUse = true := by
        intro hrunning
        by_contra hunmarked
        exact hsafe ⟨hfull, eldest, by simp [hall], hrunning, by simpa using hunmarked⟩
      have hevicted : Kept held ({ connection with preparedStatementCache :=
          (connection.preparedStatementCache.remove eldest.1).1 }.entryRemoved eldest.2) :=
        h.entryRemoved heldest hmarked (h.mem_remove_iff heldest)
      have hkeeps : ((connection.entryRemoved eldest.2).statements statement).sql = some sql := by
        rw [Connection.entryRemoved_statements_of_ne hne, hsql]
      rw [Connection.entryRemoved_cache] at hevicted
      simp only [List.take_succ_cons, List.take_zero, List.map_cons, List.map_nil,
        List.foldl_cons, List.foldl_nil]
      rw [Connection.entryRemoved_cache]
      refine ⟨hevicted.insert hheld hkeeps fun entry => ?_, hkeeps⟩
      have hkeys := connection.preparedStatementCache.keys_nodup
      rw [hall] at hkeys hentries
      have hrest : eldest.1 ∉ rest.map Prod.fst := (List.nodup_cons.mp hkeys).1
      rw [hentries, LruCache.mem_remove, hall]
      simp only [List.drop_succ_cons, List.drop_zero, List.mem_append, List.mem_cons,
        List.not_mem_nil, or_false]
      constructor
      · rintro (hmem | rfl)
        · refine .inl ⟨.inr hmem, fun heq => hrest ?_⟩
          exact heq ▸ List.mem_map.mpr ⟨entry, hmem, rfl⟩
        · exact .inr rfl
      · rintro (⟨rfl | hmem, hdifferent⟩ | rfl)
        · exact absurd rfl hdifferent
        · exact .inl hmem
        · exact .inr rfl
  · rw [if_neg hfull] at hentries ⊢
    refine ⟨h.insert hheld hsql fun entry => ?_, hsql⟩
    rw [hentries]
    simp

theorem Kept.releasePreparedStatement (h : Kept (statement :: held) connection)
    (answers : Answers) : Kept held (connection.releasePreparedStatement answers statement) := by
  have hidle : ((connection.setStatement statement fun object =>
      { object with inUse := false }).statements statement).inUse = false := by
    rw [Connection.setStatement_statements, if_pos rfl]
  have hreleased : Kept (statement :: held) (connection.setStatement statement fun object =>
      { object with inUse := false }) :=
    h.setStatement (fun _ => rfl) (fun _ => rfl) (fun _ => rfl) fun _ => List.mem_cons_self
  have hfree := (List.nodup_cons.mp h.held_nodup).1
  unfold Connection.releasePreparedStatement
  dsimp only
  generalize connection.setStatement statement (fun object => { object with inUse := false }) =
    released at hidle hreleased
  split
  · rename_i hcached
    have hdropped := hreleased.drop hcached hidle
    split
    · obtain ⟨text, hmem⟩ := hdropped.inCache statement hcached
      have htext := (hdropped.cached text statement hmem).2.1
      split
      · rename_i sql hsql
        obtain rfl : text = sql := Option.some.inj (htext.symm.trans hsql)
        have hfound := (lookup_eq_some_iff released.preparedStatementCache.keys_nodup).mpr hmem
        have hremoved : (released.preparedStatementCache.remove text).2 = some statement := hfound
        rw [hremoved]
        exact hdropped.entryRemoved hmem (fun hheld => absurd hheld hfree)
          (hdropped.mem_remove_iff hmem)
      · exact hdropped
    · exact hdropped
  · rename_i huncached
    exact hreleased.finalizePreparedStatement (by simpa using huncached) hidle

/-- A statement that runs without being marked would be handed out again, or finalized. -/
def Hazard (held : List Nat) (answers : Answers) (sql : String) (connection : Connection) : Prop :=
  match connection.preparedStatementCache.entries.lookup sql with
  | some statement => statement ∈ held ∧ (connection.statements statement).inUse = false
  | none => answers.prepares = true ∧ answers.inspectionThrows = false ∧
      isCacheable answers.type = true ∧ EldestAtRisk held connection

def Acquired (held : List Nat) (sql : String) (connection after : Connection)
    (result : Except StatementException Nat) : Prop :=
  after.running = connection.running ∧ match result with
    | .error _ => Kept held after
    | .ok statement => Kept (statement :: held) after ∧
        (after.statements statement).sql = some sql

theorem Kept.prepareStatement (h : Kept held connection) {found : Option Nat}
    {result : Except StatementException Nat}
    (hmissing : found = none → sql ∉ connection.preparedStatementCache.entries.map Prod.fst)
    (hsafe : found = none → answers.prepares = true → answers.inspectionThrows = false →
      isCacheable answers.type = true → ¬ EldestAtRisk held connection)
    (hprepare : connection.prepareStatement answers sql found = (after, result)) :
    Acquired held sql connection after result := by
  unfold Connection.prepareStatement at hprepare
  split at hprepare
  · obtain ⟨rfl, rfl⟩ := Prod.mk.inj hprepare
    exact ⟨rfl, h⟩
  rename_i hprepares
  have hprepares : answers.prepares = true := by simpa using hprepares
  dsimp only at hprepare
  split at hprepare
  · -- The object that the variable still holds decides who gives the native statement up.
    have hfinalized : Kept held (({ connection with prepared := connection.prepared + 1 } :
        Connection).nativeFinalizeStatement connection.prepared) :=
      h.giveUp (List.Perm.refl _)
    have hlost : Kept held { connection with
        prepared := connection.prepared + 1, lost := connection.prepared :: connection.lost } :=
      h.giveUp List.perm_middle
    split at hprepare
    · split at hprepare
      · obtain ⟨rfl, rfl⟩ := Prod.mk.inj hprepare
        exact ⟨rfl, hlost⟩
      · obtain ⟨rfl, rfl⟩ := Prod.mk.inj hprepare
        exact ⟨rfl, hfinalized⟩
    · obtain ⟨rfl, rfl⟩ := Prod.mk.inj hprepare
      exact ⟨rfl, hfinalized⟩
  · rename_i hinspects
    have hinspects : answers.inspectionThrows = false := by simpa using hinspects
    rcases hobtain : Connection.obtainPreparedStatement sql connection.prepared answers
      { connection with prepared := connection.prepared + 1 } with ⟨obtained, statement⟩
    rw [hobtain] at hprepare
    have hnew := h.obtained hobtain
    have hheld := hnew.kept h
    have hsql : (obtained.statements statement).sql = some sql := by rw [hnew.object]
    have hmark : ∀ {between : Connection}, Kept (statement :: held) between →
        Kept (statement :: held) (between.setStatement statement fun object =>
          { object with inUse := true }) := fun hbetween =>
      hbetween.setStatement (fun _ => rfl) (fun _ => rfl) (fun _ => rfl)
        fun _ => List.mem_cons_self
    split at hprepare
    · rename_i hcache
      obtain ⟨hnone, hcacheable⟩ := Bool.and_eq_true_iff.mp hcache
      have hnone : found = none := by simpa using hnone
      have hsafe : ¬ EldestAtRisk (statement :: held) obtained := by
        rintro ⟨hfull, entry, hentry, hrunning, hunmarked⟩
        rw [hnew.cache] at hfull hentry
        have hlive := (h.cached entry.1 entry.2 (List.mem_of_mem_head? hentry)).1
        have hne : entry.2 ≠ statement := by
          intro heq
          exact hnew.fresh (heq ▸ hlive)
        rw [hnew.others _ hne] at hunmarked
        exact hsafe hnone hprepares hinspects hcacheable
          ⟨hfull, entry, hentry, (List.mem_cons.mp hrunning).resolve_left hne, hunmarked⟩
      obtain ⟨hput, hkeeps⟩ := hheld.putStatement List.mem_cons_self hsql (by rw [hnew.object])
        (by rw [hnew.cache]; exact hmissing hnone) hsafe
      obtain ⟨rfl, rfl⟩ := Prod.mk.inj hprepare
      have hrunning := (SameSignals.putStatement sql statement obtained).running
      refine ⟨hrunning.trans hnew.running, hmark hput, ?_⟩
      rw [Connection.setStatement_statements, if_pos rfl, Connection.setStatement_statements,
        if_pos rfl]
      exact hkeeps
    · obtain ⟨rfl, rfl⟩ := Prod.mk.inj hprepare
      refine ⟨hnew.running, hmark hheld, ?_⟩
      rw [Connection.setStatement_statements, if_pos rfl, hnew.object]

theorem Kept.acquirePreparedStatement (h : Kept held connection)
    {result : Except StatementException Nat} (hsafe : ¬ Hazard held answers sql connection)
    (hacquire : connection.acquirePreparedStatement answers sql = (after, result)) :
    Acquired held sql connection after result := by
  have hmem : ∀ entry, entry ∈ (connection.preparedStatementCache.get sql).1.entries ↔
      entry ∈ connection.preparedStatementCache.entries := fun _ => LruCache.mem_get
  have htouched := h.touch hmem
  unfold Hazard at hsafe
  rw [← LruCache.get_snd] at hsafe
  unfold Connection.acquirePreparedStatement at hacquire
  dsimp only at hacquire
  rcases hfound : (connection.preparedStatementCache.get sql).2 with _ | statement
  · rw [hfound] at hacquire hsafe
    obtain ⟨hsame, hmissing⟩ := LruCache.get_of_missing hfound
    rw [hsame] at hacquire
    refine h.prepareStatement (fun _ => hmissing) (fun _ hprepares hinspects hcacheable hrisk => ?_)
      hacquire
    exact hsafe ⟨hprepares, hinspects, hcacheable, hrisk⟩
  · rw [hfound] at hacquire hsafe
    have hentry := LruCache.mem_of_get hfound
    obtain ⟨hlive, hsql, hcached⟩ := h.cached sql statement hentry
    dsimp only at hacquire hsafe
    split at hacquire
    · rename_i hidle
      obtain ⟨rfl, rfl⟩ := Prod.mk.inj hacquire
      have hidle : (connection.statements statement).inUse = false := by simpa using hidle
      have hfree : statement ∉ held := fun hheld => hsafe ⟨hheld, hidle⟩
      exact ⟨rfl, htouched.hold hlive hfree, hsql⟩
    · exact htouched.prepareStatement (fun hnone => absurd hnone (Option.some_ne_none _))
        (fun hnone => absurd hnone (Option.some_ne_none _)) hacquire

theorem attachCancellationSignal_frame (answers : Answers) (signal : Option Nat)
    (connection : Connection) :
    ∃ count listening cancelable, (connection.attachCancellationSignal answers signal).1 =
      { connection with
        cancellationSignalAttachCount := count
        listening := listening
        cancelable := cancelable } := by
  unfold Connection.attachCancellationSignal
  cases signal with
  | none => exact ⟨_, _, _, rfl⟩
  | some signal =>
      dsimp only
      split
      · exact ⟨_, _, _, rfl⟩
      · split
        · exact ⟨_, _, _, rfl⟩
        · exact ⟨_, _, _, rfl⟩

theorem detachCancellationSignal_frame (signal : Option Nat) (connection : Connection) :
    ∃ count listening cancelable, connection.detachCancellationSignal signal =
      { connection with
        cancellationSignalAttachCount := count
        listening := listening
        cancelable := cancelable } := by
  unfold Connection.detachCancellationSignal
  cases signal with
  | none => exact ⟨_, _, _, rfl⟩
  | some signal =>
      dsimp only
      split
      · exact ⟨_, _, _, rfl⟩
      · exact ⟨_, _, _, rfl⟩

theorem Kept.frame (h : Kept held connection) (readOnly : Bool) (count : Nat)
    (running : List (Nat × Option Nat)) (listening : List Nat) (cancelable : Bool) :
    Kept held { connection with
      onlyAllowReadOnlyOperations := readOnly
      cancellationSignalAttachCount := count
      running := running
      listening := listening
      cancelable := cancelable } :=
  ⟨h.cached, h.inCache, h.pool_nodup, h.pooled, h.held_nodup, h.held_live, h.inUse, h.kept,
    h.pointers, h.injective, h.given_up, h.bounded, h.accounted⟩

def Connection.runningStatements (connection : Connection) : List Nat :=
  connection.running.map Prod.fst

theorem Kept.startExecution (h : Kept connection.runningStatements connection)
    {bindArgs : Nat} {signal : Option Nat} {result : Except StatementException Nat}
    (hsafe : ¬ Hazard connection.runningStatements answers sql connection)
    (hstart : connection.startExecution answers sql bindArgs signal = (after, result)) :
    Kept after.runningStatements after := by
  unfold Connection.startExecution at hstart
  rcases hacquire : connection.acquirePreparedStatement answers sql with ⟨acquired, answer⟩
  obtain ⟨hrunning, hacquired⟩ := h.acquirePreparedStatement hsafe hacquire
  have hsame : acquired.runningStatements = connection.runningStatements := by
    rw [Connection.runningStatements, hrunning]
    rfl
  rw [hacquire] at hstart
  rcases answer with failure | statement
  · obtain ⟨rfl, -⟩ := Prod.mk.inj hstart
    rw [hsame]
    exact hacquired
  · have hfailed : Kept (acquired.releasePreparedStatement answers statement).runningStatements
        (acquired.releasePreparedStatement answers statement) := by
      rw [Connection.runningStatements, (SameSignals.releasePreparedStatement ..).running, hrunning]
      exact hacquired.1.releasePreparedStatement answers
    dsimp only at hstart
    split at hstart
    · obtain ⟨rfl, -⟩ := Prod.mk.inj hstart
      exact hfailed
    split at hstart
    · obtain ⟨rfl, -⟩ := Prod.mk.inj hstart
      exact hfailed
    split at hstart
    · obtain ⟨rfl, -⟩ := Prod.mk.inj hstart
      exact hfailed
    have hframe := attachCancellationSignal_frame answers signal acquired
    split at hstart
    · obtain ⟨rfl, -⟩ := Prod.mk.inj hstart
      exact hfailed
    · rename_i attached hattach
      obtain ⟨count, listening, cancelable, hframe⟩ := hframe
      rw [hattach] at hframe
      dsimp only at hframe
      obtain ⟨rfl, -⟩ := Prod.mk.inj hstart
      subst hframe
      have hheld := hacquired.1.frame acquired.onlyAllowReadOnlyOperations count
        ((statement, signal) :: acquired.running) listening cancelable
      rw [← hsame] at hheld
      exact hheld

theorem Kept.finishExecution (h : Kept connection.runningStatements connection)
    (answers : Answers) : Kept (connection.finishExecution answers).runningStatements
      (connection.finishExecution answers) := by
  unfold Connection.finishExecution
  rcases hrunning : connection.running with _ | ⟨⟨statement, signal⟩, others⟩
  · exact h
  · dsimp only
    obtain ⟨count, listening, cancelable, hframe⟩ := detachCancellationSignal_frame signal
      { connection with running := others }
    rw [hframe]
    rw [Connection.runningStatements, (SameSignals.releasePreparedStatement ..).running]
    rw [Connection.runningStatements, hrunning] at h
    exact (h.frame connection.onlyAllowReadOnlyOperations count others listening
      cancelable).releasePreparedStatement answers

theorem Kept.prepare (h : Kept connection.runningStatements connection)
    (hsafe : ¬ Hazard connection.runningStatements answers sql connection) :
    Kept (connection.prepare answers sql).1.runningStatements
      (connection.prepare answers sql).1 := by
  unfold Connection.prepare
  rcases hacquire : connection.acquirePreparedStatement answers sql with ⟨acquired, answer⟩
  obtain ⟨hrunning, hacquired⟩ := h.acquirePreparedStatement hsafe hacquire
  rcases answer with failure | statement
  · dsimp only
    rw [Connection.runningStatements, hrunning]
    exact hacquired
  · dsimp only
    rw [Connection.runningStatements, (SameSignals.releasePreparedStatement ..).running, hrunning]
    exact hacquired.1.releasePreparedStatement answers

end Calls

section Runs

def Call.Hazard (answers : Answers) (connection : Connection) : Call → Prop
  | .prepare sql | .startExecution sql _ _ =>
      StatementCache.Hazard connection.runningStatements answers sql connection
  | _ => False

/-- The connections after any calls, one inside the other or not, that avoid the hazard. -/
inductive Careful : Connection → Prop
  | opened {maxSqlCacheSize : Nat} {connection : Connection} :
      Connection.open? maxSqlCacheSize = some connection → Careful connection
  | step {connection : Connection} (answers : Answers) (call : Call) :
      Careful connection → ¬ call.Hazard answers connection →
        Careful (connection.step answers call)

theorem Careful.reachable (h : Careful connection) : Reachable connection := by
  induction h with
  | opened hopen => exact .opened hopen
  | step answers call _ _ ih => exact .step answers call ih

theorem kept_opened {maxSqlCacheSize : Nat}
    (hopen : Connection.open? maxSqlCacheSize = some connection) :
    Kept connection.runningStatements connection := by
  unfold Connection.open? at hopen
  split at hopen
  · obtain rfl := Option.some.inj hopen
    refine ⟨?_, ?_, ?_, ?_, ?_, ?_, ?_, ?_, ?_, ?_, ?_, ?_, ?_⟩ <;>
      simp [LruCache.empty, Connection.runningStatements, Live]
  · cases hopen

theorem Careful.kept (h : Careful connection) : Kept connection.runningStatements connection := by
  induction h with
  | opened hopen => exact kept_opened hopen
  | @step connection answers call _ hsafe ih =>
      cases call with
      | isPreparedStatementInCache sql => exact ih.touch fun _ => LruCache.mem_get
      | setOnlyAllowReadOnlyOperations readOnly =>
          exact ih.frame readOnly connection.cancellationSignalAttachCount connection.running
            connection.listening connection.cancelable
      | prepare sql => exact ih.prepare hsafe
      | startExecution sql bindArgs signal => exact ih.startExecution hsafe rfl
      | finishExecution => exact ih.finishExecution answers

theorem not_hazard_of_marked
    (h : ∀ statement ∈ held, (connection.statements statement).inUse = true) :
    ¬ Hazard held answers sql connection := by
  unfold Hazard
  split
  · rintro ⟨hheld, hidle⟩
    rw [h _ hheld] at hidle
    cases hidle
  · rintro ⟨-, -, -, -, entry, -, hheld, hidle⟩
    rw [h _ hheld] at hidle
    cases hidle

/-- A call is careful while all that runs is marked, and so while nothing runs. -/
theorem Careful.startExecution (h : Careful connection) (answers : Answers) (sql : String)
    (bindArgs : Nat) (signal : Option Nat)
    (hmarked : ∀ statement ∈ connection.runningStatements,
      (connection.statements statement).inUse = true) :
    Careful (connection.step answers (.startExecution sql bindArgs signal)) :=
  .step _ _ h (not_hazard_of_marked hmarked)

theorem careful_opened : Careful openedConnection := by
  have hopen : Connection.open? 2 = some openedConnection := rfl
  exact .opened hopen

theorem careful_nested : Careful nested :=
  (careful_opened.startExecution _ _ _ _ (by decide)).startExecution _ _ _ _ (by decide)

theorem careful_returned : Careful returned :=
  .step _ _ (.step _ _ careful_nested not_false) not_false

theorem careful_reused : Careful reused :=
  careful_returned.startExecution _ _ _ _ (by decide)

/-- As long as no unmarked statement is asked for again, or dropped, while it runs: no
statement runs twice at once, no native one is finalized twice or while its statement runs
or is cached, a cached one has been prepared from the text that finds it, and each that is
not finalized is still at hand, unless an exception made the connection forget it. -/
theorem Careful.statements_accounted (h : Careful connection) :
    connection.runningStatements.Nodup ∧ connection.finalized.Nodup ∧
      (∀ statement ∈ connection.runningStatements,
        (connection.statements statement).statementPtr ∉ connection.finalized) ∧
      (∀ entry ∈ connection.preparedStatementCache.entries,
        (connection.statements entry.2).sql = some entry.1 ∧
          (connection.statements entry.2).statementPtr ∉ connection.finalized) ∧
      ∀ statementPtr < connection.prepared,
        statementPtr ∈ connection.finalized ∨ statementPtr ∈ connection.lost ∨
          ∃ statement, (connection.statements statement).statementPtr = statementPtr ∧
            (statement ∈ connection.runningStatements ∨
              ∃ sql, (sql, statement) ∈ connection.preparedStatementCache.entries) := by
  have hkept := h.kept
  have hunfinalized : ∀ statement, Live connection statement →
      (connection.statements statement).statementPtr ∉ connection.finalized :=
    fun statement hlive hmem =>
      (hkept.pointers statement hlive).2 (List.mem_append_left _ hmem)
  refine ⟨hkept.held_nodup, hkept.given_up.of_append_left, ?_, ?_, ?_⟩
  · exact fun statement hrunning => hunfinalized statement (hkept.held_live statement hrunning)
  · intro entry hentry
    obtain ⟨hlive, hsql, -⟩ := hkept.cached entry.1 entry.2 hentry
    exact ⟨hsql, hunfinalized entry.2 hlive⟩
  · intro statementPtr hless
    rcases hkept.accounted statementPtr hless with hup | ⟨statement, hlive, hptr⟩
    · exact (List.mem_append.mp hup).imp_right .inl
    · refine .inr (.inr ⟨statement, hptr, ?_⟩)
      rcases hkept.kept statement hlive with hcached | hrunning
      · exact .inr (hkept.inCache statement hcached)
      · exact .inl hrunning

theorem nested_statements_accounted :
    nested.runningStatements.Nodup ∧ nested.finalized.Nodup ∧
      (∀ statement ∈ nested.runningStatements,
        (nested.statements statement).statementPtr ∉ nested.finalized) ∧
      (∀ entry ∈ nested.preparedStatementCache.entries,
        (nested.statements entry.2).sql = some entry.1 ∧
          (nested.statements entry.2).statementPtr ∉ nested.finalized) ∧
      ∀ statementPtr < nested.prepared,
        statementPtr ∈ nested.finalized ∨ statementPtr ∈ nested.lost ∨
          ∃ statement, (nested.statements statement).statementPtr = statementPtr ∧
            (statement ∈ nested.runningStatements ∨
              ∃ sql, (sql, statement) ∈ nested.preparedStatementCache.entries) :=
  careful_nested.statements_accounted

theorem entryRemoved_finalized (hunmarked : (connection.statements statement).inUse = false) :
    ((connection.entryRemoved statement).statements statement).statementPtr ∈
      (connection.entryRemoved statement).finalized := by
  have huse : ((connection.setStatement statement fun object =>
      { object with inCache := false }).statements statement).inUse = false := by
    rw [Connection.setStatement_statements, if_pos rfl]
    exact hunmarked
  unfold Connection.entryRemoved
  dsimp only
  rw [huse, if_neg Bool.false_ne_true, Connection.finalizePreparedStatement_statements, if_pos rfl]
  exact List.mem_cons_self

theorem acquire_of_hazard {result : Except StatementException Nat} (h : Kept held connection)
    (hhazard : Hazard held answers sql connection)
    (hacquire : connection.acquirePreparedStatement answers sql = (after, result)) :
    (∃ statement, result = .ok statement ∧ statement ∈ held) ∨
      ∃ statement ∈ held, (after.statements statement).statementPtr ∈ after.finalized := by
  unfold Hazard at hhazard
  rw [← LruCache.get_snd] at hhazard
  unfold Connection.acquirePreparedStatement at hacquire
  dsimp only at hacquire
  rcases hfound : (connection.preparedStatementCache.get sql).2 with _ | statement
  · rw [hfound] at hacquire hhazard
    obtain ⟨hsame, hmissing⟩ := LruCache.get_of_missing hfound
    rw [hsame] at hacquire
    obtain ⟨hprepares, hinspects, hcacheable, hfull, eldest, heldest, hrunning, hunmarked⟩ :=
      hhazard
    have hentry := List.mem_of_mem_head? heldest
    dsimp only at hacquire
    unfold Connection.prepareStatement at hacquire
    rcases hobtain : Connection.obtainPreparedStatement sql connection.prepared answers
      { connection with prepared := connection.prepared + 1 } with ⟨obtained, statement⟩
    have hnew := h.obtained hobtain
    simp only [hprepares, hinspects, hcacheable, hobtain, Bool.not_true, Bool.false_eq_true,
      if_false, Option.isNone_none, Bool.and_self, if_true] at hacquire
    obtain ⟨rfl, -⟩ := Prod.mk.inj hacquire
    have hne : eldest.2 ≠ statement := fun heq =>
      hnew.fresh (heq ▸ (h.cached eldest.1 eldest.2 hentry).1)
    have hput : (obtained.preparedStatementCache.put sql statement).2 = _ ∧ _ = _ :=
      LruCache.put_of_missing (by rw [hnew.cache]; exact hmissing)
    have hremoved : (obtained.preparedStatementCache.put sql statement).2.map Prod.snd =
        [eldest.2] := by
      rw [hput.1, hnew.cache, if_pos hfull]
      rcases hall : connection.preparedStatementCache.entries with _ | ⟨first, rest⟩
      · simp [hall] at heldest
      · obtain rfl : first = eldest := by simpa [hall] using heldest
        rfl
    have hdropped : (obtained.putStatement sql statement) = { obtained.entryRemoved eldest.2 with
        preparedStatementCache := (obtained.preparedStatementCache.put sql statement).1 } := by
      unfold Connection.putStatement
      dsimp only
      rw [hremoved, List.foldl_cons, List.foldl_nil, Connection.entryRemoved_cache]
    refine .inr ⟨eldest.2, hrunning, ?_⟩
    rw [hdropped, Connection.setStatement_statements, if_neg hne,
      Connection.setStatement_statements, if_neg hne]
    refine entryRemoved_finalized ?_
    rw [hnew.others _ hne]
    exact hunmarked
  · rw [hfound] at hacquire hhazard
    obtain ⟨hheld, hidle⟩ := hhazard
    simp only [hidle, Bool.not_false, if_true] at hacquire
    obtain ⟨-, rfl⟩ := Prod.mk.inj hacquire
    exact .inl ⟨statement, rfl, hheld⟩

/-- In every such run, the statement that is got next is not running already, and no running
one is finalized for it, exactly if the call avoids the hazard. -/
theorem Careful.acquire_sound_iff (h : Careful connection)
    {result : Except StatementException Nat}
    (hacquire : connection.acquirePreparedStatement answers sql = (after, result)) :
    ((∀ statement, result = .ok statement → statement ∉ connection.runningStatements) ∧
      ∀ statement ∈ connection.runningStatements,
        (after.statements statement).statementPtr ∉ after.finalized) ↔
      ¬ Hazard connection.runningStatements answers sql connection := by
  constructor
  · rintro ⟨hfresh, hunfinalized⟩ hhazard
    rcases acquire_of_hazard h.kept hhazard hacquire with
      ⟨statement, hresult, hrunning⟩ | ⟨statement, hrunning, hmem⟩
    · exact hfresh statement hresult hrunning
    · exact hunfinalized statement hrunning hmem
  · intro hsafe
    obtain ⟨-, hacquired⟩ := h.kept.acquirePreparedStatement hsafe hacquire
    have hunfinalized : ∀ {held : List Nat}, Kept held after →
        (∀ statement ∈ connection.runningStatements, statement ∈ held) →
        ∀ statement ∈ connection.runningStatements,
          (after.statements statement).statementPtr ∉ after.finalized := by
      intro held hkept hsub statement hrunning hmem
      have hlive := hkept.held_live statement (hsub statement hrunning)
      exact (hkept.pointers statement hlive).2 (List.mem_append_left _ hmem)
    rcases result with failure | statement
    · refine ⟨fun statement hresult => ?_, hunfinalized hacquired fun _ hmem => hmem⟩
      cases hresult
    · refine ⟨fun other hresult => ?_,
        hunfinalized hacquired.1 fun _ hmem => List.mem_cons_of_mem _ hmem⟩
      obtain rfl : statement = other := Except.ok.inj hresult
      exact (List.nodup_cons.mp hacquired.1.held_nodup).1

theorem reused_acquire_sound_iff :
    ((∀ statement, (reused.acquirePreparedStatement plain "SELECT a").2 = .ok statement →
        statement ∉ reused.runningStatements) ∧
      ∀ statement ∈ reused.runningStatements,
        ((reused.acquirePreparedStatement plain "SELECT a").1.statements statement).statementPtr ∉
          (reused.acquirePreparedStatement plain "SELECT a").1.finalized) ↔
      ¬ Hazard reused.runningStatements plain "SELECT a" reused :=
  careful_reused.acquire_sound_iff rfl

theorem entryRemoved_frame (statement : Nat) (connection : Connection) :
    (connection.entryRemoved statement).lost = connection.lost ∧
      (connection.entryRemoved statement).prepared = connection.prepared ∧
      (connection.entryRemoved statement).preparedStatementCache =
        connection.preparedStatementCache := by
  unfold Connection.entryRemoved
  dsimp only
  split
  · exact ⟨rfl, rfl, rfl⟩
  · exact ⟨rfl, rfl, rfl⟩

theorem Kept.foldl_entryRemoved (h : Kept held connection) (removed : List (String × Nat))
    (hkeys : (removed.map Prod.fst).Nodup)
    (hsame : ∀ entry, entry ∈ connection.preparedStatementCache.entries ↔ entry ∈ removed)
    (hfree : ∀ entry ∈ removed, entry.2 ∈ held → (connection.statements entry.2).inUse = true)
    {cache : LruCache String Nat} (hempty : cache.entries = []) :
    Kept held ((removed.map Prod.snd).foldl Connection.entryRemoved
      { connection with preparedStatementCache := cache }) := by
  induction removed generalizing connection with
  | nil =>
      refine h.touch fun entry => ?_
      rw [hempty]
      exact (hsame entry).symm
  | cons first removed ih =>
      obtain ⟨hmissing, hrest⟩ := List.nodup_cons.mp hkeys
      have hfirst := (hsame first).mpr List.mem_cons_self
      have hevicted : Kept held ({ connection with preparedStatementCache :=
          (connection.preparedStatementCache.remove first.1).1 }.entryRemoved first.2) :=
        h.entryRemoved hfirst (hfree first List.mem_cons_self) (h.mem_remove_iff hfirst)
      rw [Connection.entryRemoved_cache] at hevicted
      rw [List.map_cons, List.foldl_cons, Connection.entryRemoved_cache]
      have hleft : ∀ entry,
          entry ∈ (connection.preparedStatementCache.remove first.1).1.entries ↔
            entry ∈ removed := by
        intro entry
        rw [LruCache.mem_remove, hsame, List.mem_cons]
        constructor
        · rintro ⟨rfl | hmem, hne⟩
          · exact absurd rfl hne
          · exact hmem
        · intro hmem
          exact ⟨.inr hmem, fun heq => hmissing (heq ▸ List.mem_map.mpr ⟨entry, hmem, rfl⟩)⟩
      have hmarked : ∀ entry ∈ removed, entry.2 ∈ held →
          ((connection.entryRemoved first.2).statements entry.2).inUse = true := by
        intro entry hentry hheld
        have hne : entry.2 ≠ first.2 := by
          intro heq
          have hmem := (hsame entry).mpr (List.mem_cons_of_mem _ hentry)
          have hkey := (h.entry_eq_iff hmem hfirst).mpr heq
          exact hmissing (hkey ▸ List.mem_map.mpr ⟨entry, hentry, rfl⟩)
        rw [Connection.entryRemoved_statements_of_ne hne]
        exact hfree entry (List.mem_cons_of_mem _ hentry) hheld
      have hdone := ih hevicted hrest hleft hmarked
      exact hdone

theorem foldl_entryRemoved_frame (removed : List Nat) (connection : Connection) :
    (removed.foldl Connection.entryRemoved connection).lost = connection.lost ∧
      (removed.foldl Connection.entryRemoved connection).prepared = connection.prepared ∧
      (removed.foldl Connection.entryRemoved connection).preparedStatementCache =
        connection.preparedStatementCache := by
  induction removed generalizing connection with
  | nil => exact ⟨rfl, rfl, rfl⟩
  | cons statement removed ih =>
      obtain ⟨hlost, hprepared, hcache⟩ := ih (connection.entryRemoved statement)
      obtain ⟨hsame, hcount, hentries⟩ := entryRemoved_frame statement connection
      exact ⟨hlost.trans hsame, hprepared.trans hcount, hcache.trans hentries⟩

/-- When a connection on which nothing runs is closed, each native statement that it has ever
prepared has been finalized exactly once, save the forgotten ones. -/
theorem Careful.dispose (h : Careful connection) (hidle : connection.running = []) :
    (connection.evictAll.finalized ++ connection.lost).Perm (List.range connection.prepared) := by
  have hkept := h.kept
  have hnone : connection.runningStatements = [] := by simp [Connection.runningStatements, hidle]
  rw [hnone] at hkept
  have hdisposed : Kept [] connection.evictAll :=
    hkept.foldl_entryRemoved connection.preparedStatementCache.entries
      connection.preparedStatementCache.keys_nodup (fun _ => Iff.rfl)
      (fun _ _ hheld => absurd hheld List.not_mem_nil) rfl
  obtain ⟨hlost, hprepared, hcache⟩ : connection.evictAll.lost = connection.lost ∧
      connection.evictAll.prepared = connection.prepared ∧
      connection.evictAll.preparedStatementCache = connection.preparedStatementCache.evictAll.1 :=
    foldl_entryRemoved_frame ..
  have hdead : ∀ statement, ¬ Live connection.evictAll statement := by
    intro statement hlive
    rcases hdisposed.kept statement hlive with hflag | hheld
    · obtain ⟨sql, hmem⟩ := hdisposed.inCache statement hflag
      rw [hcache] at hmem
      exact absurd hmem List.not_mem_nil
    · exact absurd hheld List.not_mem_nil
  have hnodup := hdisposed.given_up
  have hbounded := hdisposed.bounded
  have haccounted := hdisposed.accounted
  rw [hlost] at hnodup hbounded haccounted
  rw [hprepared] at hbounded haccounted
  refine (List.perm_ext_iff_of_nodup hnodup List.nodup_range).mpr fun statementPtr => ?_
  rw [List.mem_range]
  constructor
  · exact hbounded statementPtr
  · intro hless
    rcases haccounted statementPtr hless with hup | ⟨statement, hlive, -⟩
    · exact hup
    · exact absurd hlive (hdead statement)

theorem returned_dispose :
    (returned.evictAll.finalized ++ returned.lost).Perm (List.range returned.prepared) :=
  careful_returned.dispose rfl

end Runs

end LSTAndroid.StatementCache
