import LSTAndroid.StatementCache

namespace LSTAndroid.StatementCache

open LSTAndroid.Library.RecencyCache

variable {connection after : Connection} {answers : Answers} {held : List Nat} {statement : Nat}
  {sql : String}

section Frames

namespace Connection

theorem setStatement_statements (statement other : Nat)
    (change : PreparedStatement → PreparedStatement) (connection : Connection) :
    (connection.setStatement statement change).statements other =
      if other = statement then change (connection.statements statement)
      else connection.statements other := by
  simp only [setStatement, Function.update_apply]

@[simp] theorem finalizePreparedStatement_statements (statement other : Nat)
    (connection : Connection) :
    (connection.finalizePreparedStatement statement).statements other =
      if other = statement then { connection.statements statement with sql := none }
      else connection.statements other := by
  simp only [finalizePreparedStatement, recyclePreparedStatement, setStatement_statements]
  rfl

theorem entryRemoved_cache (cache : LruCache String Nat) (statement : Nat)
    (connection : Connection) :
    { connection with preparedStatementCache := cache }.entryRemoved statement =
      { connection.entryRemoved statement with preparedStatementCache := cache } := by
  unfold entryRemoved
  dsimp only [setStatement]
  split <;> rfl

theorem entryRemoved_statements_of_ne {statement other : Nat} (hne : other ≠ statement)
    (connection : Connection) :
    (connection.entryRemoved statement).statements other = connection.statements other := by
  unfold entryRemoved
  dsimp only
  split
  · rw [setStatement_statements, if_neg hne]
  · rw [finalizePreparedStatement_statements, if_neg hne, setStatement_statements, if_neg hne]

end Connection

/-- Nothing has begun or ended to run, and no signal has been attached or detached. -/
structure SameSignals (connection after : Connection) : Prop where
  count : after.cancellationSignalAttachCount = connection.cancellationSignalAttachCount
  listening : after.listening = connection.listening
  cancelable : after.cancelable = connection.cancelable
  running : after.running = connection.running

namespace SameSignals

theorem refl (connection : Connection) : SameSignals connection connection :=
  ⟨rfl, rfl, rfl, rfl⟩

theorem trans {between : Connection} (first : SameSignals connection between)
    (second : SameSignals between after) : SameSignals connection after :=
  ⟨second.count.trans first.count, second.listening.trans first.listening,
    second.cancelable.trans first.cancelable, second.running.trans first.running⟩

theorem entryRemoved (statement : Nat) (connection : Connection) :
    SameSignals connection (connection.entryRemoved statement) := by
  unfold Connection.entryRemoved
  dsimp only
  split
  · exact ⟨rfl, rfl, rfl, rfl⟩
  · exact ⟨rfl, rfl, rfl, rfl⟩

theorem foldl_entryRemoved (removed : List Nat) (connection : Connection) :
    SameSignals connection (removed.foldl Connection.entryRemoved connection) := by
  induction removed generalizing connection with
  | nil => exact refl _
  | cons statement removed ih => exact (entryRemoved statement connection).trans (ih _)

theorem putStatement (sql : String) (statement : Nat) (connection : Connection) :
    SameSignals connection (connection.putStatement sql statement) := by
  have hcache : SameSignals connection { connection with preparedStatementCache :=
      (connection.preparedStatementCache.put sql statement).1 } := ⟨rfl, rfl, rfl, rfl⟩
  exact hcache.trans (foldl_entryRemoved _ _)

theorem obtainPreparedStatement (sql : String) (statementPtr : Nat) (answers : Answers)
    (connection : Connection) :
    SameSignals connection
      (connection.obtainPreparedStatement sql statementPtr answers).1 := by
  unfold Connection.obtainPreparedStatement
  dsimp only
  split
  · exact ⟨rfl, rfl, rfl, rfl⟩
  · exact ⟨rfl, rfl, rfl, rfl⟩

theorem prepareStatement (answers : Answers) (sql : String) (found : Option Nat)
    (connection : Connection) :
    SameSignals connection (connection.prepareStatement answers sql found).1 := by
  unfold Connection.prepareStatement
  dsimp only
  split
  · exact refl _
  split
  · split
    · split
      · exact ⟨rfl, rfl, rfl, rfl⟩
      · exact ⟨rfl, rfl, rfl, rfl⟩
    · exact ⟨rfl, rfl, rfl, rfl⟩
  · have hobtained := obtainPreparedStatement sql connection.prepared answers
      { connection with prepared := connection.prepared + 1 }
    generalize Connection.obtainPreparedStatement sql connection.prepared answers
      { connection with prepared := connection.prepared + 1 } = obtained at hobtained ⊢
    have hcount : SameSignals connection obtained.1 :=
      ⟨hobtained.count, hobtained.listening, hobtained.cancelable, hobtained.running⟩
    split
    · have hput := hcount.trans (putStatement sql obtained.2 obtained.1)
      exact ⟨hput.count, hput.listening, hput.cancelable, hput.running⟩
    · exact ⟨hcount.count, hcount.listening, hcount.cancelable, hcount.running⟩

theorem acquirePreparedStatement (answers : Answers) (sql : String) (connection : Connection) :
    SameSignals connection (connection.acquirePreparedStatement answers sql).1 := by
  unfold Connection.acquirePreparedStatement
  dsimp only
  have hcache : SameSignals connection { connection with preparedStatementCache :=
      (connection.preparedStatementCache.get sql).1 } := ⟨rfl, rfl, rfl, rfl⟩
  split
  · split
    · exact hcache
    · exact hcache.trans (prepareStatement ..)
  · exact hcache.trans (prepareStatement ..)

theorem releasePreparedStatement (answers : Answers) (statement : Nat)
    (connection : Connection) :
    SameSignals connection (connection.releasePreparedStatement answers statement) := by
  unfold Connection.releasePreparedStatement
  dsimp only
  split
  · split
    · split
      · refine trans ?_ (foldl_entryRemoved ..)
        exact ⟨rfl, rfl, rfl, rfl⟩
      · exact ⟨rfl, rfl, rfl, rfl⟩
    · exact ⟨rfl, rfl, rfl, rfl⟩
  · exact ⟨rfl, rfl, rfl, rfl⟩

end SameSignals

end Frames

def Live (connection : Connection) (statement : Nat) : Prop :=
  statement < connection.created ∧ statement ∉ connection.preparedStatementPool

/-- Every object is in the pool, in the cache or in someone's hands, and every native
statement is behind one of the last two, finalized once, or lost. -/
structure Kept (held : List Nat) (connection : Connection) : Prop where
  cached : ∀ sql statement, (sql, statement) ∈ connection.preparedStatementCache.entries →
    Live connection statement ∧ (connection.statements statement).sql = some sql ∧
      (connection.statements statement).inCache = true
  inCache : ∀ statement, (connection.statements statement).inCache = true →
    ∃ sql, (sql, statement) ∈ connection.preparedStatementCache.entries
  pool_nodup : connection.preparedStatementPool.Nodup
  pooled : ∀ statement ∈ connection.preparedStatementPool, statement < connection.created
  held_nodup : held.Nodup
  held_live : ∀ statement ∈ held, Live connection statement
  inUse : ∀ statement, (connection.statements statement).inUse = true → statement ∈ held
  kept : ∀ statement, Live connection statement →
    (connection.statements statement).inCache = true ∨ statement ∈ held
  pointers : ∀ statement, Live connection statement →
    (connection.statements statement).statementPtr < connection.prepared ∧
      (connection.statements statement).statementPtr ∉ connection.finalized ++ connection.lost
  injective : ∀ first second, Live connection first → Live connection second →
    (connection.statements first).statementPtr = (connection.statements second).statementPtr →
      first = second
  given_up : (connection.finalized ++ connection.lost).Nodup
  bounded : ∀ statementPtr ∈ connection.finalized ++ connection.lost,
    statementPtr < connection.prepared
  accounted : ∀ statementPtr < connection.prepared,
    statementPtr ∈ connection.finalized ++ connection.lost ∨
      ∃ statement, Live connection statement ∧
        (connection.statements statement).statementPtr = statementPtr

section Primitives

theorem Kept.touch (h : Kept held connection) {cache : LruCache String Nat}
    (hsame : ∀ entry, entry ∈ cache.entries ↔
      entry ∈ connection.preparedStatementCache.entries) :
    Kept held { connection with preparedStatementCache := cache } := by
  obtain ⟨hcached, hinCache, hrest⟩ := h
  exact ⟨fun sql statement hmem => hcached sql statement ((hsame _).mp hmem),
    fun statement hflag => (hinCache statement hflag).imp fun _ hmem => (hsame _).mpr hmem, ‹_›,
    ‹_›, ‹_›, ‹_›, ‹_›, ‹_›, ‹_›, ‹_›, ‹_›, ‹_›, ‹_›⟩

theorem Kept.hold (h : Kept held connection) (hlive : Live connection statement)
    (hfree : statement ∉ held) : Kept (statement :: held) connection where
  cached := h.cached
  inCache := h.inCache
  pool_nodup := h.pool_nodup
  pooled := h.pooled
  held_nodup := List.nodup_cons.mpr ⟨hfree, h.held_nodup⟩
  held_live := by
    intro other hother
    rcases List.mem_cons.mp hother with rfl | hother
    · exact hlive
    · exact h.held_live other hother
  inUse := fun other hother => List.mem_cons_of_mem _ (h.inUse other hother)
  kept := fun other hother => (h.kept other hother).imp_right (List.mem_cons_of_mem _)
  pointers := h.pointers
  injective := h.injective
  given_up := h.given_up
  bounded := h.bounded
  accounted := h.accounted

theorem Kept.drop (h : Kept (statement :: held) connection)
    (hcached : (connection.statements statement).inCache = true)
    (hidle : (connection.statements statement).inUse = false) : Kept held connection where
  cached := h.cached
  inCache := h.inCache
  pool_nodup := h.pool_nodup
  pooled := h.pooled
  held_nodup := h.held_nodup.of_cons
  held_live := fun other hother => h.held_live other (List.mem_cons_of_mem _ hother)
  inUse := by
    intro other hother
    rcases List.mem_cons.mp (h.inUse other hother) with rfl | hmem
    · rw [hidle] at hother
      cases hother
    · exact hmem
  kept := by
    intro other hother
    rcases h.kept other hother with hflag | hmem
    · exact .inl hflag
    · rcases List.mem_cons.mp hmem with rfl | hmem
      · exact .inl hcached
      · exact .inr hmem
  pointers := h.pointers
  injective := h.injective
  given_up := h.given_up
  bounded := h.bounded
  accounted := h.accounted

/-- A change of an object that leaves its native statement and its place alone. -/
theorem Kept.setStatement (h : Kept held connection)
    {change : PreparedStatement → PreparedStatement}
    (hsql : ∀ object, (change object).sql = object.sql)
    (hptr : ∀ object, (change object).statementPtr = object.statementPtr)
    (hcache : ∀ object, (change object).inCache = object.inCache)
    (huse : (change (connection.statements statement)).inUse = true → statement ∈ held) :
    Kept held (connection.setStatement statement change) := by
  have hsame : ∀ other,
      ((connection.setStatement statement change).statements other).sql =
          (connection.statements other).sql ∧
        ((connection.setStatement statement change).statements other).statementPtr =
          (connection.statements other).statementPtr ∧
        ((connection.setStatement statement change).statements other).inCache =
          (connection.statements other).inCache := by
    intro other
    rw [Connection.setStatement_statements]
    split
    · rename_i heq
      subst heq
      exact ⟨hsql _, hptr _, hcache _⟩
    · exact ⟨rfl, rfl, rfl⟩
  refine ⟨?_, ?_, h.pool_nodup, h.pooled, h.held_nodup, h.held_live, ?_, ?_, ?_, ?_, h.given_up,
    h.bounded, ?_⟩
  · intro sql other hmem
    rw [(hsame other).1, (hsame other).2.2]
    exact h.cached sql other hmem
  · intro other hflag
    rw [(hsame other).2.2] at hflag
    exact h.inCache other hflag
  · intro other hother
    rw [Connection.setStatement_statements] at hother
    split at hother
    · rename_i heq
      subst heq
      exact huse hother
    · exact h.inUse other hother
  · intro other hother
    rw [(hsame other).2.2]
    exact h.kept other hother
  · intro other hother
    rw [(hsame other).2.1]
    exact h.pointers other hother
  · intro first second hfirst hsecond heq
    rw [(hsame first).2.1, (hsame second).2.1] at heq
    exact h.injective first second hfirst hsecond heq
  · intro statementPtr hless
    rcases h.accounted statementPtr hless with hup | ⟨other, hlive, heq⟩
    · exact .inl hup
    · exact .inr ⟨other, hlive, by rw [(hsame other).2.1, heq]⟩

theorem Kept.uncache (h : Kept held connection) (hheld : statement ∈ held)
    {cache : LruCache String Nat}
    (hsame : ∀ entry, entry ∈ cache.entries ↔
      entry ∈ connection.preparedStatementCache.entries ∧ entry.2 ≠ statement) :
    Kept held ({ connection with preparedStatementCache := cache }.setStatement statement
      fun object => { object with inCache := false }) := by
  refine ⟨?_, ?_, h.pool_nodup, h.pooled, h.held_nodup, h.held_live, ?_, ?_, ?_, ?_, h.given_up,
    h.bounded, ?_⟩
  · intro sql other hmem
    obtain ⟨hmem, hne⟩ := (hsame _).mp hmem
    rw [Connection.setStatement_statements, if_neg hne]
    exact h.cached sql other hmem
  · intro other hflag
    rw [Connection.setStatement_statements] at hflag
    split at hflag
    · cases hflag
    · rename_i hne
      obtain ⟨sql, hmem⟩ := h.inCache other hflag
      exact ⟨sql, (hsame _).mpr ⟨hmem, hne⟩⟩
  · intro other hother
    rw [Connection.setStatement_statements] at hother
    split at hother
    · rename_i heq
      exact heq ▸ hheld
    · exact h.inUse other hother
  · intro other hother
    rw [Connection.setStatement_statements]
    split
    · rename_i heq
      exact .inr (heq ▸ hheld)
    · exact h.kept other hother
  · intro other hother
    have hpointers := h.pointers other hother
    rw [Connection.setStatement_statements]
    split
    · rename_i heq
      exact heq ▸ hpointers
    · exact hpointers
  · intro first second hfirst hsecond heq
    refine h.injective first second hfirst hsecond ?_
    rw [Connection.setStatement_statements, Connection.setStatement_statements] at heq
    grind
  · intro statementPtr hless
    rcases h.accounted statementPtr hless with hup | ⟨other, hlive, heq⟩
    · exact .inl hup
    · refine .inr ⟨other, hlive, ?_⟩
      rw [Connection.setStatement_statements]
      grind

theorem Kept.finalizePreparedStatement (h : Kept (statement :: held) connection)
    (huncached : (connection.statements statement).inCache = false)
    (hidle : (connection.statements statement).inUse = false) :
    Kept held (connection.finalizePreparedStatement statement) := by
  obtain ⟨hfree, hnodup⟩ := List.nodup_cons.mp h.held_nodup
  have hlive := h.held_live statement List.mem_cons_self
  have hptr := h.pointers statement hlive
  have hstill : ∀ other, Live (connection.finalizePreparedStatement statement) other ↔
      Live connection other ∧ other ≠ statement := by
    intro other
    unfold Live
    rw [show (connection.finalizePreparedStatement statement).preparedStatementPool =
      statement :: connection.preparedStatementPool from rfl, List.mem_cons]
    have hcreated : (connection.finalizePreparedStatement statement).created =
      connection.created := rfl
    rw [hcreated]
    tauto
  have hsame : ∀ other, other ≠ statement →
      (connection.finalizePreparedStatement statement).statements other =
        connection.statements other := by
    intro other hne
    rw [Connection.finalizePreparedStatement_statements, if_neg hne]
  have hup : (connection.finalizePreparedStatement statement).finalized ++
      (connection.finalizePreparedStatement statement).lost =
        (connection.statements statement).statementPtr ::
          (connection.finalized ++ connection.lost) := rfl
  refine ⟨?_, ?_, ?_, ?_, hnodup, ?_, ?_, ?_, ?_, ?_, ?_, ?_, ?_⟩
  · intro sql other hmem
    obtain ⟨hother, hsql, hflag⟩ := h.cached sql other hmem
    have hne : other ≠ statement := by
      rintro rfl
      rw [huncached] at hflag
      cases hflag
    rw [hsame other hne]
    exact ⟨(hstill other).mpr ⟨hother, hne⟩, hsql, hflag⟩
  · intro other hflag
    rw [Connection.finalizePreparedStatement_statements] at hflag
    split at hflag
    · rw [huncached] at hflag
      cases hflag
    · exact h.inCache other hflag
  · exact List.nodup_cons.mpr ⟨hlive.2, h.pool_nodup⟩
  · intro other hother
    rcases List.mem_cons.mp hother with rfl | hother
    · exact hlive.1
    · exact h.pooled other hother
  · intro other hother
    refine (hstill other).mpr ⟨h.held_live other (List.mem_cons_of_mem _ hother), ?_⟩
    rintro rfl
    exact hfree hother
  · intro other hother
    rw [Connection.finalizePreparedStatement_statements] at hother
    split at hother
    · rw [hidle] at hother
      cases hother
    · rename_i hne
      exact (List.mem_cons.mp (h.inUse other hother)).resolve_left hne
  · intro other hother
    obtain ⟨hother, hne⟩ := (hstill other).mp hother
    rw [hsame other hne]
    exact (h.kept other hother).imp_right fun hmem => (List.mem_cons.mp hmem).resolve_left hne
  · intro other hother
    obtain ⟨hother, hne⟩ := (hstill other).mp hother
    rw [hsame other hne, hup]
    refine ⟨(h.pointers other hother).1, fun hmem => ?_⟩
    rcases List.mem_cons.mp hmem with heq | hmem
    · exact hne (h.injective other statement hother hlive heq)
    · exact (h.pointers other hother).2 hmem
  · intro first second hfirst hsecond heq
    obtain ⟨hfirst, hne⟩ := (hstill first).mp hfirst
    obtain ⟨hsecond, hne'⟩ := (hstill second).mp hsecond
    rw [hsame first hne, hsame second hne'] at heq
    exact h.injective first second hfirst hsecond heq
  · rw [hup]
    exact List.nodup_cons.mpr ⟨hptr.2, h.given_up⟩
  · intro statementPtr hmem
    rw [hup] at hmem
    rcases List.mem_cons.mp hmem with rfl | hmem
    · exact hptr.1
    · exact h.bounded statementPtr hmem
  · intro statementPtr hless
    rw [hup]
    rcases h.accounted statementPtr hless with hgiven | ⟨other, hother, rfl⟩
    · exact .inl (List.mem_cons_of_mem _ hgiven)
    · rcases eq_or_ne other statement with rfl | hne
      · exact .inl List.mem_cons_self
      · exact .inr ⟨other, (hstill other).mpr ⟨hother, hne⟩, by rw [hsame other hne]⟩

theorem Kept.entryRemoved (h : Kept held connection)
    (hmem : (sql, statement) ∈ connection.preparedStatementCache.entries)
    (hmarked : statement ∈ held → (connection.statements statement).inUse = true)
    {cache : LruCache String Nat}
    (hsame : ∀ entry, entry ∈ cache.entries ↔
      entry ∈ connection.preparedStatementCache.entries ∧ entry.2 ≠ statement) :
    Kept held ({ connection with preparedStatementCache := cache }.entryRemoved statement) := by
  have huse : ((({ connection with preparedStatementCache := cache } : Connection).setStatement
      statement fun object => { object with inCache := false }).statements statement).inUse =
        (connection.statements statement).inUse := by
    rw [Connection.setStatement_statements, if_pos rfl]
  unfold Connection.entryRemoved
  dsimp only
  rw [huse]
  rcases hinUse : (connection.statements statement).inUse with _ | _
  · have hfree : statement ∉ held := fun hheld => by
      rw [hmarked hheld] at hinUse
      cases hinUse
    have hheld := h.hold (h.cached sql statement hmem).1 hfree
    have huncached := hheld.uncache List.mem_cons_self hsame
    refine huncached.finalizePreparedStatement ?_ ?_
    · rw [Connection.setStatement_statements, if_pos rfl]
    · rw [huse, hinUse]
  · exact h.uncache (h.inUse statement hinUse) hsame

/-- An object that was not in use stands for the native statement prepared last. -/
structure Obtained (answers : Answers) (sql : String) (statement : Nat)
    (connection after : Connection) : Prop where
  fresh : ¬ Live connection statement
  live : ∀ other, Live after other ↔ Live connection other ∨ other = statement
  object : after.statements statement = ⟨some sql, connection.prepared, answers.numParameters,
    answers.type, answers.readOnly, false, false⟩
  others : ∀ other, other ≠ statement → after.statements other = connection.statements other
  cache : after.preparedStatementCache = connection.preparedStatementCache
  prepared : after.prepared = connection.prepared + 1
  given_up : after.finalized ++ after.lost = connection.finalized ++ connection.lost
  pool_nodup : after.preparedStatementPool.Nodup
  pooled : ∀ other ∈ after.preparedStatementPool, other < after.created
  running : after.running = connection.running

theorem Kept.obtained (h : Kept held connection)
    (hobtain : { connection with prepared := connection.prepared + 1 }.obtainPreparedStatement sql
      connection.prepared answers = (after, statement)) :
    Obtained answers sql statement connection after := by
  unfold Connection.obtainPreparedStatement at hobtain
  dsimp only at hobtain
  have hidle : ∀ other, ¬ Live connection other →
      (connection.statements other).inUse = false := by
    intro other hdead
    rcases hinUse : (connection.statements other).inUse with _ | _
    · rfl
    · exact absurd (h.held_live other (h.inUse other hinUse)) hdead
  rcases hpool : connection.preparedStatementPool with _ | ⟨pooled, others⟩
  · rw [hpool] at hobtain
    obtain ⟨rfl, rfl⟩ := Prod.mk.inj hobtain
    have hdead : ¬ Live connection connection.created := fun hlive => Nat.lt_irrefl _ hlive.1
    refine ⟨hdead, fun other => ?_, ?_, fun other hne => ?_, rfl, rfl, rfl, List.nodup_nil,
      fun other hother => absurd hother List.not_mem_nil, rfl⟩
    · have hsplit : other < connection.created + 1 ↔
          other < connection.created ∨ other = connection.created := by omega
      simp [Live, hpool, Connection.setStatement, hsplit]
    · rw [Connection.setStatement_statements, if_pos rfl]
    · rw [Connection.setStatement_statements, if_neg hne]
  · rw [hpool] at hobtain
    obtain ⟨rfl, rfl⟩ := Prod.mk.inj hobtain
    have hnodup := h.pool_nodup
    have hpooled := h.pooled
    rw [hpool] at hnodup hpooled
    obtain ⟨hmissing, hothers⟩ := List.nodup_cons.mp hnodup
    have hdead : ¬ Live connection pooled := fun hlive => hlive.2 (by simp [hpool])
    refine ⟨hdead, fun other => ?_, ?_, fun other hne => ?_, rfl, rfl, rfl, hothers,
      fun other hother => hpooled other (List.mem_cons_of_mem _ hother), rfl⟩
    · unfold Live
      rw [hpool]
      dsimp only [Connection.setStatement]
      rw [List.mem_cons]
      have hless := hpooled pooled List.mem_cons_self
      constructor
      · rintro ⟨hlt, hnot⟩
        rcases eq_or_ne other pooled with rfl | hne
        · exact .inr rfl
        · exact .inl ⟨hlt, by simp [hne, hnot]⟩
      · rintro (⟨hlt, hnot⟩ | rfl)
        · exact ⟨hlt, fun hmem => hnot (.inr hmem)⟩
        · exact ⟨hless, hmissing⟩
    · rw [Connection.setStatement_statements, if_pos rfl]
      dsimp only
      rw [hidle pooled hdead]
    · rw [Connection.setStatement_statements, if_neg hne]

theorem Obtained.kept (h : Obtained answers sql statement connection after)
    (hkept : Kept held connection) : Kept (statement :: held) after := by
  have hne : ∀ other, Live connection other → other ≠ statement := by
    rintro other hlive rfl
    exact h.fresh hlive
  have hobject := h.object
  refine ⟨?_, ?_, h.pool_nodup, h.pooled, ?_, ?_, ?_, ?_, ?_, ?_, ?_, ?_, ?_⟩
  · intro sql other hmem
    rw [h.cache] at hmem
    obtain ⟨hlive, hsql, hflag⟩ := hkept.cached sql other hmem
    rw [h.others other (hne other hlive)]
    exact ⟨(h.live other).mpr (.inl hlive), hsql, hflag⟩
  · intro other hflag
    rw [h.cache]
    rcases eq_or_ne other statement with rfl | hdifferent
    · rw [hobject] at hflag
      cases hflag
    · rw [h.others other hdifferent] at hflag
      exact hkept.inCache other hflag
  · exact List.nodup_cons.mpr ⟨fun hmem => h.fresh (hkept.held_live _ hmem), hkept.held_nodup⟩
  · intro other hother
    rcases List.mem_cons.mp hother with rfl | hother
    · exact (h.live other).mpr (.inr rfl)
    · exact (h.live other).mpr (.inl (hkept.held_live other hother))
  · intro other hother
    rcases eq_or_ne other statement with rfl | hdifferent
    · exact List.mem_cons_self
    · rw [h.others other hdifferent] at hother
      exact List.mem_cons_of_mem _ (hkept.inUse other hother)
  · intro other hother
    rcases (h.live other).mp hother with hlive | rfl
    · rw [h.others other (hne other hlive)]
      exact (hkept.kept other hlive).imp_right (List.mem_cons_of_mem _)
    · exact .inr List.mem_cons_self
  · intro other hother
    rw [h.given_up, h.prepared]
    rcases (h.live other).mp hother with hlive | rfl
    · obtain ⟨hless, hnot⟩ := hkept.pointers other hlive
      rw [h.others other (hne other hlive)]
      exact ⟨Nat.lt_succ_of_lt hless, hnot⟩
    · rw [hobject]
      exact ⟨Nat.lt_succ_self _, fun hmem => Nat.lt_irrefl _ (hkept.bounded _ hmem)⟩
  · have hnew : ∀ other, Live connection other →
        (after.statements other).statementPtr ≠ (after.statements statement).statementPtr := by
      intro other hlive heq
      rw [h.others other (hne other hlive), hobject] at heq
      have hless := (hkept.pointers other hlive).1
      dsimp only at heq
      omega
    intro first second hfirst hsecond heq
    rcases (h.live first).mp hfirst with hfirst | rfl
    · rcases (h.live second).mp hsecond with hsecond | rfl
      · rw [h.others first (hne first hfirst), h.others second (hne second hsecond)] at heq
        exact hkept.injective first second hfirst hsecond heq
      · exact absurd heq (hnew first hfirst)
    · rcases (h.live second).mp hsecond with hsecond | rfl
      · exact absurd heq.symm (hnew second hsecond)
      · rfl
  · rw [h.given_up]
    exact hkept.given_up
  · intro statementPtr hmem
    rw [h.given_up] at hmem
    rw [h.prepared]
    exact Nat.lt_succ_of_lt (hkept.bounded statementPtr hmem)
  · intro statementPtr hless
    rw [h.prepared] at hless
    rw [h.given_up]
    rcases Nat.lt_succ_iff_lt_or_eq.mp hless with hless | rfl
    · rcases hkept.accounted statementPtr hless with hup | ⟨other, hlive, heq⟩
      · exact .inl hup
      · refine .inr ⟨other, (h.live other).mpr (.inl hlive), ?_⟩
        rw [h.others other (hne other hlive), heq]
    · exact .inr ⟨statement, (h.live statement).mpr (.inr rfl), by rw [hobject]⟩

theorem Kept.giveUp (h : Kept held connection) {finalized lost : List Nat}
    (hup : (finalized ++ lost).Perm
      (connection.prepared :: (connection.finalized ++ connection.lost))) :
    Kept held { connection with
      prepared := connection.prepared + 1, finalized := finalized, lost := lost } where
  cached := h.cached
  inCache := h.inCache
  pool_nodup := h.pool_nodup
  pooled := h.pooled
  held_nodup := h.held_nodup
  held_live := h.held_live
  inUse := h.inUse
  kept := h.kept
  pointers := by
    intro other hother
    obtain ⟨hless, hnot⟩ := h.pointers other hother
    refine ⟨Nat.lt_succ_of_lt hless, fun hmem => ?_⟩
    rcases List.mem_cons.mp (hup.mem_iff.mp hmem) with heq | hmem
    · exact Nat.ne_of_lt hless heq
    · exact hnot hmem
  injective := h.injective
  given_up := by
    refine hup.nodup_iff.mpr (List.nodup_cons.mpr ⟨fun hmem => ?_, h.given_up⟩)
    exact Nat.lt_irrefl _ (h.bounded _ hmem)
  bounded := by
    intro statementPtr hmem
    rcases List.mem_cons.mp (hup.mem_iff.mp hmem) with rfl | hmem
    · exact Nat.lt_succ_self _
    · exact Nat.lt_succ_of_lt (h.bounded statementPtr hmem)
  accounted := by
    intro statementPtr hless
    rcases Nat.lt_succ_iff_lt_or_eq.mp hless with hless | rfl
    · rcases h.accounted statementPtr hless with hmem | hobject
      · exact .inl (hup.mem_iff.mpr (List.mem_cons_of_mem _ hmem))
      · exact .inr hobject
    · exact .inl (hup.mem_iff.mpr List.mem_cons_self)

theorem Kept.insert (h : Kept held connection) (hheld : statement ∈ held)
    (hsql : (connection.statements statement).sql = some sql) {cache : LruCache String Nat}
    (hsame : ∀ entry, entry ∈ cache.entries ↔
      entry ∈ connection.preparedStatementCache.entries ∨ entry = (sql, statement)) :
    Kept held ({ connection with preparedStatementCache := cache }.setStatement statement
      fun object => { object with inCache := true }) := by
  have hothers : ∀ other, (({ connection with preparedStatementCache := cache } :
      Connection).setStatement statement fun object => { object with inCache := true }).statements
        other = if other = statement then { connection.statements statement with inCache := true }
          else connection.statements other :=
    fun other => Connection.setStatement_statements ..
  refine ⟨?_, ?_, h.pool_nodup, h.pooled, h.held_nodup, h.held_live, ?_, ?_, ?_, ?_, h.given_up,
    h.bounded, ?_⟩
  · intro text other hmem
    rw [hothers]
    rcases (hsame _).mp hmem with hmem | heq
    · obtain ⟨hlive, htext, hflag⟩ := h.cached text other hmem
      refine ⟨hlive, ?_⟩
      split
      · rename_i heq
        subst heq
        exact ⟨htext, rfl⟩
      · exact ⟨htext, hflag⟩
    · obtain ⟨rfl, rfl⟩ := Prod.mk.inj heq
      rw [if_pos rfl]
      exact ⟨h.held_live other hheld, hsql, rfl⟩
  · intro other hflag
    rw [hothers] at hflag
    split at hflag
    · rename_i heq
      exact ⟨sql, (hsame _).mpr (.inr (by rw [heq]))⟩
    · obtain ⟨text, hmem⟩ := h.inCache other hflag
      exact ⟨text, (hsame _).mpr (.inl hmem)⟩
  · intro other hother
    rw [hothers] at hother
    split at hother
    · rename_i heq
      exact heq ▸ hheld
    · exact h.inUse other hother
  · intro other hother
    rw [hothers]
    split
    · exact .inl rfl
    · exact h.kept other hother
  · intro other hother
    have hpointers := h.pointers other hother
    rw [hothers]
    split
    · rename_i heq
      exact heq ▸ hpointers
    · exact hpointers
  · intro first second hfirst hsecond heq
    refine h.injective first second hfirst hsecond ?_
    rw [hothers, hothers] at heq
    grind
  · intro statementPtr hless
    rcases h.accounted statementPtr hless with hup | ⟨other, hlive, heq⟩
    · exact .inl hup
    · refine .inr ⟨other, hlive, ?_⟩
      rw [hothers]
      grind

end Primitives

end LSTAndroid.StatementCache
