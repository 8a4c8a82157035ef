import LSTAndroid.OpenHelperRuns
import LSTAndroid.SessionSafety

namespace LSTAndroid.OpenHelper

open LSTAndroid.ConnectionPool
open LSTAndroid.Library.NestedTransactions
open LSTAndroid.SQLiteSession

variable {D : Type} {helper after : Helper D} {answers : Answers D} {writable : Bool} {db : Nat}
  {state : State (Int × D)}

abbrev Sending (D : Type) := SQLiteSession.Answers (Int × D) → Call (Int × D) → Prop

section Sending

variable {sent : Sending D}

/-- All calls of the session have the property, and no statement finds the file corrupt. -/
def Action.Sends (sent : Sending D) : Action D → Prop
  | .session answers call => sent answers call
  | .corrupt _ => False
  | _ => True

def Callback.Sends (sent : Sending D) (callback : Callback D) : Prop :=
  ∀ action ∈ callback.actions, action.Sends sent

structure Answers.Sends (sent : Sending D) (newVersion : Int) (answers : Answers D) : Prop where
  emptied : answers.emptied = none
  onConfigure : answers.onConfigure.Sends sent
  begins : sent answers.begins
    (.beginTransaction transactionModeExclusive none answers.connectionFlags)
  migration : answers.migration.Sends sent
  starts : sent answers.setVersion (.startStatement .other answers.connectionFlags)
  writes : sent answers.setVersion (.finishStatement (Helper.versionEffect newVersion))
  throws : ∀ effect ∈ answers.setVersionThrows,
    sent answers.setVersion (.finishStatement effect)
  marks : sent answers.ends .setTransactionSuccessful
  ends : sent answers.ends .endTransaction
  onOpen : answers.onOpen.Sends sent

def Event.Sends (sent : Sending D) (newVersion : Int) : Event D → Prop
  | .getDatabase answers _ => answers.Sends sent newVersion
  | .session _ answers call => sent answers call
  | .corrupt _ _ => False
  | _ => True

/-- The runs in which they do. -/
inductive RunOf (sent : Sending D) : Helper D → Helper D → Prop
  | refl (helper : Helper D) : RunOf sent helper helper
  | step {first helper : Helper D} (event : Event D) :
      RunOf sent first helper → event.Sends sent helper.newVersion →
        RunOf sent first (helper.step event)

theorem RunOf.run {first : Helper D} (h : RunOf sent first helper) : Run first helper := by
  induction h with
  | refl => exact .refl _
  | step event _ _ ih => exact .step event ih

/-- One call of the session after another, or another session on the same file. -/
inductive Moves (sent : Sending D) : State (Int × D) → State (Int × D) → Prop
  | refl (state : State (Int × D)) : Moves sent state state
  | call {first state : State (Int × D)} {answers : SQLiteSession.Answers (Int × D)}
      {call : Call (Int × D)} :
      Moves sent first state → state.Allowed call → sent answers call →
        Moves sent first (state.step answers call).1
  | opened {first state : State (Int × D)} :
      Moves sent first state → Moves sent first (.start state.store.durable)

theorem Moves.trans {first last : State (Int × D)} (h : Moves sent first state)
    (hrest : Moves sent state last) : Moves sent first last := by
  induction hrest with
  | refl => exact h
  | call _ hallowed hsent ih => exact .call ih hallowed hsent
  | opened _ ih => exact .opened ih

theorem Moves.preserves {P : State (Int × D) → Prop} {first : State (Int × D)}
    (h : Moves sent first state) (hfirst : P first)
    (hstart : ∀ {state : State (Int × D)}, P state → P (.start state.store.durable))
    (hstep : ∀ {state : State (Int × D)} {answers : SQLiteSession.Answers (Int × D)}
      {call : Call (Int × D)}, P state → state.Allowed call → sent answers call →
        P (state.step answers call).1) : P state := by
  induction h with
  | refl => exact hfirst
  | call _ hallowed hsent ih => exact hstep ih hallowed hsent
  | opened _ ih => exact hstart ih

/-- A statement of a connection that can only read has the property, too. -/
def Readable (sent : Sending D) : Prop :=
  ∀ answers call, sent answers call → sent (readingAnswers answers) (readingCall call)

/-- The part of the helper that the version concerns. -/
structure Moved (sent : Sending D) (helper after : Helper D) : Prop where
  newVersion : after.newVersion = helper.newVersion
  migrations : after.migrations = helper.migrations
  file : Moves sent helper.file after.file

theorem Moved.refl (helper : Helper D) : Moved sent helper helper :=
  ⟨rfl, rfl, .refl _⟩

theorem Moved.trans {between : Helper D} (first : Moved sent helper between)
    (second : Moved sent between after) : Moved sent helper after :=
  ⟨second.newVersion.trans first.newVersion, second.migrations.trans first.migrations,
    first.file.trans second.file⟩

theorem moved_send (hreadable : Readable sent) {sessionAnswers : SQLiteSession.Answers (Int × D)}
    {call : Call (Int × D)} (hsent : sent sessionAnswers call) (db : Nat) (helper : Helper D) :
    Moved sent helper (helper.send sessionAnswers call db).1 := by
  have hallows : helper.file.Allowed call → helper.file.Allowed (readingCall call) := by
    cases call <;> exact id
  unfold Helper.send
  split
  · exact .refl _
  split
  · rename_i hallowed
    refine ⟨rfl, rfl, ?_⟩
    dsimp only
    split
    · exact .call (.refl _) (hallows hallowed) (hreadable _ _ hsent)
    · exact .call (.refl _) hallowed hsent
  · exact .refl _

/-- Finding a database that has been closed makes the helper forget it, and nothing else. -/
theorem findDatabase_frame (writable : Bool) (helper : Helper D) :
    (helper.findDatabase writable).1.file = helper.file ∧
      (helper.findDatabase writable).1.newVersion = helper.newVersion ∧
      (helper.findDatabase writable).1.databases = helper.databases ∧
      (helper.findDatabase writable).1.migrations = helper.migrations := by
  rcases findDatabase_cases writable helper with ⟨db, hfound, -⟩ | hfound | ⟨db, hfound, -⟩
  · rw [hfound]
    exact ⟨rfl, rfl, rfl, rfl⟩
  · rw [hfound]
    exact ⟨rfl, rfl, rfl, rfl⟩
  · rw [hfound]
    exact ⟨rfl, rfl, rfl, rfl⟩

theorem moved_findDatabase (writable : Bool) (helper : Helper D) :
    Moved sent helper (helper.findDatabase writable).1 := by
  obtain ⟨hfile, hnew, -, hmigrations⟩ := findDatabase_frame writable helper
  exact ⟨hnew, hmigrations, hfile ▸ .refl _⟩

theorem moved_act (hreadable : Readable sent) {action : Action D} (hsends : action.Sends sent)
    (db : Nat) (helper : Helper D) : Moved sent helper (helper.act db action) := by
  cases action with
  | session sessionAnswers call => exact moved_send hreadable hsends db helper
  | getDatabase writable => exact moved_findDatabase writable helper
  | close => exact .refl _
  | closeDatabase => exact ⟨rfl, rfl, .refl _⟩
  | corrupt empty => exact hsends.elim

theorem moved_runCallback (hreadable : Readable sent) {callback : Callback D}
    (hsends : callback.Sends sent) (db : Nat) (helper : Helper D) :
    Moved sent helper (helper.runCallback callback db) := by
  obtain ⟨actions, throws⟩ := callback
  change ∀ action ∈ actions, action.Sends sent at hsends
  change Moved sent helper (actions.foldl (Helper.act db) helper)
  induction actions generalizing helper with
  | nil => exact .refl _
  | cons action actions ih =>
      have hact := moved_act hreadable (hsends action List.mem_cons_self) db helper
      exact hact.trans (ih _ fun other hother => hsends other (List.mem_cons_of_mem _ hother))

theorem moved_setVersion (hreadable : Readable sent)
    (hsends : answers.Sends sent helper.newVersion) (db : Nat) :
    Moved sent helper (helper.setVersion answers db).1 := by
  have hstarted := moved_send hreadable hsends.starts db helper
  unfold Helper.setVersion
  split
  · rename_i hstart
    rw [hstart] at hstarted
    exact hstarted
  rename_i started value hstart
  rw [hstart] at hstarted
  split
  · rename_i effect heffect
    exact hstarted.trans (moved_send hreadable (hsends.throws effect heffect) db started)
  · have hwrites : sent answers.setVersion
        (.finishStatement (Helper.versionEffect started.newVersion)) := by
      rw [hstarted.newVersion]
      exact hsends.writes
    have hwritten := hstarted.trans (moved_send hreadable hwrites db started)
    split
    · rename_i hwrite
      rw [hwrite] at hwritten
      exact hwritten
    rename_i written value hwrite
    rw [hwrite] at hwritten
    have hmarked := hwritten.trans (moved_send hreadable hsends.marks db written)
    split
    · rename_i hmark
      rw [hmark] at hmarked
      exact hmarked
    · rename_i hmark
      rw [hmark] at hmarked
      exact hmarked

/-- The method of the subclass is called for the version that the session sees, and that is
not the new one. -/
structure Called (sent : Sending D) (granted : Connection) (helper after : Helper D) : Prop where
  newVersion : after.newVersion = helper.newVersion
  called : ∃ between : State (Int × D), Moves sent helper.file between ∧
    (seenBy granted between).1 ≠ helper.newVersion ∧
    after.migrations =
      Helper.migrationOf (seenBy granted between).1 helper.newVersion :: helper.migrations ∧
    Moves sent between after.file

theorem Called.moved {granted : Connection} {first last : Helper D}
    (hbefore : Moved sent first helper) (h : Called sent granted helper after)
    (hafter : Moved sent after last) : Called sent granted first last := by
  obtain ⟨between, hmoves, hversion, hmigrations, hrest⟩ := h.called
  rw [hbefore.newVersion] at hversion hmigrations
  rw [hbefore.migrations] at hmigrations
  exact ⟨hafter.newVersion.trans (h.newVersion.trans hbefore.newVersion), between,
    hbefore.file.trans hmoves, hversion, hafter.migrations.trans hmigrations,
    hrest.trans hafter.file⟩

theorem called_migrate (hreadable : Readable sent)
    (hsends : answers.Sends sent helper.newVersion)
    (hversion : (seenBy answers.granted helper.file).1 ≠ helper.newVersion) (db : Nat) :
    Moved sent helper
        (helper.migrate answers (seenBy answers.granted helper.file).1 db).1 ∨
      Called sent answers.granted helper
        (helper.migrate answers (seenBy answers.granted helper.file).1 db).1 := by
  generalize hseen : (seenBy answers.granted helper.file).1 = version at hversion ⊢
  have hbegun := moved_send hreadable hsends.begins db helper
  unfold Helper.migrate
  dsimp only
  split
  · rename_i hbegin
    rw [hbegin] at hbegun
    exact .inl hbegun
  rename_i begun value hbegin
  rw [hbegin] at hbegun
  have hcalled : Called sent answers.granted helper (begun.callMigration answers version db) := by
    have hran := moved_runCallback hreadable hsends.migration db { begun with
      migrations := Helper.migrationOf version begun.newVersion :: begun.migrations }
    refine ⟨hran.newVersion.trans hbegun.newVersion, helper.file, .refl _, ?_, ?_, ?_⟩
    · rw [hseen]
      exact hversion
    · rw [hseen, ← hbegun.newVersion, ← hbegun.migrations]
      exact hran.migrations
    · exact hbegun.file.trans hran.file
  have hset : Called sent answers.granted helper (if answers.migration.throws = true then
      (begun.callMigration answers version db, some HelperException.callback)
    else (begun.callMigration answers version db).setVersion answers db).1 := by
    split
    · exact hcalled
    · refine hcalled.moved (.refl _) (moved_setVersion hreadable ?_ db)
      rw [hcalled.newVersion]
      exact hsends
  have hended := hset.moved (.refl _) (moved_send hreadable hsends.ends db _)
  split
  · rename_i hend
    rw [hend] at hended
    exact .inr hended
  · rename_i hend
    rw [hend] at hended
    exact .inr hended

/-- Nothing is called, or the method that the version asks for. -/
def Affected (sent : Sending D) (granted : Connection) (helper after : Helper D) : Prop :=
  Moved sent helper after ∨ Called sent granted helper after

theorem Affected.moved {granted : Connection} {first last : Helper D}
    (hbefore : Moved sent first helper) (h : Affected sent granted helper after)
    (hafter : Moved sent after last) : Affected sent granted first last := by
  rcases h with hmoved | hcalled
  · exact .inl (hbefore.trans (hmoved.trans hafter))
  · exact .inr (hcalled.moved hbefore hafter)

theorem affected_upgrade (hreadable : Readable sent)
    (hsends : answers.Sends sent helper.newVersion) (db : Nat) :
    Affected sent answers.granted helper (helper.upgrade answers db).1 := by
  unfold Helper.upgrade
  split
  · exact .inl (.refl _)
  split
  · exact .inl (.refl _)
  dsimp only
  split
  · exact .inl (.refl _)
  rename_i hversion
  split
  · exact .inl (.refl _)
  · exact called_migrate hreadable hsends hversion db

theorem affected_prepareDatabase (hreadable : Readable sent)
    (hsends : answers.Sends sent helper.newVersion) (db : Nat) :
    Affected sent answers.granted helper (helper.prepareDatabase answers db).1 := by
  have hconfigured := moved_runCallback hreadable hsends.onConfigure db helper
  have hstill : answers.Sends sent (helper.runCallback answers.onConfigure db).newVersion := by
    rwa [hconfigured.newVersion]
  have hupgraded := affected_upgrade hreadable hstill db
  unfold Helper.prepareDatabase
  dsimp only
  split
  · exact .inl hconfigured
  split
  · rename_i hupgrade
    rw [hupgrade] at hupgraded
    exact hupgraded.moved hconfigured (.refl _)
  · rename_i upgraded hupgrade
    rw [hupgrade] at hupgraded
    have hopened := hupgraded.moved hconfigured
      (moved_runCallback hreadable hsends.onOpen db upgraded)
    split
    · exact hopened
    · exact hopened.moved (.refl _) ⟨rfl, rfl, .refl _⟩

theorem moved_obtainDatabase {opened : Option Nat} {failure : Option HelperException}
    (hemptied : answers.emptied = none)
    (hobtain : helper.obtainDatabase answers writable = (after, opened, failure)) :
    Moved sent helper after ∧ after.stored = helper.stored := by
  unfold Helper.obtainDatabase at hobtain
  split at hobtain
  · split at hobtain
    · split at hobtain <;> obtain ⟨rfl, -, -⟩ := hobtain <;> exact ⟨⟨rfl, rfl, .refl _⟩, rfl⟩
    · obtain ⟨rfl, -, -⟩ := hobtain
      exact ⟨.refl _, rfl⟩
  · have hsame : helper.deleteCorrupt answers.emptied = helper := by
      rw [hemptied]
      rfl
    rw [hsame] at hobtain
    dsimp only at hobtain
    split at hobtain
    · obtain ⟨rfl, -, -⟩ := hobtain
      exact ⟨⟨rfl, rfl, .opened (.refl _)⟩, rfl⟩
    split at hobtain
    · obtain ⟨rfl, -, -⟩ := hobtain
      exact ⟨.refl _, rfl⟩
    split at hobtain
    · obtain ⟨rfl, -, -⟩ := hobtain
      exact ⟨⟨rfl, rfl, .opened (.refl _)⟩, rfl⟩
    · obtain ⟨rfl, -, -⟩ := hobtain
      exact ⟨.refl _, rfl⟩

theorem moved_finish (db : Nat) (helper : Helper D) : Moved sent helper (helper.finish db) := by
  obtain ⟨-, -, hnew, hfile, hmigrations⟩ := finish_frame db helper
  exact ⟨hnew, hmigrations, hfile ▸ .refl _⟩

theorem affected_getDatabaseLocked {result : Except HelperException Nat}
    (hreadable : Readable sent) (hsends : answers.Sends sent helper.newVersion)
    (hidle : helper.isInitializing = false)
    (hget : helper.getDatabaseLocked answers writable = (after, result)) :
    Affected sent answers.granted helper after := by
  have hfound : Moved sent helper (helper.findDatabase writable).1 :=
    moved_findDatabase writable helper
  have hobtained : ∀ {found obtained : Helper D} {opened : Option Nat}
      {failure : Option HelperException}, helper.findDatabase writable = (found, none) →
      Helper.obtainDatabase answers writable { found with isInitializing := true } =
        (obtained, opened, failure) → Moved sent helper obtained := by
    intro found obtained opened failure hfind hobtain
    rw [hfind] at hfound
    have hflagged : Moved sent helper { found with isInitializing := true } :=
      ⟨hfound.newVersion, hfound.migrations, hfound.file⟩
    exact hflagged.trans (moved_obtainDatabase hsends.emptied hobtain).1
  cases getDatabaseLocked_course hidle hget with
  | busy hfind =>
      rw [hfind] at hfound
      exact .inl hfound
  | none hfind hobtain =>
      have hmoved := hobtained hfind hobtain
      exact .inl ⟨hmoved.newVersion, hmoved.migrations, hmoved.file⟩
  | failed hfind hobtain =>
      exact .inl ((hobtained hfind hobtain).trans (moved_finish _ _))
  | @prepared found obtained prepared db failure hfind hobtain hprepare =>
      have hmoved := hobtained hfind hobtain
      have hstill : answers.Sends sent obtained.newVersion := by rwa [hmoved.newVersion]
      have hprepared := affected_prepareDatabase hreadable hstill db
      rw [hprepare] at hprepared
      exact hprepared.moved hmoved (moved_finish db prepared)

theorem affected_step (hreadable : Readable sent) (hidle : helper.isInitializing = false)
    {event : Event D} (hsends : event.Sends sent helper.newVersion) :
    Moved sent helper (helper.step event) ∨
      ∃ granted, Called sent granted helper (helper.step event) := by
  cases event with
  | getDatabase answers writable =>
      have hserved : Affected sent answers.granted helper
          (helper.step (.getDatabase answers writable)) :=
        affected_getDatabaseLocked hreadable hsends hidle rfl
      exact hserved.imp_right fun hcalled => ⟨_, hcalled⟩
  | close =>
      rw [Helper.step, Helper.close, hidle, if_neg Bool.false_ne_true]
      split
      · split
        · exact .inl ⟨rfl, rfl, .refl _⟩
        · exact .inl (.refl _)
      · exact .inl (.refl _)
  | session db sessionAnswers call => exact .inl (moved_send hreadable hsends db helper)
  | closeDatabase db => exact .inl ⟨rfl, rfl, .refl _⟩
  | corrupt db empty => exact hsends.elim

end Sending

section Versions

/-- The database does not refuse to end a transaction, and no statement begins or ends one by
itself. -/
def orderly : Sending D := fun answers call => answers.Orderly ∧ call.Orderly

theorem orderly_reading {answers : SQLiteSession.Answers D} (h : answers.Orderly) :
    (readingAnswers answers).Orderly := by
  refine ⟨h.ending, fun effect hheard => ?_⟩
  obtain ⟨heard, hmem, rfl⟩ := List.mem_map.mp hheard
  exact (h.keeps heard hmem).reading

theorem readable_orderly : Readable (orderly : Sending D) := by
  rintro answers call ⟨hanswers, hcall⟩
  refine ⟨orderly_reading hanswers, ?_⟩
  cases call with
  | yieldTransaction throwIfUnsafe later => exact orderly_reading hcall
  | finishStatement effect => exact Effect.Keeps.reading hcall
  | _ => exact trivial

theorem Moves.orderly {sent : Sending D} {first : State (Int × D)} (h : Moves sent first state)
    (hsent : ∀ answers call, sent answers call → orderly answers call)
    (hfirst : SQLiteSession.Orderly first) : SQLiteSession.Orderly state :=
  h.preserves hfirst (fun _ => .start _) fun hbefore hallowed hcall =>
    .step _ _ hbefore hallowed (hsent _ _ hcall).1 (hsent _ _ hcall).2

def VersionIn (version newVersion : Int) (stored : Int × D) : Prop :=
  stored.1 = version ∨ stored.1 = newVersion

/-- Whatever version the data have, no statement writes another than the new one. -/
def tame (newVersion : Int) : Sending D := fun answers call =>
  orderly answers call ∧ ∀ version,
    answers.Preserves (VersionIn version newVersion) ∧ call.Preserves (VersionIn version newVersion)

theorem preserves_reading {p : D → Prop} {answers : SQLiteSession.Answers D}
    (h : answers.Preserves p) : (readingAnswers answers).Preserves p := by
  intro effect hheard
  obtain ⟨heard, hmem, rfl⟩ := List.mem_map.mp hheard
  exact (h heard hmem).reading

theorem readable_tame (newVersion : Int) : Readable (tame newVersion : Sending D) := by
  rintro answers call ⟨horderly, hversions⟩
  refine ⟨readable_orderly answers call horderly, fun version => ?_⟩
  obtain ⟨hanswers, hcall⟩ := hversions version
  refine ⟨preserves_reading hanswers, ?_⟩
  cases call with
  | yieldTransaction throwIfUnsafe later => exact preserves_reading hcall
  | finishStatement effect => exact Effect.Preserves.reading hcall
  | _ => exact trivial

/-- The versions of all data, and once the new one is durable, there is no other. -/
structure Versions (version newVersion : Int) (state : State (Int × D)) : Prop where
  orderly : SQLiteSession.Orderly state
  all : state.store.All (VersionIn version newVersion)
  current : state.store.durable.1 = newVersion →
    state.store.All (VersionIn newVersion newVersion)

theorem Versions.start {version newVersion : Int} (h : Versions version newVersion state) :
    Versions version newVersion (.start state.store.durable) :=
  ⟨.start _, ⟨h.all.1, nofun⟩, fun hcurrent => ⟨.inl hcurrent, nofun⟩⟩

theorem Answers.Preserves.listened {p : D → Prop} {answers : SQLiteSession.Answers D} {data : D}
    (h : answers.Preserves p) (listener : Option Nat) (hdata : p data) :
    p (answers.listened listener data) := by
  cases listener with
  | none => exact hdata
  | some listener => exact Effect.Preserves.applyAll h hdata

theorem Versions.step {version newVersion : Int} {answers : SQLiteSession.Answers (Int × D)}
    {call : Call (Int × D)} (h : Versions version newVersion state)
    (hallowed : state.Allowed call) (htame : tame newVersion answers call) :
    Versions version newVersion (state.step answers call).1 := by
  obtain ⟨⟨horderly, hcall⟩, hversions⟩ := htame
  have hafter : SQLiteSession.Orderly (state.step answers call).1 :=
    .step answers call h.orderly hallowed horderly hcall
  have hall : ∀ version, state.store.All (VersionIn version newVersion) →
      (state.step answers call).1.store.All (VersionIn version newVersion) := fun version hbefore =>
    all_step answers call hbefore (hversions version).1 (hversions version).2
  refine ⟨hafter, hall version h.all, fun hcurrent => ?_⟩
  by_cases hbefore : state.store.durable.1 = newVersion
  · exact hall newVersion (h.current hbefore)
  refine ⟨.inl hcurrent, fun entry hentry => ?_⟩
  rcases (h.orderly.durable_changes call hallowed horderly hcall rfl).2 with
    hkept | ⟨effect, rfl, hstack, -⟩
  · rcases hkept with
      hsame | ⟨top, owner, data, -, -, -, -, -, ⟨-, hnone⟩ | ⟨later, hlater, other, hworking⟩⟩
    · exact absurd (hsame ▸ hcurrent) hbefore
    · rw [hnone] at hentry
      cases hentry
    · rw [hworking] at hentry
      obtain rfl := List.mem_singleton.mp hentry
      have hpreserves : later.Preserves (VersionIn newVersion newVersion) := by
        cases call with
        | yieldTransaction throwIfUnsafe again =>
            obtain rfl := Option.some.inj hlater
            exact (hversions newVersion).2
        | _ => cases hlater
      exact Answers.Preserves.listened hpreserves top.listener (.inl hcurrent)
  · -- Outside of every transaction there is no working copy.
    have hidle : (state.step answers (.finishStatement effect)).1.store.working = [] := by
      refine hafter.matched.idle ?_
      simpa [State.step] using hstack
    rw [hidle] at hentry
    cases hentry

theorem Versions.seenBy {version newVersion : Int} (h : Versions version newVersion state)
    (granted : Connection) : VersionIn version newVersion (seenBy granted state) := by
  unfold OpenHelper.seenBy
  dsimp only
  rcases hlookup : state.store.working.lookup
    (state.session.connection.getD granted).connectionId with _ | data
  · exact h.all.1
  · exact h.all.lookup hlookup

theorem Moves.versions {version newVersion : Int} {first : State (Int × D)}
    (h : Moves (tame newVersion) first state) (hfirst : Versions version newVersion first) :
    Versions version newVersion state :=
  h.preserves hfirst Versions.start fun hbefore hallowed htame => hbefore.step hallowed htame

theorem Versions.settled {version newVersion : Int} (h : Versions version newVersion state)
    (hcurrent : state.store.durable.1 = newVersion) : Versions newVersion newVersion state :=
  ⟨h.orderly, h.current hcurrent, h.current⟩

theorem Versions.current_version {newVersion : Int} (h : Versions newVersion newVersion state) :
    state.store.durable.1 = newVersion :=
  h.all.1.elim id id

structure Migrating (version newVersion : Int) (helper : Helper D) : Prop where
  settled : Settled helper
  expected : helper.newVersion = newVersion
  versions : Versions version newVersion helper.file

theorem Migrating.step {version newVersion : Int} (h : Migrating version newVersion helper)
    {event : Event D} (hsends : event.Sends (tame newVersion) helper.newVersion) :
    Migrating version newVersion (helper.step event) ∧
      ((helper.step event).migrations = helper.migrations ∨ version ≠ newVersion ∧
        (helper.step event).migrations =
          Helper.migrationOf version newVersion :: helper.migrations) := by
  have hsettled := h.settled.step event
  rcases affected_step (readable_tame newVersion) h.settled.isInitializing hsends with
    hmoved | ⟨granted, hcalled⟩
  · refine ⟨⟨hsettled, hmoved.newVersion.trans h.expected, hmoved.file.versions h.versions⟩, ?_⟩
    exact .inl hmoved.migrations
  · obtain ⟨between, hmoves, hne, hmigrations, hrest⟩ := hcalled.called
    rw [h.expected] at hne hmigrations
    have hbetween := hmoves.versions h.versions
    have hversion : (seenBy granted between).1 = version :=
      (hbetween.seenBy granted).resolve_right hne
    rw [hversion] at hne hmigrations
    exact ⟨⟨hsettled, hcalled.newVersion.trans h.expected, hrest.versions hbetween⟩,
      .inr ⟨hne, hmigrations⟩⟩

theorem migrating_start (newVersion : Int) (stored : Int × D) :
    Migrating stored.1 newVersion (Helper.start newVersion stored) :=
  ⟨settled_start newVersion stored, rfl,
    ⟨.start stored, ⟨.inl rfl, nofun⟩, fun hcurrent => ⟨.inl hcurrent, nofun⟩⟩⟩

theorem RunOf.migrating {version newVersion : Int} {first : Helper D}
    (h : RunOf (tame newVersion) first helper) (hfirst : Migrating version newVersion first) :
    Migrating version newVersion helper ∧
      ∀ migration ∈ helper.migrations, migration ∈ first.migrations ∨
        version ≠ newVersion ∧ migration = Helper.migrationOf version newVersion := by
  induction h with
  | refl => exact ⟨hfirst, fun migration hmem => .inl hmem⟩
  | step event _ hsends ih =>
      obtain ⟨hstep, hcalls⟩ := ih.1.step hsends
      refine ⟨hstep, fun migration hmem => ?_⟩
      rcases hcalls with hsame | ⟨hne, hcons⟩
      · exact ih.2 migration (hsame ▸ hmem)
      · rw [hcons] at hmem
        rcases List.mem_cons.mp hmem with rfl | hmem
        · exact .inr ⟨hne, rfl⟩
        · exact ih.2 migration hmem

theorem RunOf.migrations_kept {newVersion : Int} {first : Helper D}
    (h : RunOf (tame newVersion) first helper) (hfirst : Migrating newVersion newVersion first) :
    helper.migrations = first.migrations := by
  induction h with
  | refl => rfl
  | step event hbefore hsends ih =>
      rcases ((hbefore.migrating hfirst).1.step hsends).2 with hsame | ⟨hne, -⟩
      · exact hsame.trans ih
      · exact absurd rfl hne

/-- In a run in which the file is never found corrupt, the database does not refuse to end a
transaction, and no statement begins or ends one by itself or writes another version than the
new one: the file has the version that it had or the new one; as soon as it has the new one, it
keeps it, and `onCreate`, `onUpgrade` and `onDowngrade` are not called again; before, only the
one of them is called that the old version asks for. -/
theorem RunOf.migrates_once {newVersion : Int} {stored : Int × D} {between : Helper D}
    (h : RunOf (tame newVersion) (Helper.start newVersion stored) between)
    (hrest : RunOf (tame newVersion) between helper) :
    (between.stored.1 = stored.1 ∨ between.stored.1 = newVersion) ∧
      (∀ migration ∈ between.migrations,
        stored.1 ≠ newVersion ∧ migration = Helper.migrationOf stored.1 newVersion) ∧
      (between.stored.1 = newVersion →
        helper.stored.1 = newVersion ∧ helper.migrations = between.migrations) := by
  obtain ⟨hbetween, hmigrations⟩ := h.migrating (migrating_start newVersion stored)
  refine ⟨hbetween.versions.all.1, fun migration hmem => ?_, fun hcurrent => ?_⟩
  · exact (hmigrations migration hmem).resolve_left List.not_mem_nil
  · have hmigrated : Migrating newVersion newVersion between :=
      ⟨hbetween.settled, hbetween.expected, hbetween.versions.settled hcurrent⟩
    exact ⟨(hrest.migrating hmigrated).1.versions.current_version,
      hrest.migrations_kept hmigrated⟩

end Versions

section Migrations

variable {outer : Transaction} {below : List Transaction} {failure : Option HelperException}

/-- The transaction is still open, above the same others, and unmarked if it was. -/
def Inside (outer : Transaction) (below : List Transaction) (state : State D) : Prop :=
  ∃ inner childFailed, state.session.transactionStack =
    inner ++ { outer with childFailed := childFailed } :: below

theorem Inside.ne_nil {state : State D} (h : Inside outer below state) :
    state.session.transactionStack ≠ [] := by
  obtain ⟨inner, childFailed, hstack⟩ := h
  rw [hstack]
  exact List.append_ne_nil_of_right_ne_nil _ (List.cons_ne_nil _ _)

def Action.again : Action D → Option (SQLiteSession.Answers (Int × D))
  | .session _ call => call.again
  | _ => none

def StaysInside (outer : Transaction) (below : List Transaction) (db : Nat) :
    Helper D → List (Action D) → Prop
  | _, [] => True
  | helper, action :: actions =>
      action.again = none ∧ Inside outer below (helper.act db action).file ∧
        StaysInside outer below db (helper.act db action) actions

/-- Nor does the callback, whatever transaction it is called in. -/
def Callback.StaysInside (callback : Callback D) : Prop :=
  ∀ (helper : Helper D) (db : Nat) (outer : Transaction) (below : List Transaction),
    SQLiteSession.Orderly helper.file →
    helper.file.session.transactionStack = outer :: below → outer.markedSuccessful = false →
      OpenHelper.StaysInside outer below db helper callback.actions

theorem isReadOnly_act (action : Action D) :
    (helper.act db action).isReadOnly db = helper.isReadOnly db := by
  have hclose : (helper.closeDatabase db).isReadOnly db = helper.isReadOnly db := by
    unfold Helper.isReadOnly Helper.closeDatabase
    dsimp only
    rw [List.getElem?_modify]
    rcases helper.databases[db]? with _ | database <;> simp
  cases action with
  | session sessionAnswers call =>
      unfold Helper.act Helper.isReadOnly
      rw [(sameDatabases_send sessionAnswers call db helper).databases]
  | getDatabase writable =>
      rw [Helper.act, Helper.isReadOnly, (findDatabase_frame writable helper).2.2.1]
      rfl
  | close => rfl
  | closeDatabase => exact hclose
  | corrupt empty =>
      unfold Helper.act Helper.onCorruption
      dsimp only
      split
      · exact hclose
      · rfl

theorem send_cases {sessionAnswers : SQLiteSession.Answers (Int × D)} {call : Call (Int × D)}
    {result : Except HelperException Bool} (hwritable : helper.isReadOnly db = false)
    (hsend : helper.send sessionAnswers call db = (after, result)) :
    after = helper ∧ (∃ failure, result = .error failure) ∨
      helper.file.Allowed call ∧
        after = { helper with file := (helper.file.step sessionAnswers call).1 } ∧
        result = (helper.file.step sessionAnswers call).2.mapError .session := by
  unfold Helper.send at hsend
  split at hsend
  · obtain ⟨rfl, rfl⟩ := Prod.mk.inj hsend
    exact .inl ⟨rfl, _, rfl⟩
  split at hsend
  · rename_i hallowed
    rw [hwritable, if_neg Bool.false_ne_true] at hsend
    obtain ⟨rfl, rfl⟩ := Prod.mk.inj hsend
    exact .inr ⟨hallowed, rfl, rfl⟩
  · obtain ⟨rfl, rfl⟩ := Prod.mk.inj hsend
    exact .inl ⟨rfl, _, rfl⟩

theorem act_durable {action : Action D} (horderly : SQLiteSession.Orderly helper.file)
    (hwritable : helper.isReadOnly db = false) (hsends : action.Sends orderly)
    (hagain : action.again = none) (hbefore : helper.file.session.transactionStack ≠ [])
    (hafter : (helper.act db action).file.session.transactionStack ≠ []) :
    SQLiteSession.Orderly (helper.act db action).file ∧
      (helper.act db action).stored = helper.stored := by
  cases action with
  | session sessionAnswers call =>
      rcases hsend : helper.send sessionAnswers call db with ⟨sent, result⟩
      rw [Helper.act, hsend] at hafter ⊢
      rcases send_cases hwritable hsend with ⟨rfl, -⟩ | ⟨hallowed, rfl, -⟩
      · exact ⟨horderly, rfl⟩
      · refine ⟨.step _ _ horderly hallowed hsends.1 hsends.2, ?_⟩
        exact horderly.durable_within hallowed hsends.1 hsends.2 hagain hbefore hafter
  | getDatabase writable =>
      rw [Helper.act, Helper.stored, (findDatabase_frame writable helper).1]
      exact ⟨horderly, rfl⟩
  | close => exact ⟨horderly, rfl⟩
  | closeDatabase => exact ⟨horderly, rfl⟩
  | corrupt empty => exact hsends.elim

/-- What a callback does inside a transaction does not become durable before its end. -/
theorem runCallback_durable {callback : Callback D}
    (horderly : SQLiteSession.Orderly helper.file) (hwritable : helper.isReadOnly db = false)
    (hsends : callback.Sends orderly) (hinside : Inside outer below helper.file)
    (hstays : StaysInside outer below db helper callback.actions) :
    SQLiteSession.Orderly (helper.runCallback callback db).file ∧
      (helper.runCallback callback db).isReadOnly db = false ∧
      (helper.runCallback callback db).stored = helper.stored ∧
      Inside outer below (helper.runCallback callback db).file := by
  obtain ⟨actions, throws⟩ := callback
  change ∀ action ∈ actions, action.Sends orderly at hsends
  unfold Helper.runCallback
  dsimp only at hstays ⊢
  induction actions generalizing helper with
  | nil => exact ⟨horderly, hwritable, rfl, hinside⟩
  | cons action actions ih =>
      obtain ⟨hagain, hacted, hrest⟩ := hstays
      obtain ⟨hactedOrderly, hkept⟩ := act_durable horderly hwritable
        (hsends action List.mem_cons_self) hagain hinside.ne_nil hacted.ne_nil
      obtain ⟨hlast, hlastWritable, hdurable, hlastInside⟩ := ih hactedOrderly
        ((isReadOnly_act action).trans hwritable) hacted hrest
        fun other hother => hsends other (List.mem_cons_of_mem _ hother)
      exact ⟨hlast, hlastWritable, hdurable.trans hkept, hlastInside⟩

def migrationTransaction : Transaction :=
  ⟨transactionModeExclusive, none, false, false⟩

theorem begin_migration {result : Except HelperException Bool}
    (horderly : SQLiteSession.Orderly helper.file) (hwritable : helper.isReadOnly db = false)
    (hsends : answers.Sends orderly helper.newVersion)
    (hsend : helper.send answers.begins
      (.beginTransaction transactionModeExclusive none answers.connectionFlags) db =
        (after, result)) :
    SQLiteSession.Orderly after.file ∧ after.isReadOnly db = false ∧
      after.stored = helper.stored ∧ ∀ value, result = .ok value →
        after.file.session.transactionStack =
          migrationTransaction :: helper.file.session.transactionStack := by
  rcases send_cases hwritable hsend with ⟨rfl, failure, rfl⟩ | ⟨hallowed, rfl, rfl⟩
  · exact ⟨horderly, hwritable, rfl, nofun⟩
  rcases hbegin : helper.file.beginTransaction answers.begins transactionModeExclusive none
    answers.connectionFlags with ⟨begun, answer⟩
  have hbegun := beginTransaction_begun horderly.reachable.sane horderly.matched
    hsends.begins.1 hbegin
  have hdurable := (hbegun.matched horderly.matched).2
  have hstep : helper.file.step answers.begins
      (.beginTransaction transactionModeExclusive none answers.connectionFlags) =
        (begun, answer.map fun _ => true) := by
    rw [State.step, hbegin]
  have hafter : SQLiteSession.Orderly begun := by
    have horderlyStep := SQLiteSession.Orderly.step answers.begins _ horderly hallowed
      hsends.begins.1 hsends.begins.2
    rw [hstep] at horderlyStep
    exact horderlyStep
  rw [hstep]
  refine ⟨hafter, hwritable, hdurable, fun value hvalue => ?_⟩
  cases hbegun with
  | failed failure => cases hvalue
  | nested hopen hheard =>
      have hstack := hheard.stack
      simp [State.pushTransaction, hstack, migrationTransaction]
  | outermost connection hempty hnew => exact hnew.trans (by rw [hempty, migrationTransaction])

/-- The version has been written and the innermost transaction is marked, or an exception has
left it unmarked. -/
inductive VersionSet (helper : Helper D) : Helper D → Option HelperException → Prop
  | failed {after : Helper D} (failure : HelperException) :
      after.file.session.transactionStack = helper.file.session.transactionStack →
      VersionSet helper after (some failure)
  | marked {after : Helper D} {top : Transaction} {rest : List Transaction} {owner : Nat}
      {copy : Int × D} :
      helper.file.session.transactionStack = top :: rest →
      after.file.session.transactionStack = { top with markedSuccessful := true } :: rest →
      helper.file.store.working = [(owner, copy)] →
      after.file.store.working = [(owner, (helper.newVersion, copy.2))] →
      VersionSet helper after none

theorem setVersion_versionSet (horderly : SQLiteSession.Orderly helper.file)
    (hwritable : helper.isReadOnly db = false) (hsends : answers.Sends orderly helper.newVersion)
    (hopen : helper.file.session.transactionStack ≠ [])
    (hset : helper.setVersion answers db = (after, failure)) :
    SQLiteSession.Orderly after.file ∧ after.isReadOnly db = false ∧
      after.stored = helper.stored ∧ VersionSet helper after failure := by
  unfold Helper.setVersion at hset
  rcases hstart : helper.send answers.setVersion (.startStatement .other answers.connectionFlags)
    db with ⟨started, result⟩
  have hstarted : SQLiteSession.Orderly started.file ∧ started.isReadOnly db = false ∧
      started.newVersion = helper.newVersion ∧ started.file.store = helper.file.store ∧
      started.file.session.transactionStack = helper.file.session.transactionStack := by
    rcases send_cases hwritable hstart with ⟨rfl, -⟩ | ⟨hallowed, rfl, -⟩
    · exact ⟨horderly, hwritable, rfl, rfl, rfl⟩
    · obtain ⟨hstore, hstack⟩ := startStatement_other answers.setVersion
        answers.connectionFlags helper.file
      exact ⟨.step _ _ horderly hallowed hsends.starts.1 hsends.starts.2, hwritable, rfl, hstore,
        hstack⟩
  obtain ⟨hstartedOrderly, hstartedWritable, hstartedNew, hstartedStore, hstartedStack⟩ := hstarted
  rw [hstart] at hset
  rcases result with exception | value
  · obtain ⟨rfl, rfl⟩ := Prod.mk.inj hset
    exact ⟨hstartedOrderly, hstartedWritable, congrArg Store.durable hstartedStore,
      .failed _ hstartedStack⟩
  dsimp only at hset
  have hfinish : ∀ {effect : Effect (Int × D)} {finished : Helper D}
      {result : Except HelperException Bool},
      orderly answers.setVersion (.finishStatement effect) →
      started.send answers.setVersion (.finishStatement effect) db = (finished, result) →
      SQLiteSession.Orderly finished.file ∧ finished.isReadOnly db = false ∧
        finished.stored = helper.stored ∧
        finished.file.session.transactionStack = helper.file.session.transactionStack ∧
        ∀ value, result = .ok value → ∃ owner copy,
          helper.file.store.working = [(owner, copy)] ∧
            finished.file.store.working = [(owner, effect.apply copy)] := by
    intro effect finished result heffect hsend
    rcases send_cases hstartedWritable hsend with ⟨rfl, failure, rfl⟩ | ⟨hallowed, rfl, rfl⟩
    · exact ⟨hstartedOrderly, hstartedWritable, congrArg Store.durable hstartedStore,
        hstartedStack, nofun⟩
    · obtain ⟨connection, copy, hconnection, hstore⟩ :=
        hstartedOrderly.matched.store_within (by rwa [hstartedStack])
      have hfinished := finishStatement_within heffect.2 hconnection hstore
      have hdurable : started.file.store.durable = helper.file.store.durable := by
        rw [hstartedStore]
      refine ⟨.step _ _ hstartedOrderly hallowed heffect.1 heffect.2, hstartedWritable, ?_, ?_,
        fun value _ => ⟨connection.connectionId, copy, ?_, ?_⟩⟩
      · exact (congrArg Store.durable hfinished).trans hdurable
      · exact (finishStatement_transactionStack effect started.file).trans hstartedStack
      · rw [← hstartedStore, hstore]
      · exact congrArg Store.working hfinished
  split at hset
  · rename_i effect heffect
    rcases hsend : started.send answers.setVersion (.finishStatement effect) db with
      ⟨finished, result⟩
    obtain ⟨hfinished, hstill, hstored, hstack, -⟩ := hfinish (hsends.throws effect heffect) hsend
    rw [hsend] at hset
    obtain ⟨rfl, rfl⟩ := Prod.mk.inj hset
    exact ⟨hfinished, hstill, hstored, .failed _ hstack⟩
  rcases hsend : started.send answers.setVersion
    (.finishStatement (Helper.versionEffect started.newVersion)) db with ⟨written, result⟩
  have hwrites : orderly answers.setVersion
      (.finishStatement (Helper.versionEffect started.newVersion)) := by
    rw [hstartedNew]
    exact hsends.writes
  obtain ⟨hwritten, hstill, hstored, hstack, hworking⟩ := hfinish hwrites hsend
  rw [hsend] at hset
  rcases result with exception | value
  · obtain ⟨rfl, rfl⟩ := Prod.mk.inj hset
    exact ⟨hwritten, hstill, hstored, .failed _ hstack⟩
  obtain ⟨owner, copy, hbefore, hcopy⟩ := hworking value rfl
  rw [hstartedNew] at hcopy
  rcases hmark : written.send answers.ends .setTransactionSuccessful db with ⟨marked, result⟩
  simp only [hmark] at hset
  rcases send_cases hstill hmark with ⟨rfl, exception, rfl⟩ | ⟨hallowed, rfl, rfl⟩
  · obtain ⟨rfl, rfl⟩ := Prod.mk.inj hset
    exact ⟨hwritten, hstill, hstored, .failed _ hstack⟩
  have horderlyMarked := SQLiteSession.Orderly.step answers.ends .setTransactionSuccessful hwritten
    hallowed hsends.marks.1 hsends.marks.2
  have hstoreMarked := setTransactionSuccessful_store written.file
  rcases hsuccess : written.file.setTransactionSuccessful with ⟨state, answer⟩
  have hstep : written.file.step answers.ends .setTransactionSuccessful =
      (state, answer.map fun _ => true) := by
    rw [State.step, hsuccess]
  rw [hsuccess] at hstoreMarked
  rw [hstep] at hset horderlyMarked
  have hstoredMarked : state.store.durable = helper.file.store.durable :=
    (congrArg Store.durable hstoreMarked).trans hstored
  rcases setTransactionSuccessful_cases hsuccess with
    ⟨⟨exception, rfl⟩, rfl⟩ | ⟨rfl, top, rest, htop, -, rfl⟩
  · obtain ⟨rfl, rfl⟩ := Prod.mk.inj hset
    exact ⟨horderlyMarked, hstill, hstoredMarked, .failed _ hstack⟩
  · obtain ⟨rfl, rfl⟩ := Prod.mk.inj hset
    exact ⟨horderlyMarked, hstill, hstoredMarked,
      .marked (hstack.symm.trans htop) rfl hbefore hcopy⟩

/-- The helper right after the method of the subclass. -/
def Helper.migrating (answers : Answers D) (version : Int) (db : Nat) (helper : Helper D) :
    Helper D :=
  (helper.send answers.begins
    (.beginTransaction transactionModeExclusive none answers.connectionFlags) db).1.callMigration
      answers version db

/-- What the method of the subclass has done becomes durable together with the new version, or
neither; without an exception it does, unless a transaction is left open or one has failed. -/
inductive Migrated (answers : Answers D) (version : Int) (db : Nat) (helper : Helper D) :
    Helper D → Option HelperException → Prop
  | neither {after : Helper D} {failure : Option HelperException} :
      after.stored = helper.stored →
      (failure = none → (helper.migrating answers version db).file.session.transactionStack ≠
        [migrationTransaction]) →
      Migrated answers version db helper after failure
  | together {after : Helper D} {failure : Option HelperException} {owner : Nat}
      {copy : Int × D} :
      answers.migration.throws = false →
      (helper.migrating answers version db).file.session.transactionStack =
        [migrationTransaction] →
      (helper.migrating answers version db).file.store.working = [(owner, copy)] →
      after.stored = (helper.newVersion, copy.2) →
      Migrated answers version db helper after failure

theorem Inside.eq_singleton {state : State D} {top : Transaction}
    (h : Inside outer below state) (hstack : state.session.transactionStack = [top]) :
    ∃ childFailed, top = { outer with childFailed := childFailed } := by
  obtain ⟨inner, childFailed, hinside⟩ := h
  rw [hstack] at hinside
  rcases inner with _ | ⟨other, inner⟩
  · exact ⟨childFailed, (List.cons.inj hinside).1⟩
  · have hlength := congrArg List.length hinside
    simp at hlength

theorem end_migration {called set ended : Helper D} {answer : Except HelperException Bool}
    (horderly : SQLiteSession.Orderly set.file) (hwritable : set.isReadOnly db = false)
    (hsends : answers.Sends orderly called.newVersion)
    (hinside : Inside migrationTransaction below called.file)
    (hset : VersionSet called set failure)
    (hend : set.send answers.ends .endTransaction db = (ended, answer)) :
    ended.stored = set.stored ∧ (failure = none → (∃ value, answer = .ok value) →
        called.file.session.transactionStack ≠ [migrationTransaction]) ∨
      failure = none ∧ called.file.session.transactionStack = [migrationTransaction] ∧
        ∃ owner copy, called.file.store.working = [(owner, copy)] ∧
          ended.stored = (called.newVersion, copy.2) := by
  have hthrown : ∀ {exception : HelperException},
      ¬ ∃ value, (.error exception : Except HelperException Bool) = .ok value := by
    rintro exception ⟨value, hvalue⟩
    cases hvalue
  rcases send_cases hwritable hend with ⟨rfl, exception, rfl⟩ | ⟨hallowed, rfl, rfl⟩
  · exact .inl ⟨rfl, fun _ hvalue => absurd hvalue hthrown⟩
  rcases hended : set.file.endTransaction answers.ends with ⟨state, result⟩
  have hstep : set.file.step answers.ends .endTransaction =
      (state, result.map fun _ => true) := by
    rw [State.step, hended]
  rw [hstep]
  cases endTransaction_ended horderly.matched hsends.ends.1 hended with
  | failed exception => exact .inl ⟨rfl, fun _ hvalue => absurd hvalue hthrown⟩
  | nested hheard hstore _ _ htail =>
      refine .inl ⟨(congrArg Store.durable hstore).trans hheard.durable, fun hnone _ hstack => ?_⟩
      cases hset with
      | failed => cases hnone
      | marked hcalled hmarked =>
          rw [hstack] at hcalled
          obtain ⟨-, rfl⟩ := List.cons.inj hcalled
          rw [hmarked] at htail
          exact htail rfl
  | outermost top connection data successful hstack hstore hanswer _ hdone =>
      cases hset with
      | failed exception hsame =>
          obtain ⟨childFailed, rfl⟩ := hinside.eq_singleton (hsame.symm.trans hstack)
          refine .inl ⟨?_, fun hnone => absurd hnone (Option.some_ne_none exception)⟩
          have hfalse : successful = false := by
            rcases hanswer with ⟨-, hfalse⟩ | ⟨-, hfalse⟩
            · exact hfalse
            · exact hfalse
          rw [hfalse] at hdone
          exact (congrArg Store.durable hdone).trans rfl
      | @marked first rest owner copy hcalled hmarked hbefore hcopy =>
          obtain ⟨rfl, rfl⟩ := List.cons.inj (hmarked.symm.trans hstack)
          obtain ⟨childFailed, rfl⟩ := hinside.eq_singleton hcalled
          have hdata : data = (called.newVersion, copy.2) := by
            have hworking := hcopy.symm.trans (congrArg Store.working hstore)
            exact (Prod.mk.inj (List.cons.inj hworking).1).2.symm
          rcases hanswer with ⟨rfl, rfl⟩ | ⟨rfl, hsuccessful⟩
          · exact .inl ⟨(congrArg Store.durable hdone).trans rfl,
              fun _ hvalue => absurd hvalue hthrown⟩
          rcases childFailed with _ | _
          · obtain rfl : successful = true := hsuccessful
            refine .inr ⟨rfl, hcalled, owner, copy, hbefore, ?_⟩
            exact (congrArg Store.durable hdone).trans hdata
          · obtain rfl : successful = false := hsuccessful
            refine .inl ⟨(congrArg Store.durable hdone).trans rfl, fun _ _ hnone => ?_⟩
            rw [hcalled] at hnone
            cases hnone

theorem migrate_migrated {version : Int} (horderly : SQLiteSession.Orderly helper.file)
    (hwritable : helper.isReadOnly db = false)
    (hsends : answers.Sends orderly helper.newVersion) (hstays : answers.migration.StaysInside)
    (hmigrate : helper.migrate answers version db = (after, failure)) :
    Migrated answers version db helper after failure := by
  unfold Helper.migrate at hmigrate
  dsimp only at hmigrate
  rcases hbegin : helper.send answers.begins
    (.beginTransaction transactionModeExclusive none answers.connectionFlags) db with
      ⟨begun, result⟩
  obtain ⟨hbegun, hbegunWritable, hbegunStored, hstack⟩ :=
    begin_migration horderly hwritable hsends hbegin
  have hbegunNew : begun.newVersion = helper.newVersion := by
    simpa [hbegin] using (moved_send readable_orderly hsends.begins db helper).newVersion
  rw [hbegin] at hmigrate
  rcases result with exception | value
  · obtain ⟨rfl, rfl⟩ := Prod.mk.inj hmigrate
    exact .neither hbegunStored nofun
  have hstack := hstack value rfl
  have hmigrating : helper.migrating answers version db =
      begun.callMigration answers version db := by
    rw [Helper.migrating, hbegin]
  obtain ⟨hcalled, hcalledWritable, hcalledStored, hinside⟩ :
      SQLiteSession.Orderly (begun.callMigration answers version db).file ∧
        (begun.callMigration answers version db).isReadOnly db = false ∧
        (begun.callMigration answers version db).stored = begun.stored ∧
        Inside migrationTransaction helper.file.session.transactionStack
          (begun.callMigration answers version db).file := by
    refine runCallback_durable ?_ ?_ hsends.migration ?_
      (hstays _ db migrationTransaction helper.file.session.transactionStack hbegun hstack rfl)
    · exact hbegun
    · exact hbegunWritable
    · exact ⟨[], false, hstack⟩
  have hcalledNew : (begun.callMigration answers version db).newVersion = helper.newVersion :=
    (moved_runCallback readable_orderly hsends.migration db _).newVersion.trans hbegunNew
  have hset : ∃ set failed, (if answers.migration.throws = true then
        (begun.callMigration answers version db, some HelperException.callback)
      else (begun.callMigration answers version db).setVersion answers db) = (set, failed) ∧
      SQLiteSession.Orderly set.file ∧ set.isReadOnly db = false ∧
      set.stored = helper.stored ∧
      VersionSet (begun.callMigration answers version db) set failed ∧
      (failed = none → answers.migration.throws = false) := by
    rcases hthrows : answers.migration.throws with _ | _
    · rcases hset : (begun.callMigration answers version db).setVersion answers db with
        ⟨set, failed⟩
      obtain ⟨hset, hsetWritable, hsetStored, hversion⟩ := setVersion_versionSet hcalled
        hcalledWritable (hcalledNew ▸ hsends) hinside.ne_nil hset
      exact ⟨set, failed, rfl, hset, hsetWritable,
        hsetStored.trans (hcalledStored.trans hbegunStored), hversion, fun _ => rfl⟩
    · exact ⟨_, _, rfl, hcalled, hcalledWritable, hcalledStored.trans hbegunStored,
        .failed _ rfl, nofun⟩
  obtain ⟨set, failed, heq, hsetOrderly, hsetWritable, hsetStored, hversion, hthrows⟩ := hset
  rcases hend : set.send answers.ends .endTransaction db with ⟨ended, answer⟩
  simp only [heq, hend] at hmigrate
  rcases end_migration hsetOrderly hsetWritable (hcalledNew ▸ hsends) hinside hversion hend with
    ⟨hkept, hsettled⟩ | ⟨rfl, hcalledStack, owner, copy, hworking, hstored⟩
  · rcases answer with exception | value
    · obtain ⟨rfl, rfl⟩ := Prod.mk.inj hmigrate
      exact .neither (hkept.trans hsetStored) nofun
    · obtain ⟨rfl, rfl⟩ := Prod.mk.inj hmigrate
      refine .neither (hkept.trans hsetStored) fun hnone => ?_
      rw [hmigrating]
      exact hsettled hnone ⟨value, rfl⟩
  · have hafter : after = ended := by
      rcases answer with exception | value
      · exact (Prod.mk.inj hmigrate).1.symm
      · exact (Prod.mk.inj hmigrate).1.symm
    subst hafter
    rw [hcalledNew] at hstored
    exact .together (hthrows rfl) (hmigrating ▸ hcalledStack) (hmigrating ▸ hworking) hstored

/-- Nothing is to be done, or the migration is, for the version that the session sees. -/
inductive Upgraded (answers : Answers D) (db : Nat) (helper : Helper D) :
    Helper D → Option HelperException → Prop
  | kept {after : Helper D} {failure : Option HelperException} :
      after.stored = helper.stored →
      (failure = none → (seenBy answers.granted helper.file).1 = helper.newVersion) →
      Upgraded answers db helper after failure
  | migrated {after : Helper D} {failure : Option HelperException} :
      (seenBy answers.granted helper.file).1 ≠ helper.newVersion →
      Migrated answers (seenBy answers.granted helper.file).1 db helper after failure →
      Upgraded answers db helper after failure

theorem upgrade_upgraded (horderly : SQLiteSession.Orderly helper.file)
    (hsends : answers.Sends orderly helper.newVersion) (hstays : answers.migration.StaysInside)
    (hupgrade : helper.upgrade answers db = (after, failure)) :
    Upgraded answers db helper after failure := by
  unfold Helper.upgrade at hupgrade
  split at hupgrade
  · obtain ⟨rfl, rfl⟩ := Prod.mk.inj hupgrade
    exact .kept rfl nofun
  split at hupgrade
  · obtain ⟨rfl, rfl⟩ := Prod.mk.inj hupgrade
    exact .kept rfl nofun
  dsimp only at hupgrade
  split at hupgrade
  · rename_i hversion
    obtain ⟨rfl, rfl⟩ := Prod.mk.inj hupgrade
    exact .kept rfl fun _ => hversion
  rename_i hversion
  split at hupgrade
  · obtain ⟨rfl, rfl⟩ := Prod.mk.inj hupgrade
    exact .kept rfl nofun
  · rename_i hwritable
    exact .migrated hversion
      (migrate_migrated horderly (by simpa using hwritable) hsends hstays hupgrade)

/-- What a call of the helper makes of the durable data: nothing, or what `onConfigure` does,
then the upgrade, and then what `onOpen` does. -/
inductive Served (answers : Answers D) (writable : Bool) (helper : Helper D) :
    Helper D → Except HelperException Nat → Prop
  | kept {after : Helper D} {result : Except HelperException Nat} :
      after.stored = helper.stored →
      ((helper.findDatabase writable).2 = none → ∃ failure, result = .error failure) →
      Served answers writable helper after result
  | configured {opened after : Helper D} {db : Nat} {failure : HelperException} :
      Helper.obtainDatabase answers writable
        { (helper.findDatabase writable).1 with isInitializing := true } = (opened, some db, none) →
      opened.stored = helper.stored →
      after.stored = (opened.runCallback answers.onConfigure db).stored →
      Served answers writable helper after (.error failure)
  | upgraded {opened upgraded after : Helper D} {db : Nat} {failure : Option HelperException}
      {result : Except HelperException Nat} :
      Helper.obtainDatabase answers writable
        { (helper.findDatabase writable).1 with isInitializing := true } = (opened, some db, none) →
      opened.stored = helper.stored →
      (opened.runCallback answers.onConfigure db).upgrade answers db = (upgraded, failure) →
      Upgraded answers db (opened.runCallback answers.onConfigure db) upgraded failure →
      (failure = none ∧ after.stored = (upgraded.runCallback answers.onOpen db).stored ∨
        after.stored = upgraded.stored ∧
          ∃ exception, failure = some exception ∧ result = .error exception) →
      Served answers writable helper after result

theorem finish_stored (db : Nat) (helper : Helper D) :
    (helper.finish db).stored = helper.stored :=
  congrArg (fun file : State (Int × D) => file.store.durable) (finish_frame db helper).2.2.2.1

theorem getDatabaseLocked_served {result : Except HelperException Nat}
    (horderly : SQLiteSession.Orderly helper.file)
    (hsends : answers.Sends orderly helper.newVersion) (hstays : answers.migration.StaysInside)
    (hidle : helper.isInitializing = false)
    (hget : helper.getDatabaseLocked answers writable = (after, result)) :
    Served answers writable helper after result := by
  obtain ⟨hfoundFile, hfoundNew, -⟩ := findDatabase_frame writable helper
  have hobtained : ∀ {found obtained : Helper D} {opened : Option Nat}
      {failure : Option HelperException}, helper.findDatabase writable = (found, none) →
      Helper.obtainDatabase answers writable { found with isInitializing := true } =
        (obtained, opened, failure) →
      Helper.obtainDatabase answers writable
          { (helper.findDatabase writable).1 with isInitializing := true } =
        (obtained, opened, failure) ∧ obtained.stored = helper.stored ∧
      obtained.newVersion = helper.newVersion ∧ SQLiteSession.Orderly obtained.file := by
    intro found obtained opened failure hfind hobtain
    obtain ⟨hmoved, hstored⟩ : Moved orderly { found with isInitializing := true } obtained ∧
        obtained.stored = found.stored := moved_obtainDatabase hsends.emptied hobtain
    rw [hfind] at hfoundFile hfoundNew ⊢
    refine ⟨hobtain, ?_, hmoved.newVersion.trans hfoundNew, ?_⟩
    · rw [hstored]
      exact congrArg (fun file : State (Int × D) => file.store.durable) hfoundFile
    · refine hmoved.file.orderly (fun _ _ hcall => hcall) ?_
      rw [← hfoundFile] at horderly
      exact horderly
  cases getDatabaseLocked_course hidle hget with
  | busy hfind =>
      rw [hfind] at hfoundFile
      refine .kept (congrArg (fun file : State (Int × D) => file.store.durable) hfoundFile) ?_
      rw [hfind]
      exact nofun
  | none hfind hobtain =>
      obtain ⟨-, hstored, -⟩ := hobtained hfind hobtain
      exact .kept hstored fun _ => ⟨_, rfl⟩
  | failed hfind hobtain =>
      obtain ⟨-, hstored, -⟩ := hobtained hfind hobtain
      exact .kept ((finish_stored _ _).trans hstored) fun _ => ⟨_, rfl⟩
  | @prepared found obtained prepared db failure hfind hobtain hprepare =>
      obtain ⟨hopened, hstored, hnew, hobtainedOrderly⟩ := hobtained hfind hobtain
      have hconfigured := moved_runCallback readable_orderly hsends.onConfigure db obtained
      have hconfiguredOrderly := hconfigured.file.orderly (fun _ _ hcall => hcall) hobtainedOrderly
      unfold Helper.prepareDatabase at hprepare
      dsimp only at hprepare
      split at hprepare
      · obtain ⟨rfl, rfl⟩ := Prod.mk.inj hprepare
        exact .configured hopened hstored (finish_stored _ _)
      have hupgraded : ∀ {upgraded : Helper D} {failed : Option HelperException},
          (obtained.runCallback answers.onConfigure db).upgrade answers db = (upgraded, failed) →
          Upgraded answers db (obtained.runCallback answers.onConfigure db) upgraded failed := by
        intro upgraded failed hupgrade
        refine upgrade_upgraded hconfiguredOrderly ?_ hstays hupgrade
        rw [hconfigured.newVersion, hnew]
        exact hsends
      split at hprepare
      · rename_i upgraded exception hupgrade
        obtain ⟨rfl, rfl⟩ := Prod.mk.inj hprepare
        exact .upgraded hopened hstored hupgrade (hupgraded hupgrade)
          (.inr ⟨finish_stored _ _, _, rfl, rfl⟩)
      · rename_i upgraded hupgrade
        split at hprepare
        · obtain ⟨rfl, rfl⟩ := Prod.mk.inj hprepare
          exact .upgraded hopened hstored hupgrade (hupgraded hupgrade)
            (.inl ⟨rfl, finish_stored _ _⟩)
        · obtain ⟨rfl, rfl⟩ := Prod.mk.inj hprepare
          exact .upgraded hopened hstored hupgrade (hupgraded hupgrade)
            (.inl ⟨rfl, finish_stored _ _⟩)

theorem moves_step {sent : Sending D} (hreadable : Readable sent)
    (hidle : helper.isInitializing = false) {event : Event D}
    (hsends : event.Sends sent helper.newVersion) :
    (helper.step event).newVersion = helper.newVersion ∧
      Moves sent helper.file (helper.step event).file := by
  rcases affected_step hreadable hidle hsends with hmoved | ⟨granted, hcalled⟩
  · exact ⟨hmoved.newVersion, hmoved.file⟩
  · obtain ⟨between, hmoves, -, -, hrest⟩ := hcalled.called
    exact ⟨hcalled.newVersion, hmoves.trans hrest⟩

theorem RunOf.session_orderly {newVersion : Int} {stored : Int × D}
    (h : RunOf orderly (Helper.start newVersion stored) helper) :
    Settled helper ∧ helper.newVersion = newVersion ∧ SQLiteSession.Orderly helper.file := by
  refine ⟨h.run.settled (settled_start newVersion stored), ?_⟩
  induction h with
  | refl => exact ⟨rfl, .start stored⟩
  | step event hbefore hsends ih =>
      have hidle := (hbefore.run.settled (settled_start newVersion stored)).isInitializing
      obtain ⟨hnew, hmoves⟩ := moves_step readable_orderly hidle hsends
      exact ⟨hnew.trans ih.1, hmoves.orderly (fun _ _ hcall => hcall) ih.2⟩

/-- A statement that the session does not take for the begin or the end of a transaction. -/
def Action.IsStatement : Action D → Prop
  | .session _ (.startStatement .other _) | .session _ (.finishStatement _) => True
  | .session _ _ | .corrupt _ => False
  | _ => True

theorem act_statement {action : Action D} (h : action.IsStatement) (db : Nat)
    (helper : Helper D) :
    action.again = none ∧ (helper.act db action).file.session.transactionStack =
      helper.file.session.transactionStack := by
  cases action with
  | session sessionAnswers call =>
      have hstep : ∀ sessionAnswers : SQLiteSession.Answers (Int × D),
          (helper.file.step sessionAnswers (readingCall call)).1.session.transactionStack =
              helper.file.session.transactionStack ∧
            (helper.file.step sessionAnswers call).1.session.transactionStack =
              helper.file.session.transactionStack := by
        intro sessionAnswers
        cases call with
        | startStatement type connectionFlags =>
            cases type with
            | other =>
                have hstack := (startStatement_other sessionAnswers connectionFlags helper.file).2
                exact ⟨hstack, hstack⟩
            | _ => exact h.elim
        | finishStatement effect =>
            exact ⟨finishStatement_transactionStack _ _, finishStatement_transactionStack _ _⟩
        | _ => exact h.elim
      refine ⟨?_, ?_⟩
      · cases call with
        | yieldTransaction => exact h.elim
        | _ => rfl
      · unfold Helper.act Helper.send
        dsimp only
        split
        · rfl
        split
        · dsimp only
          split
          · exact (hstep _).1
          · exact (hstep _).2
        · rfl
  | getDatabase writable =>
      refine ⟨rfl, ?_⟩
      rw [Helper.act, (findDatabase_frame writable helper).1]
  | close => exact ⟨rfl, rfl⟩
  | closeDatabase => exact ⟨rfl, rfl⟩
  | corrupt empty => exact h.elim

theorem staysInside_statements {callback : Callback D}
    (h : ∀ action ∈ callback.actions, action.IsStatement) : callback.StaysInside := by
  rintro helper db outer below - hstack -
  obtain ⟨actions, throws⟩ := callback
  dsimp only at h ⊢
  induction actions generalizing helper with
  | nil => trivial
  | cons action actions ih =>
      obtain ⟨hagain, hact⟩ := act_statement (h action List.mem_cons_self) db helper
      refine ⟨hagain, ⟨[], outer.childFailed, hact.trans hstack⟩, ih _ (hact.trans hstack) ?_⟩
      exact fun other hother => h other (List.mem_cons_of_mem _ hother)

theorem smoothly_orderly : smoothly.Orderly :=
  smooth_orderly sampleConnection false

theorem creating_sends {sent : Sending Nat} (throws : Bool)
    (h : ∀ call, call.Orderly → (∀ version, call.Preserves (VersionIn version 1)) →
      sent smoothly call) : (creating throws).Sends sent 1 := by
  have hquiet : quietCallback.Sends sent := fun action hmem => absurd hmem List.not_mem_nil
  have hmigration : (creating throws).migration.Sends sent := by
    intro action hmem
    simp only [creating, List.mem_cons, List.not_mem_nil, or_false] at hmem
    rcases hmem with rfl | rfl | rfl
    · exact h _ trivial fun _ => trivial
    · exact h _ trivial fun _ _ hstored => hstored
    · trivial
  have hwrites : ∀ version, (Call.finishStatement (Helper.versionEffect 1) :
      Call (Int × Nat)).Preserves (VersionIn version 1) := fun _ _ _ => .inr rfl
  exact ⟨rfl, hquiet, h _ trivial fun _ => trivial, hmigration, h _ trivial fun _ => trivial,
    h _ trivial hwrites, fun effect hthrows => absurd hthrows (Option.not_mem_none effect),
    h _ trivial fun _ => trivial, h _ trivial fun _ => trivial, hquiet⟩

theorem creating_staysInside (throws : Bool) : (creating throws).migration.StaysInside := by
  refine staysInside_statements fun action hmem => ?_
  simp only [creating, List.mem_cons, List.not_mem_nil, or_false] at hmem
  rcases hmem with rfl | rfl | rfl <;> trivial

theorem created_migrates_once :
    (created.stored.1 = 0 ∨ created.stored.1 = 1) ∧
      (∀ migration ∈ created.migrations,
        (0 : Int) ≠ 1 ∧ migration = Helper.migrationOf 0 1) ∧
      (created.stored.1 = 1 →
        (created.step .close).stored.1 = 1 ∧ (created.step .close).migrations =
          created.migrations) := by
  have hsends : ∀ throws, (creating throws).Sends (tame 1) 1 := fun throws =>
    creating_sends throws fun call hcall hversions =>
      ⟨⟨smoothly_orderly, hcall⟩, fun version => ⟨nofun, hversions version⟩⟩
  have hcreated : RunOf (tame 1) fresh created :=
    .step _ (.step _ (.refl fresh) (hsends true)) (hsends false)
  exact hcreated.migrates_once (.step .close (.refl created) trivial)

example : created.stored = (1, 5) ∧ created.migrations = [.onCreate, .onCreate] := by decide

end Migrations

end LSTAndroid.OpenHelper
