import LSTAndroid.OpenHelper

namespace LSTAndroid.OpenHelper

open LSTAndroid.ConnectionPool
open LSTAndroid.Library.NestedTransactions
open LSTAndroid.SQLiteSession

variable {D : Type} {helper after : Helper D} {answers : Answers D} {writable : Bool} {db : Nat}
  {held : Option Nat}

section Databases

namespace Helper

theorem isOpen_closeDatabase (db other : Nat) (helper : Helper D) :
    (helper.closeDatabase db).isOpen other = (helper.isOpen other && other != db) := by
  unfold isOpen closeDatabase
  dsimp only
  rw [List.getElem?_modify]
  rcases helper.databases[other]? with _ | database
  · simp
  · rcases eq_or_ne db other with rfl | hne
    · simp
    · simp [hne, hne.symm]

theorem isOpen_openDatabase (isReadOnly : Bool) (other : Nat) (helper : Helper D) :
    (helper.openDatabase isReadOnly).1.isOpen other =
      (helper.isOpen other || other == helper.databases.length) := by
  unfold isOpen openDatabase
  dsimp only
  rcases Nat.lt_trichotomy other helper.databases.length with hless | rfl | hgreater
  · rw [List.getElem?_append_left hless]
    simp [Nat.ne_of_lt hless]
  · simp
  · have hnone : (helper.databases ++ [(⟨true, isReadOnly⟩ : Database)])[other]? = none :=
      List.getElem?_eq_none (by simpa using Nat.succ_le_of_lt hgreater)
    rw [hnone, List.getElem?_eq_none (Nat.le_of_lt hgreater)]
    simp [Nat.ne_of_gt hgreater]

theorem isOpen_reopen (db other : Nat) (helper : Helper D) :
    ({ helper with databases := helper.databases.modify db fun database =>
      { database with isReadOnly := false } } : Helper D).isOpen other = helper.isOpen other := by
  unfold isOpen
  dsimp only
  rw [List.getElem?_modify]
  rcases helper.databases[other]? with _ | database
  · rfl
  · rw [Option.map_eq_map, Option.map_some]
    split <;> rfl

end Helper

/-- Only the database that the helper has may be open, or the one at hand, and these are
the same if there are both. -/
structure OpenOnly (held : Option Nat) (helper : Helper D) : Prop where
  known : ∀ db, helper.isOpen db = true → helper.database = some db ∨ held = some db
  same : ∀ db, held = some db → helper.database = none ∨ helper.database = some db

/-- Only the session and the methods of the subclass are concerned. -/
structure SameDatabases (helper after : Helper D) : Prop where
  newVersion : after.newVersion = helper.newVersion
  database : after.database = helper.database
  databases : after.databases = helper.databases

theorem SameDatabases.refl (helper : Helper D) : SameDatabases helper helper :=
  ⟨rfl, rfl, rfl⟩

theorem OpenOnly.same_databases (h : OpenOnly held helper) (hsame : SameDatabases helper after) :
    OpenOnly held after := by
  refine ⟨fun other hopen => ?_, fun other hother => ?_⟩
  · rw [Helper.isOpen, hsame.databases] at hopen
    rw [hsame.database]
    exact h.known other hopen
  · rw [hsame.database]
    exact h.same other hother

theorem findDatabase_cases (writable : Bool) (helper : Helper D) :
    (∃ db, helper.findDatabase writable = (helper, some db) ∧ helper.database = some db ∧
        helper.isOpen db = true ∧ (writable = true → helper.isReadOnly db = false)) ∨
      helper.findDatabase writable = (helper, none) ∨
      ∃ db, helper.findDatabase writable = ({ helper with database := none }, none) ∧
        helper.database = some db ∧ helper.isOpen db = false := by
  unfold Helper.findDatabase
  rcases hdatabase : helper.database with _ | db
  · exact .inr (.inl rfl)
  · dsimp only
    rcases hopen : helper.isOpen db with _ | _
    · exact .inr (.inr ⟨db, rfl, rfl, hopen⟩)
    · rcases hbusy : (!writable || !helper.isReadOnly db) with _ | _
      · exact .inr (.inl rfl)
      · refine .inl ⟨db, rfl, rfl, hopen, fun hwritable => ?_⟩
        simpa [hwritable] using hbusy

theorem OpenOnly.findDatabase (h : OpenOnly held helper) (writable : Bool) :
    OpenOnly held (helper.findDatabase writable).1 := by
  rcases findDatabase_cases writable helper with
    ⟨db, hfound, -⟩ | hfound | ⟨db, hfound, hsome, hclosed⟩
  · rw [hfound]
    exact h
  · rw [hfound]
    exact h
  · rw [hfound]
    refine ⟨fun other hopen => ?_, fun _ _ => .inl rfl⟩
    have hother : helper.isOpen other = true := hopen
    rcases h.known other hother with hsame | hheld
    · obtain rfl : db = other := Option.some.inj (hsome.symm.trans hsame)
      rw [hclosed] at hother
      cases hother
    · exact .inr hheld

theorem OpenOnly.closeDatabase (h : OpenOnly held helper) (db : Nat) :
    OpenOnly held (helper.closeDatabase db) := by
  refine ⟨fun other hopen => ?_, h.same⟩
  rw [Helper.isOpen_closeDatabase, Bool.and_eq_true] at hopen
  exact h.known other hopen.1

theorem sameDatabases_send (sessionAnswers : SQLiteSession.Answers (Int × D))
    (call : Call (Int × D)) (db : Nat) (helper : Helper D) :
    SameDatabases helper (helper.send sessionAnswers call db).1 := by
  unfold Helper.send
  split
  · exact .refl _
  split
  · exact ⟨rfl, rfl, rfl⟩
  · exact .refl _

theorem OpenOnly.act (h : OpenOnly held helper) (db : Nat) (action : Action D) :
    OpenOnly held (helper.act db action) := by
  cases action with
  | session sessionAnswers call => exact h.same_databases (sameDatabases_send _ call db helper)
  | getDatabase writable => exact h.findDatabase writable
  | close => exact h
  | closeDatabase => exact h.closeDatabase db
  | corrupt empty =>
      unfold Helper.act Helper.onCorruption
      dsimp only
      split
      · exact (h.closeDatabase db).same_databases ⟨rfl, rfl, rfl⟩
      · exact h

theorem OpenOnly.runCallback (h : OpenOnly held helper) (callback : Callback D) (db : Nat) :
    OpenOnly held (helper.runCallback callback db) := by
  unfold Helper.runCallback
  induction callback.actions generalizing helper with
  | nil => exact h
  | cons action actions ih => exact ih (h.act db action)

theorem OpenOnly.finish (h : OpenOnly (some db) helper) : OpenOnly none (helper.finish db) := by
  refine ⟨fun other hopen => ?_, fun _ hnone => absurd hnone.symm (Option.some_ne_none _)⟩
  unfold Helper.finish at hopen ⊢
  dsimp only at hopen ⊢
  split at hopen
  · rename_i hne
    rw [if_pos hne]
    rw [Helper.isOpen_closeDatabase, Bool.and_eq_true] at hopen
    rcases h.known other hopen.1 with hsame | hheld
    · exact .inl hsame
    · obtain rfl : db = other := Option.some.inj hheld
      simp at hopen
  · rename_i hsame
    rw [if_neg hsame]
    rcases h.known other hopen with hkept | hheld
    · exact .inl hkept
    · obtain rfl : db = other := Option.some.inj hheld
      exact .inl (by simpa using hsame)

theorem OpenOnly.send (h : OpenOnly held helper) (sessionAnswers : SQLiteSession.Answers (Int × D))
    (call : Call (Int × D)) (db : Nat) : OpenOnly held (helper.send sessionAnswers call db).1 :=
  h.same_databases (sameDatabases_send sessionAnswers call db helper)

theorem OpenOnly.callMigration (h : OpenOnly held helper) (answers : Answers D) (version : Int)
    (db : Nat) : OpenOnly held (helper.callMigration answers version db) := by
  have hcalled : OpenOnly held { helper with
      migrations := Helper.migrationOf version helper.newVersion :: helper.migrations } :=
    ⟨h.known, h.same⟩
  exact hcalled.runCallback answers.migration db

theorem OpenOnly.setVersion (h : OpenOnly held helper) (answers : Answers D) (db : Nat) :
    OpenOnly held (helper.setVersion answers db).1 := by
  have hstarted := h.send answers.setVersion (.startStatement .other answers.connectionFlags) db
  unfold Helper.setVersion
  split
  · rename_i hstart
    rw [hstart] at hstarted
    exact hstarted
  rename_i started value hstart
  rw [hstart] at hstarted
  split
  · exact hstarted.send answers.setVersion _ db
  · have hwritten := hstarted.send answers.setVersion
      (.finishStatement (Helper.versionEffect started.newVersion)) db
    split
    · rename_i hwrite
      rw [hwrite] at hwritten
      exact hwritten
    rename_i written value hwrite
    rw [hwrite] at hwritten
    have hmarked := hwritten.send answers.ends .setTransactionSuccessful db
    split
    · rename_i hmark
      rw [hmark] at hmarked
      exact hmarked
    · rename_i hmark
      rw [hmark] at hmarked
      exact hmarked

theorem OpenOnly.migrate (h : OpenOnly held helper) (answers : Answers D) (version : Int)
    (db : Nat) : OpenOnly held (helper.migrate answers version db).1 := by
  have hbegun := h.send answers.begins
    (.beginTransaction transactionModeExclusive none answers.connectionFlags) db
  unfold Helper.migrate
  dsimp only
  split
  · rename_i hbegin
    rw [hbegin] at hbegun
    exact hbegun
  rename_i begun value hbegin
  rw [hbegin] at hbegun
  have hcalled := hbegun.callMigration answers version db
  have hset : OpenOnly held (if answers.migration.throws = true then
      (begun.callMigration answers version db, some HelperException.callback)
    else (begun.callMigration answers version db).setVersion answers db).1 := by
    split
    · exact hcalled
    · exact hcalled.setVersion answers db
  have hended := hset.send answers.ends .endTransaction db
  split
  · rename_i hend
    rw [hend] at hended
    exact hended
  · rename_i hend
    rw [hend] at hended
    exact hended

theorem OpenOnly.upgrade (h : OpenOnly held helper) (answers : Answers D) (db : Nat) :
    OpenOnly held (helper.upgrade answers db).1 := by
  unfold Helper.upgrade
  split
  · exact h
  split
  · exact h
  dsimp only
  split
  · exact h
  split
  · exact h
  · exact h.migrate answers _ db

theorem OpenOnly.prepareDatabase (h : OpenOnly (some db) helper) (answers : Answers D) :
    OpenOnly (some db) (helper.prepareDatabase answers db).1 := by
  have hconfigured := h.runCallback answers.onConfigure db
  have hupgraded := hconfigured.upgrade answers db
  unfold Helper.prepareDatabase
  dsimp only
  split
  · exact hconfigured
  split
  · rename_i hupgrade
    rw [hupgrade] at hupgraded
    exact hupgraded
  · rename_i upgraded hupgrade
    rw [hupgrade] at hupgraded
    have hopened := hupgraded.runCallback answers.onOpen db
    split
    · exact hopened
    · refine ⟨fun other hopen => ?_, fun other hother => .inr hother⟩
      rcases hopened.known other hopen with hsame | hother
      · rcases hopened.same db rfl with hnone | hkept
        · exact absurd (hnone.symm.trans hsame) (Option.some_ne_none other).symm
        · exact .inr (hkept.symm.trans hsame)
      · exact .inr hother

/-- A database has been opened, or the one at hand opened again, or neither has worked. -/
theorem OpenOnly.obtainDatabase {opened : Option Nat} {failure : Option HelperException}
    (h : OpenOnly none helper)
    (hobtain : helper.obtainDatabase answers writable = (after, opened, failure)) :
    OpenOnly opened after := by
  unfold Helper.obtainDatabase at hobtain
  split at hobtain
  · rename_i db hdatabase
    have hheld : OpenOnly (some db) helper :=
      ⟨fun other hopen => .inl ((h.known other hopen).resolve_right (by simp)),
        fun other hother => .inr (hdatabase.trans hother)⟩
    split at hobtain
    · split at hobtain
      · obtain ⟨rfl, rfl, rfl⟩ := hobtain
        refine ⟨fun other hopen => ?_, hheld.same⟩
        rw [Helper.isOpen_reopen] at hopen
        exact hheld.known other hopen
      · obtain ⟨rfl, rfl, rfl⟩ := hobtain
        exact hheld
    · obtain ⟨rfl, rfl, rfl⟩ := hobtain
      exact hheld
  · rename_i hnone
    have hemptied : SameDatabases helper (helper.deleteCorrupt answers.emptied) := by
      unfold Helper.deleteCorrupt
      split
      · exact ⟨rfl, rfl, rfl⟩
      · exact .refl _
    dsimp only at hobtain
    generalize helper.deleteCorrupt answers.emptied = found at hobtain hemptied
    have hfound := h.same_databases hemptied
    have hopened : ∀ isReadOnly : Bool,
        OpenOnly (some found.databases.length) (found.openDatabase isReadOnly).1 := by
      intro isReadOnly
      refine ⟨fun other hopen => ?_, fun _ _ => .inl (hemptied.database.trans hnone)⟩
      rw [Helper.isOpen_openDatabase, Bool.or_eq_true] at hopen
      rcases hopen with hopen | hnew
      · exact .inl ((hfound.known other hopen).resolve_right (by simp))
      · exact .inr (by simpa using (beq_iff_eq.mp hnew).symm)
    split at hobtain
    · obtain ⟨rfl, rfl, rfl⟩ := hobtain
      exact hopened false
    split at hobtain
    · obtain ⟨rfl, rfl, rfl⟩ := hobtain
      exact hfound
    split at hobtain
    · obtain ⟨rfl, rfl, rfl⟩ := hobtain
      exact hopened true
    · obtain ⟨rfl, rfl, rfl⟩ := hobtain
      exact hfound

structure Settled (helper : Helper D) : Prop where
  isInitializing : helper.isInitializing = false
  openOnly : OpenOnly none helper

theorem finish_frame (db : Nat) (helper : Helper D) :
    (helper.finish db).isInitializing = false ∧ (helper.finish db).database = helper.database ∧
      (helper.finish db).newVersion = helper.newVersion ∧
      (helper.finish db).file = helper.file ∧
      (helper.finish db).migrations = helper.migrations := by
  unfold Helper.finish
  dsimp only
  split
  · exact ⟨rfl, rfl, rfl, rfl, rfl⟩
  · exact ⟨rfl, rfl, rfl, rfl, rfl⟩

/-- What `findDatabase` and `obtainDatabase` have found, and what becomes of it. -/
inductive Course (answers : Answers D) (writable : Bool) (helper : Helper D) :
    Helper D → Except HelperException Nat → Prop
  | busy {found : Helper D} {db : Nat} :
      helper.findDatabase writable = (found, some db) →
      Course answers writable helper found (.ok db)
  | none {found obtained : Helper D} {failure : Option HelperException} :
      helper.findDatabase writable = (found, none) →
      Helper.obtainDatabase answers writable { found with isInitializing := true } =
        (obtained, none, failure) →
      Course answers writable helper { obtained with isInitializing := false }
        (.error (failure.getD .sql))
  | failed {found obtained : Helper D} {db : Nat} {failure : HelperException} :
      helper.findDatabase writable = (found, none) →
      Helper.obtainDatabase answers writable { found with isInitializing := true } =
        (obtained, some db, some failure) →
      Course answers writable helper (obtained.finish db) (.error failure)
  | prepared {found obtained prepared : Helper D} {db : Nat} {failure : Option HelperException} :
      helper.findDatabase writable = (found, none) →
      Helper.obtainDatabase answers writable { found with isInitializing := true } =
        (obtained, some db, none) →
      obtained.prepareDatabase answers db = (prepared, failure) →
      Course answers writable helper (prepared.finish db)
        (match failure with
          | some failure => .error failure
          | none => .ok db)

theorem findDatabase_isInitializing (writable : Bool) (helper : Helper D) :
    (helper.findDatabase writable).1.isInitializing = helper.isInitializing := by
  rcases findDatabase_cases writable helper with ⟨db, hfound, -⟩ | hfound | ⟨db, hfound, -⟩ <;>
    rw [hfound]

theorem act_isInitializing (db : Nat) (helper : Helper D) (action : Action D) :
    (helper.act db action).isInitializing = helper.isInitializing := by
  cases action with
  | session sessionAnswers call =>
      unfold Helper.act Helper.send
      dsimp only
      split
      · rfl
      · split <;> rfl
  | getDatabase writable => exact findDatabase_isInitializing writable helper
  | close => rfl
  | closeDatabase => rfl
  | corrupt empty =>
      unfold Helper.act Helper.onCorruption
      dsimp only
      split <;> rfl

theorem getDatabaseLocked_course {result : Except HelperException Nat}
    (h : helper.isInitializing = false)
    (hget : helper.getDatabaseLocked answers writable = (after, result)) :
    Course answers writable helper after result := by
  have hidle := (findDatabase_isInitializing writable helper).trans h
  unfold Helper.getDatabaseLocked at hget
  rcases hfind : helper.findDatabase writable with ⟨found, _ | db⟩
  · rw [hfind] at hget hidle
    dsimp only at hget hidle
    rw [hidle, if_neg Bool.false_ne_true] at hget
    rcases hobtain : Helper.obtainDatabase answers writable { found with isInitializing := true }
      with ⟨obtained, _ | db, failure⟩
    · rw [hobtain] at hget
      obtain ⟨rfl, rfl⟩ := Prod.mk.inj hget
      exact .none hfind hobtain
    · rw [hobtain] at hget
      rcases failure with _ | failure
      · rcases hprepare : obtained.prepareDatabase answers db with ⟨prepared, _ | failure⟩
        · simp only [hprepare] at hget
          obtain ⟨rfl, rfl⟩ := Prod.mk.inj hget
          exact .prepared hfind hobtain hprepare
        · simp only [hprepare] at hget
          obtain ⟨rfl, rfl⟩ := Prod.mk.inj hget
          exact .prepared hfind hobtain hprepare
      · obtain ⟨rfl, rfl⟩ := Prod.mk.inj hget
        exact .failed hfind hobtain
  · rw [hfind] at hget
    obtain ⟨rfl, rfl⟩ := Prod.mk.inj hget
    exact .busy hfind

theorem prepareDatabase_kept (hprepare : helper.prepareDatabase answers db = (after, none)) :
    after.database = some db := by
  unfold Helper.prepareDatabase at hprepare
  dsimp only at hprepare
  split at hprepare
  · cases (Prod.mk.inj hprepare).2
  split at hprepare
  · cases (Prod.mk.inj hprepare).2
  split at hprepare
  · cases (Prod.mk.inj hprepare).2
  · rw [← (Prod.mk.inj hprepare).1]

theorem Settled.getDatabaseLocked {result : Except HelperException Nat} (h : Settled helper)
    (hget : helper.getDatabaseLocked answers writable = (after, result)) :
    Settled after ∧ ∀ db, result = .ok db → after.database = some db := by
  have hfound := h.openOnly.findDatabase writable
  have hflag := (findDatabase_isInitializing writable helper).trans h.isInitializing
  have hobtained : ∀ {found obtained : Helper D} {opened : Option Nat}
      {failure : Option HelperException}, helper.findDatabase writable = (found, none) →
      Helper.obtainDatabase answers writable { found with isInitializing := true } =
        (obtained, opened, failure) → OpenOnly opened obtained := by
    intro found obtained opened failure hfind hobtain
    rw [hfind] at hfound
    have hflagged : OpenOnly none { found with isInitializing := true } :=
      ⟨hfound.known, hfound.same⟩
    exact hflagged.obtainDatabase hobtain
  cases getDatabaseLocked_course h.isInitializing hget with
  | @busy found db hfind =>
      rw [hfind] at hfound hflag
      refine ⟨⟨hflag, hfound⟩, fun other hother => ?_⟩
      obtain rfl := Except.ok.inj hother
      rcases findDatabase_cases writable helper with
        ⟨busy, hcase, hsome, -⟩ | hcase | ⟨busy, hcase, -⟩
      · obtain ⟨rfl, hsame⟩ := Prod.mk.inj (hfind.symm.trans hcase)
        rw [hsome, hsame]
      · cases (Prod.mk.inj (hfind.symm.trans hcase)).2
      · cases (Prod.mk.inj (hfind.symm.trans hcase)).2
  | none hfind hobtain =>
      have hheld := hobtained hfind hobtain
      exact ⟨⟨rfl, ⟨hheld.known, hheld.same⟩⟩, nofun⟩
  | failed hfind hobtain =>
      exact ⟨⟨(finish_frame _ _).1, (hobtained hfind hobtain).finish⟩, nofun⟩
  | @prepared found obtained prepared db failure hfind hobtain hprepare =>
      have hkept := (hobtained hfind hobtain).prepareDatabase answers
      rw [hprepare] at hkept
      refine ⟨⟨(finish_frame _ _).1, hkept.finish⟩, fun other hother => ?_⟩
      rw [(finish_frame _ _).2.1]
      rcases failure with _ | failure
      · obtain rfl := Except.ok.inj hother
        exact prepareDatabase_kept hprepare
      · cases hother

theorem Settled.step (h : Settled helper) (event : Event D) : Settled (helper.step event) := by
  cases event with
  | getDatabase answers writable => exact (h.getDatabaseLocked rfl).1
  | close =>
      rw [Helper.step, Helper.close, h.isInitializing, if_neg Bool.false_ne_true]
      split
      · rename_i db hdatabase
        split
        · refine ⟨h.isInitializing, ⟨fun other hopen => ?_, fun _ _ => .inl rfl⟩⟩
          have hother : (helper.closeDatabase db).isOpen other = true := hopen
          rw [Helper.isOpen_closeDatabase, Bool.and_eq_true] at hother
          rcases h.openOnly.known other hother.1 with hsame | hnone
          · obtain rfl : db = other := Option.some.inj (hdatabase.symm.trans hsame)
            simp at hother
          · exact .inr hnone
        · exact h
      · exact h
  | session db sessionAnswers call =>
      refine ⟨?_, h.openOnly.act db (.session sessionAnswers call)⟩
      exact (act_isInitializing db helper (.session sessionAnswers call)).trans h.isInitializing
  | closeDatabase db => exact ⟨h.isInitializing, h.openOnly.closeDatabase db⟩
  | corrupt db empty =>
      refine ⟨?_, h.openOnly.act db (.corrupt empty)⟩
      exact (act_isInitializing db helper (.corrupt empty)).trans h.isInitializing

theorem settled_start (newVersion : Int) (stored : Int × D) :
    Settled (Helper.start newVersion stored) :=
  ⟨rfl, ⟨fun _ hopen => by simp [Helper.start, Helper.isOpen] at hopen, fun _ _ => .inl rfl⟩⟩

theorem Run.settled {first : Helper D} (h : Run first helper) (hfirst : Settled first) :
    Settled helper := by
  induction h with
  | refl => exact hfirst
  | step event _ ih => exact ih.step event

theorem run_created : Run fresh created :=
  .step _ (.step _ (.refl fresh))

end Databases

end LSTAndroid.OpenHelper
