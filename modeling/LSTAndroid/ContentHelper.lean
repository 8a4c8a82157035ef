import LSTAndroid.Library.SmallDatabase

namespace LSTAndroid.ContentHelper

open LSTAndroid.Library.SmallDatabase

structure IdMapping where
  bleId : Option String
  wifiId : Option String
  deriving DecidableEq

inductive Failure where
  | sqlite (error : SelectError)
  | writable (message : String)
  | badColumnIndex
  deriving DecidableEq

/-- `Cursor.getString`. -/
def getString (row : Row) (columnIndex : ℕ) : Except Failure (Option String) :=
  match row[columnIndex]? with
  | none => .error .badColumnIndex
  | some .null => .ok none
  | some (.integer value) => .ok (some (toString value))
  | some (.text value) => .ok (some value)

def IdMapping.entryFromCursor (row : Row) : Except Failure IdMapping := do
  return ⟨← getString row 1, ← getString row 2⟩

def TABLE_NAME : String := "content"

def columns : List Column :=
  [⟨"id", .rowid⟩, ⟨"ble_id", .unique⟩, ⟨"wifi_id", .unique⟩]

def onCreate (database : Database) : Option Database :=
  database.createTable TABLE_NAME columns

/-- The file `content.db`, once there is one. -/
abbrev Storage := Option Database

/-- `getWritableDatabase` and `getReadableDatabase`: a new database is created first. -/
def opened (storage : Storage) : Database :=
  storage.getD ((onCreate ∅).getD ∅)

structure Insert where
  bleId : String
  wifiId : String
  deriving DecidableEq

def Insert.values (call : Insert) : List (String × String) :=
  [("ble_id", call.bleId), ("wifi_id", call.wifiId)]

def insert (call : Insert) (storage : Storage) : Storage :=
  some ((opened storage).insert "plain" call.values).2

def firstEntry : Except SelectError (List Row) → Except Failure IdMapping
  | .error error => .error (.sqlite error)
  | .ok [] => .error (.writable "No entry exists for that BLE Id")
  | .ok (row :: _) => IdMapping.entryFromCursor row

section Queries

-- `engine` stands for SQLite where it reads the id as the rest of a query.
variable (engine : Database → Select → Except SelectError (List Row))

def getInfoFromBLE (bleId : String) (storage : Storage) : Except Failure IdMapping :=
  firstEntry ((opened storage).rawQuery engine ⟨TABLE_NAME, "bleId", bleId⟩)

def getInfoFromWifi (wifiId : String) (storage : Storage) : Except Failure IdMapping :=
  firstEntry ((opened storage).rawQuery engine ⟨TABLE_NAME, "wifi_id", wifiId⟩)

end Queries

def stored (calls : List Insert) : Storage :=
  calls.foldl (fun storage call => insert call storage) none

/-- A call is accepted unless an accepted one has one of its ids. -/
def accept (pairs : List Insert) (call : Insert) : List Insert :=
  if ∃ pair ∈ pairs, pair.bleId = call.bleId ∨ pair.wifiId = call.wifiId then pairs
  else pairs ++ [call]

def accepted (calls : List Insert) : List Insert :=
  calls.foldl accept []

def Insert.row (n : ℤ) (call : Insert) : Row :=
  [.integer n, .text call.bleId, .text call.wifiId]

/-- The table that `onCreate` makes, with these pairs in it. -/
def contentTable (pairs : List Insert) : SqlTable :=
  ⟨columns, pairs.mapIdx fun i pair => pair.row (i + 1)⟩

theorem opened_stored (calls : List Insert) : opened (stored calls) = opened none := by
  induction calls using List.reverseRecOn with
  | nil => rfl
  | append_singleton calls call ih =>
      have hmissing : (opened none).lookup "plain" = none := by decide
      rw [stored, List.foldl_append, List.foldl_cons, List.foldl_nil, insert, ← stored, ih,
        insert_of_missing hmissing]
      rfl

theorem lookup_opened_none : (opened none).lookup TABLE_NAME = some (contentTable []) :=
  rfl

variable (engine : Database → Select → Except SelectError (List Row))

theorem getInfoFromBLE_stored (calls : List Insert) (bleId : String) :
    getInfoFromBLE engine bleId (stored calls) = .error (.sqlite (.noSuchColumn "bleId")) := by
  have hmissing : ¬ ∃ column ∈ (contentTable []).columns, column.name = "bleId" := by decide
  rw [getInfoFromBLE, opened_stored, rawQuery_of_missing_column lookup_opened_none hmissing]
  rfl

theorem getInfoFromWifi_stored (calls : List Insert) (wifiId : String) :
    getInfoFromWifi engine wifiId (stored calls) =
      firstEntry (engine (opened none) ⟨TABLE_NAME, "wifi_id", wifiId⟩) := by
  have hcolumn : ∃ column ∈ (contentTable []).columns, column.name = "wifi_id" := by decide
  rw [getInfoFromWifi, opened_stored, rawQuery_of_column lookup_opened_none hcolumn]

/-- A lookup finds just the accepted pairs, and throws `WritableException` just when there
is none with the id. -/
structure FindsAccepted (calls : List Insert) (hasId : Insert → Prop)
    (result : Except Failure IdMapping) : Prop where
  found : ∀ pair, hasId pair →
    (result = .ok ⟨some pair.bleId, some pair.wifiId⟩ ↔ pair ∈ accepted calls)
  missing : (∃ message, result = .error (.writable message)) ↔
    ∀ pair ∈ accepted calls, ¬ hasId pair

def FindsByBLE (calls : List Insert) (bleId : String) : Prop :=
  FindsAccepted calls (fun pair => pair.bleId = bleId)
    (getInfoFromBLE engine bleId (stored calls))

def FindsByWifi (calls : List Insert) (wifiId : String) : Prop :=
  FindsAccepted calls (fun pair => pair.wifiId = wifiId)
    (getInfoFromWifi engine wifiId (stored calls))

theorem not_findsAccepted_of_sqlite {calls : List Insert} {hasId : Insert → Prop}
    {error : SelectError} : ¬ FindsAccepted calls hasId (.error (.sqlite error)) := by
  intro h
  have hnone : ∀ pair ∈ accepted calls, ¬ hasId pair := fun pair hpair hid => by
    cases (h.found pair hid).mpr hpair
  obtain ⟨message, hmessage⟩ := h.missing.mpr hnone
  cases hmessage

theorem findsAccepted_writable_iff {calls : List Insert} {hasId : Insert → Prop}
    (message : String) :
    FindsAccepted calls hasId (.error (.writable message)) ↔
      ∀ pair ∈ accepted calls, ¬ hasId pair := by
  constructor
  · intro h
    exact h.missing.mp ⟨message, rfl⟩
  · intro hnone
    refine ⟨fun pair hid => iff_of_false (by rintro ⟨⟩) fun hpair => hnone pair hpair hid, ?_⟩
    exact iff_of_true ⟨message, rfl⟩ hnone

/-- The lookup by a BLE id never works. The lookup by a wifi id never finds anything: where
SQLite reads the id as the end of a query, it is right only as long as there is nothing to
find. -/
theorem never_two_way (calls : List Insert) :
    (∀ bleId, ¬ FindsByBLE engine calls bleId) ∧
    ∀ wifiId, engine (opened none) ⟨TABLE_NAME, "wifi_id", wifiId⟩ = .ok [] →
      (FindsByWifi engine calls wifiId ↔ ∀ pair ∈ accepted calls, pair.wifiId ≠ wifiId) := by
  constructor
  · intro bleId
    rw [FindsByBLE, getInfoFromBLE_stored]
    exact not_findsAccepted_of_sqlite
  · intro wifiId hread
    rw [FindsByWifi, getInfoFromWifi_stored, hread]
    exact findsAccepted_writable_iff _

/-- What SQLite makes of an id that it takes for the name of a column. -/
def readsName (_ : Database) (query : Select) : Except SelectError (List Row) :=
  .error (.noSuchColumn query.text)

theorem loses_only_pair : ¬ FindsByBLE readsName [⟨"b1", "w1"⟩] "b1" := by
  rw [FindsByBLE, getInfoFromBLE_stored]
  exact not_findsAccepted_of_sqlite

end LSTAndroid.ContentHelper
