import LSTAndroid.NearestNeighbor
import Mathlib.Data.List.Sort

namespace LSTAndroid.BoundingBox

open LSTAndroid.SpaceTime
open LSTAndroid.TableStore
open LSTAndroid.RangeQueries
open LSTAndroid.NearestNeighbor

inductive SortOrder where
  | asc
  | desc
  deriving DecidableEq

inductive SpatialType where
  | gps
  | meters
  deriving DecidableEq

/-- What `getBoundingBox` takes from `Constants` and `STPoint`. -/
structure BoxConstants (K : Type) where
  spatialType : SpatialType
  negFloatBudge : STPoint K
  posFloatBudge : STPoint K
  add : STPoint K → STPoint K → STPoint K

variable {K : Type} [LinearOrder K]

def SortOrder.Before : SortOrder → K → K → Prop
  | .asc, a, b => a ≤ b
  | .desc, a, b => b ≤ a

instance (direction : SortOrder) (a b : K) : Decidable (direction.Before a b) :=
  match direction with
  | .asc => inferInstanceAs (Decidable (a ≤ b))
  | .desc => inferInstanceAs (Decidable (b ≤ a))

theorem SortOrder.Before.total (direction : SortOrder) (a b : K) :
    direction.Before a b ∨ direction.Before b a := by
  cases direction with
  | asc => exact le_total a b
  | desc => exact le_total b a

theorem SortOrder.Before.trans {direction : SortOrder} {a b c : K}
    (hab : direction.Before a b) (hbc : direction.Before b c) : direction.Before a c := by
  cases direction with
  | asc => exact le_trans hab hbc
  | desc => exact le_trans hbc hab

/-- `SELECT column FROM name ORDER BY column LIMIT 1`. -/
def selectFirst (order : ScanOrder K) (name : String) (column : Column) (direction : SortOrder)
    (db : DatabaseFile K) : Except SQLiteException (Option K) :=
  match db.tables name with
  | none => .error (.noSuchTable name)
  | some table =>
      let values := (order.scan table.rows).map fun row => row.get column
      .ok (values.insertionSort direction.Before).head?

/-- `getFloat` on a cursor without a row raises. -/
def getRowValueHelper (store : SQLiteStore) (order : ScanOrder K) (column : Column)
    (direction : SortOrder) (storage : Storage K) : Except StoreException K := do
  let db ← (store.getDatabaseLocked storage).mapError .sqlite
  match ← (selectFirst order store.tableIdentifier column direction db).mapError .sqlite with
  | none => .error .cursorIndexOutOfBounds
  | some value => return value

def getBoundingBox (constants : BoxConstants K) (store : SQLiteStore) (order : ScanOrder K)
    (storage : Storage K) : Except StoreException (STRegion K) := do
  let minX ← getRowValueHelper store order .minX .asc storage
  let minY ← getRowValueHelper store order .minY .asc storage
  let minT ← getRowValueHelper store order .minT .asc storage
  let maxX ← getRowValueHelper store order .maxX .desc storage
  let maxY ← getRowValueHelper store order .maxY .desc storage
  let maxT ← getRowValueHelper store order .maxT .desc storage
  let mins := (⟨minX, minY, minT⟩ : FullPoint K).toSTPoint
  let maxs := (⟨maxX, maxY, maxT⟩ : FullPoint K).toSTPoint
  if constants.spatialType = .gps then
    return ⟨constants.add mins constants.negFloatBudge,
      constants.add maxs constants.posFloatBudge⟩
  else return ⟨mins, maxs⟩

theorem insertionSort_head (direction : SortOrder) {values : List K} (hne : values ≠ []) :
    ∃ first ∈ values, (values.insertionSort direction.Before).head? = some first ∧
      ∀ value ∈ values, direction.Before first value := by
  have : Std.Total (direction.Before (K := K)) := ⟨SortOrder.Before.total direction⟩
  have : IsTrans K direction.Before := ⟨fun _ _ _ => SortOrder.Before.trans⟩
  have hsorted := List.pairwise_insertionSort direction.Before values
  have hperm := List.perm_insertionSort direction.Before values
  rcases hsort : values.insertionSort direction.Before with _ | ⟨first, rest⟩
  all_goals rw [hsort] at hperm hsorted
  · exact absurd (List.nil_perm.mp hperm) hne
  · refine ⟨first, hperm.mem_iff.mp List.mem_cons_self, rfl, fun value hvalue => ?_⟩
    rcases List.mem_cons.mp (hperm.mem_iff.mpr hvalue) with rfl | hrest
    · exact (SortOrder.Before.total direction value value).elim id id
    · exact List.rel_of_pairwise_cons hsorted hrest

variable {store : SQLiteStore} {storage : Storage K} {points : List (FullPoint K)}

theorem getRowValueHelper_holds (h : Holds store storage points) (hne : points ≠ [])
    (order : ScanOrder K) (column : Column) (direction : SortOrder) :
    ∃ p ∈ points, getRowValueHelper store order column direction storage =
        .ok ((Row.ofPoint p).get column) ∧
      ∀ q ∈ points,
        direction.Before ((Row.ofPoint p).get column) ((Row.ofPoint q).get column) := by
  obtain ⟨db, table, rfl, hversion, htable, hrows⟩ := h.opened.exists_table h.rows
  have hvalues : ((order.scan table.rows).map fun row => row.get column).Perm
      (points.map fun p => (Row.ofPoint p).get column) := by
    have hscan := (order.scan_perm table.rows).map fun row => row.get column
    rw [hrows, List.map_map] at hscan
    rw [hrows]
    exact hscan
  have hsome : ((order.scan table.rows).map fun row => row.get column) ≠ [] := by
    intro hnil
    rw [hnil] at hvalues
    exact hne (List.map_eq_nil_iff.mp (List.nil_perm.mp hvalues))
  obtain ⟨first, hmem, hhead, hfirst⟩ := insertionSort_head direction hsome
  obtain ⟨p, hp, rfl⟩ := List.mem_map.mp (hvalues.mem_iff.mp hmem)
  refine ⟨p, hp, ?_, fun q hq => ?_⟩
  · simp [getRowValueHelper, selectFirst, store.getDatabaseLocked_of_version hversion, htable,
      hhead, Except.mapError, bind, Except.bind, pure, Except.pure]
  · exact hfirst _ (hvalues.mem_iff.mpr (List.mem_map_of_mem hq))

/-- The smallest and the largest stored coordinate in every dimension. -/
structure Corners (points : List (FullPoint K)) (mins maxs : FullPoint K) : Prop where
  mins_mem : ∀ d, ∃ p ∈ points, p.coord d = mins.coord d
  maxs_mem : ∀ d, ∃ p ∈ points, p.coord d = maxs.coord d
  mins_le : ∀ d, ∀ p ∈ points, mins.coord d ≤ p.coord d
  le_maxs : ∀ d, ∀ p ∈ points, p.coord d ≤ maxs.coord d

omit [LinearOrder K] in
theorem fullPoint_ext {p q : FullPoint K} (h : ∀ d, p.coord d = q.coord d) : p = q := by
  rcases p with ⟨x, y, t⟩
  rcases q with ⟨x', y', t'⟩
  obtain rfl : x = x' := h .x
  obtain rfl : y = y' := h .y
  obtain rfl : t = t' := h .t
  rfl

theorem Corners.unique {mins maxs lows highs : FullPoint K} (h : Corners points mins maxs)
    (hother : Corners points lows highs) : mins = lows ∧ maxs = highs := by
  constructor
  · apply fullPoint_ext
    intro d
    obtain ⟨p, hp, hmin⟩ := h.mins_mem d
    obtain ⟨q, hq, hlow⟩ := hother.mins_mem d
    exact le_antisymm (hlow ▸ h.mins_le d q hq) (hmin ▸ hother.mins_le d p hp)
  · apply fullPoint_ext
    intro d
    obtain ⟨p, hp, hmax⟩ := h.maxs_mem d
    obtain ⟨q, hq, hhigh⟩ := hother.maxs_mem d
    exact le_antisymm (hmax ▸ hother.le_maxs d p hp) (hhigh ▸ h.le_maxs d q hq)

theorem Corners.smallest_iff {mins maxs : FullPoint K} (h : Corners points mins maxs) (d : Dim)
    {p : FullPoint K} (hp : p ∈ points) :
    (∀ q ∈ points, p.coord d ≤ q.coord d) ↔ p.coord d = mins.coord d := by
  obtain ⟨least, hleast, heq⟩ := h.mins_mem d
  constructor
  · intro hsmallest
    exact le_antisymm (heq ▸ hsmallest least hleast) (h.mins_le d p hp)
  · intro hmin q hq
    exact hmin ▸ h.mins_le d q hq

theorem Corners.largest_iff {mins maxs : FullPoint K} (h : Corners points mins maxs) (d : Dim)
    {p : FullPoint K} (hp : p ∈ points) :
    (∀ q ∈ points, q.coord d ≤ p.coord d) ↔ p.coord d = maxs.coord d := by
  obtain ⟨greatest, hgreatest, heq⟩ := h.maxs_mem d
  constructor
  · intro hlargest
    exact le_antisymm (h.le_maxs d p hp) (heq ▸ hlargest greatest hgreatest)
  · intro hmax q hq
    exact hmax ▸ h.le_maxs d q hq

theorem Corners.lt_iff {mins maxs : FullPoint K} (h : Corners points mins maxs) (d : Dim) :
    mins.coord d < maxs.coord d ↔ ∃ p ∈ points, ∃ q ∈ points, p.coord d ≠ q.coord d := by
  constructor
  · intro hlt
    obtain ⟨p, hp, hmin⟩ := h.mins_mem d
    obtain ⟨q, hq, hmax⟩ := h.maxs_mem d
    exact ⟨p, hp, q, hq, by rw [hmin, hmax]; exact hlt.ne⟩
  · rintro ⟨p, hp, q, hq, hne⟩
    refine lt_of_not_ge fun hge => hne ?_
    have hp' := le_antisymm ((h.le_maxs d p hp).trans hge) (h.mins_le d p hp)
    have hq' := le_antisymm ((h.le_maxs d q hq).trans hge) (h.mins_le d q hq)
    rw [hp', hq']

/-- The box as the corners and the mode determine it. -/
def BoxConstants.boxOf (constants : BoxConstants K) (mins maxs : FullPoint K) : STRegion K :=
  if constants.spatialType = .gps then
    ⟨constants.add mins.toSTPoint constants.negFloatBudge,
      constants.add maxs.toSTPoint constants.posFloatBudge⟩
  else .box mins maxs

theorem smallest_row (h : Holds store storage points) (hne : points ≠ [])
    (order : ScanOrder K) (d : Dim) :
    ∃ p ∈ points, getRowValueHelper store order (Dim.minColumn d) .asc storage =
        .ok (p.coord d) ∧ ∀ q ∈ points, p.coord d ≤ q.coord d := by
  simpa only [Row.get_minColumn, SortOrder.Before] using
    getRowValueHelper_holds h hne order (Dim.minColumn d) .asc

theorem largest_row (h : Holds store storage points) (hne : points ≠ [])
    (order : ScanOrder K) (d : Dim) :
    ∃ p ∈ points, getRowValueHelper store order (Dim.maxColumn d) .desc storage =
        .ok (p.coord d) ∧ ∀ q ∈ points, q.coord d ≤ p.coord d := by
  simpa only [Row.get_maxColumn, SortOrder.Before] using
    getRowValueHelper_holds h hne order (Dim.maxColumn d) .desc

theorem getBoundingBox_holds (h : Holds store storage points) (hne : points ≠ [])
    (order : ScanOrder K) (constants : BoxConstants K) :
    ∃ mins maxs, Corners points mins maxs ∧
      getBoundingBox constants store order storage = .ok (constants.boxOf mins maxs) := by
  choose low hlow hlowRow hsmallest using smallest_row h hne order
  choose high hhigh hhighRow hlargest using largest_row h hne order
  have hcoord : ∀ (corner : Dim → FullPoint K) (d : Dim),
      (⟨(corner .x).x, (corner .y).y, (corner .t).t⟩ : FullPoint K).coord d =
        (corner d).coord d := by
    intro corner d
    cases d <;> rfl
  refine ⟨⟨(low .x).x, (low .y).y, (low .t).t⟩, ⟨(high .x).x, (high .y).y, (high .t).t⟩,
    ⟨fun d => ⟨low d, hlow d, (hcoord low d).symm⟩,
      fun d => ⟨high d, hhigh d, (hcoord high d).symm⟩, fun d p hp => ?_, fun d p hp => ?_⟩, ?_⟩
  · rw [hcoord]
    exact hsmallest d p hp
  · rw [hcoord]
    exact hlargest d p hp
  · have hminX : getRowValueHelper store order .minX .asc storage = _ := hlowRow .x
    have hminY : getRowValueHelper store order .minY .asc storage = _ := hlowRow .y
    have hminT : getRowValueHelper store order .minT .asc storage = _ := hlowRow .t
    have hmaxX : getRowValueHelper store order .maxX .desc storage = _ := hhighRow .x
    have hmaxY : getRowValueHelper store order .maxY .desc storage = _ := hhighRow .y
    have hmaxT : getRowValueHelper store order .maxT .desc storage = _ := hhighRow .t
    simp only [getBoundingBox, hminX, hminY, hminT, hmaxX, hmaxY, hmaxT, bind, Except.bind,
      BoxConstants.boxOf]
    split
    · rfl
    · rfl

section Text

variable [Coordinate K]

def RangeUndoesBox (constants : BoxConstants K) (store : SQLiteStore) (order : ScanOrder K)
    (storage : Storage K) (points : List (FullPoint K)) : Prop :=
  ∃ region found, getBoundingBox constants store order storage = .ok region ∧
    store.range order region storage = .ok found ∧ found.Perm points

/-- A smallest coordinate is kept by its own decimal as lower bound, and a largest one as
upper bound. -/
def FacesStored (points : List (FullPoint K)) : Prop :=
  ∀ d, ∀ p ∈ points,
    ((∀ q ∈ points, p.coord d ≤ q.coord d) →
      Coordinate.literal (p.coord d) ≤ Coordinate.stored (p.coord d)) ∧
    ((∀ q ∈ points, q.coord d ≤ p.coord d) →
      Coordinate.stored (p.coord d) ≤ Coordinate.literal (p.coord d))

theorem Corners.textContains_iff {mins maxs : FullPoint K} (h : Corners points mins maxs) :
    (∀ p ∈ points, TextContains (.box mins maxs) p) ↔ FacesStored points := by
  have hpoint : ∀ d, ∀ p ∈ points,
      (Coordinate.literal (mins.coord d) ≤ Coordinate.stored (p.coord d) ∧
        Coordinate.stored (p.coord d) ≤ Coordinate.literal (maxs.coord d) ↔
      ((∀ q ∈ points, p.coord d ≤ q.coord d) →
        Coordinate.literal (p.coord d) ≤ Coordinate.stored (p.coord d)) ∧
      ((∀ q ∈ points, q.coord d ≤ p.coord d) →
        Coordinate.stored (p.coord d) ≤ Coordinate.literal (p.coord d))) := by
    intro d p hp
    rw [literal_le_stored_iff (h.mins_le d p hp), stored_le_literal_iff (h.le_maxs d p hp),
      h.smallest_iff d hp, h.largest_iff d hp]
    refine and_congr (forall_congr' fun heq => ?_) (forall_congr' fun heq => ?_)
    · rw [heq]
    · rw [heq]
  simp only [TextContains, STRegion.box, FullPoint.coord_toSTPoint, Option.mem_some_iff,
    forall_eq']
  constructor
  · intro hcontains d p hp
    exact (hpoint d p hp).mp (hcontains p hp d)
  · intro hfaces p hp d
    exact (hpoint d p hp).mpr (hfaces d p hp)

theorem rangeUndoesBox_iff {constants : BoxConstants K} (hmeters : constants.spatialType = .meters)
    (h : Holds store storage points) (hne : points ≠ []) (order : ScanOrder K) :
    RangeUndoesBox constants store order storage points ↔ FacesStored points := by
  obtain ⟨mins, maxs, hcorners, hbox⟩ := getBoundingBox_holds h hne order constants
  obtain ⟨found, hrange, hperm⟩ := range_of_holds h order (.box mins maxs)
  have hregion : constants.boxOf mins maxs = .box mins maxs := by
    simp [BoxConstants.boxOf, hmeters]
  rw [hregion] at hbox
  rw [← hcorners.textContains_iff]
  constructor
  · rintro ⟨region, other, hbox', hrange', hall⟩
    obtain rfl := Except.ok.inj (hbox.symm.trans hbox')
    obtain rfl := Except.ok.inj (hrange.symm.trans hrange')
    have hlength := List.length_filter_eq_length_iff.mp (hperm.symm.trans hall).length_eq
    simpa using hlength
  · intro hall
    refine ⟨_, found, hbox, hrange, hperm.trans (.of_eq ?_)⟩
    rw [List.filter_eq_self]
    intro p hp
    exact decide_eq_true (hall p hp)

end Text

/-- The box returns all its points exactly when no decimal of a face cuts it off. -/
theorem range_undoes_box_iff {constants : BoxConstants JFloat}
    (hmeters : constants.spatialType = .meters) {store : SQLiteStore}
    {storage : Storage JFloat} {points : List (FullPoint JFloat)}
    (h : Holds store storage points) (hne : points ≠ []) (order : ScanOrder JFloat) :
    RangeUndoesBox constants store order storage points ↔
      ∀ d, ∀ p ∈ points,
        ((∀ q ∈ points, p.coord d ≤ q.coord d) →
          (p.coord d).valueOf.toRat ≤ (p.coord d).toRat) ∧
        ((∀ q ∈ points, q.coord d ≤ p.coord d) →
          (p.coord d).toRat ≤ (p.coord d).valueOf.toRat) :=
  rangeUndoesBox_iff hmeters h hne order

def meters (K : Type) : BoxConstants K where
  spatialType := .meters
  negFloatBudge := ⟨none, none, none⟩
  posFloatBudge := ⟨none, none, none⟩
  add mins _ := mins

def origin : JFloat := ⟨0, by decide⟩

/-- The faces are at 0 and 20; a point whose decimals are off lies between them. -/
def threePoints : List (FullPoint JFloat) :=
  [⟨origin, twenty, origin⟩, ⟨tenth, tenth, tenth⟩, ⟨twenty, origin, twenty⟩]

theorem range_undoes_box_of_three :
    RangeUndoesBox (meters JFloat) (SQLiteNaive "SpatialTableMain") (insertionOrder JFloat)
      (tableOf (SQLiteNaive "SpatialTableMain") threePoints) threePoints :=
  (range_undoes_box_iff rfl (holds_tableOf _ _) (by simp [threePoints]) _).mpr (by decide +kernel)

/-- The upper face of the box of one point is the decimal `0.1`, below the float. -/
theorem range_loses_tenth :
    Holds (SQLiteNaive "SpatialTableMain")
        (tableOf (SQLiteNaive "SpatialTableMain") [(⟨tenth, tenth, tenth⟩ : FullPoint JFloat)])
        [⟨tenth, tenth, tenth⟩] ∧
      ¬ RangeUndoesBox (meters JFloat) (SQLiteNaive "SpatialTableMain") (insertionOrder JFloat)
        (tableOf (SQLiteNaive "SpatialTableMain") [⟨tenth, tenth, tenth⟩])
        [⟨tenth, tenth, tenth⟩] := by
  refine ⟨holds_tableOf _ _, ?_⟩
  rw [rangeUndoesBox_iff rfl (holds_tableOf _ _) (by simp)]
  intro hfaces
  have hface := (hfaces .x ⟨tenth, tenth, tenth⟩ (by simp)).2 (by simp)
  revert hface
  decide +kernel

end LSTAndroid.BoundingBox
