import LSTAndroid.TableStore

namespace LSTAndroid.RangeQueries

open LSTAndroid.SpaceTime
open LSTAndroid.TableStore

def renderConjunction : List Condition → List Token
  | [] => []
  | [c] => c.tokens
  | c :: d :: cs => c.tokens ++ .andWord :: renderConjunction (d :: cs)

def renderWhere : List Condition → List Token
  | [] => []
  | c :: cs => .whereWord :: renderConjunction (c :: cs)

theorem parseConjunction_render (c : Condition) (cs : List Condition) :
    parseConjunction (renderConjunction (c :: cs)) = some (c :: cs) := by
  induction cs generalizing c with
  | nil => rfl
  | cons d cs ih =>
      simp only [renderConjunction, Condition.tokens, List.cons_append, List.nil_append,
        parseConjunction, ih, Option.map_some]

theorem parseWhere_render (cs : List Condition) :
    parseWhere (renderWhere cs) = some cs := by
  cases cs with
  | nil => rfl
  | cons c cs => exact parseConjunction_render c cs

theorem renderConjunction_append (c d : Condition) (cs ds : List Condition) :
    renderConjunction (c :: cs ++ d :: ds) =
      renderConjunction (c :: cs) ++ .andWord :: renderConjunction (d :: ds) := by
  induction cs generalizing c with
  | nil => simp [renderConjunction]
  | cons e cs ih =>
      simp only [List.cons_append] at ih
      simp only [List.cons_append, renderConjunction, ih, List.append_assoc]

/-- The word in front of the next bound once the conditions `cs` are written. -/
def joinerAfter : List Condition → Token
  | [] => .whereWord
  | _ :: _ => .andWord

theorem renderWhere_append (cs ds : List Condition) (d : Condition) :
    renderWhere (cs ++ d :: ds) =
      renderWhere cs ++ joinerAfter cs :: renderConjunction (d :: ds) := by
  cases cs with
  | nil => rfl
  | cons c cs =>
      simp only [List.cons_append, renderWhere, joinerAfter]
      rw [← List.cons_append, renderConjunction_append]

variable {K : Type} [LinearOrder K] [Coordinate K]

def boundConditions (region : STRegion K) (d : Dim) : List Condition :=
  match region.mins.coord d, region.maxs.coord d with
  | some lo, some hi =>
      [⟨Dim.minColumn d, .ge, Coordinate.literal lo⟩,
        ⟨Dim.maxColumn d, .le, Coordinate.literal hi⟩]
  | _, _ => []

theorem addBounds_render (region : STRegion K) (cs : List Condition) (d : Dim) :
    addBounds region (renderWhere cs, joinerAfter cs) d =
      (renderWhere (cs ++ boundConditions region d),
        joinerAfter (cs ++ boundConditions region d)) := by
  have hjoiner : ∀ a b, joinerAfter (cs ++ [a, b]) = .andWord := by
    intro a b
    cases cs <;> rfl
  unfold addBounds boundConditions
  rcases region.mins.coord d with _ | lo
  · simp
  rcases region.maxs.coord d with _ | hi
  · simp
  · simp [renderWhere_append, hjoiner, renderConjunction, Condition.tokens]

theorem foldl_addBounds (region : STRegion K) (dims : List Dim) (cs : List Condition) :
    dims.foldl (addBounds region) (renderWhere cs, joinerAfter cs) =
      (renderWhere (cs ++ dims.flatMap (boundConditions region)),
        joinerAfter (cs ++ dims.flatMap (boundConditions region))) := by
  induction dims generalizing cs with
  | nil => simp
  | cons d dims ih =>
      rw [List.foldl_cons, addBounds_render, ih]
      simp

def rangeConditions (region : STRegion K) : List Condition :=
  [Dim.x, Dim.y, Dim.t].flatMap (boundConditions region)

/-- Every combination of present and absent coordinates gives a well-formed
query. -/
theorem parseWhere_rangeWhere (region : STRegion K) :
    parseWhere (rangeWhere region) = some (rangeConditions region) := by
  have hfold := foldl_addBounds region [Dim.x, Dim.y, Dim.t] []
  rw [rangeWhere, show (([], .whereWord) : List Token × Token) =
    (renderWhere [], joinerAfter []) from rfl, hfold, List.nil_append]
  exact parseWhere_render (rangeConditions region)

def TextContains (region : STRegion K) (p : FullPoint K) : Prop :=
  ∀ d, ∀ lo ∈ region.mins.coord d, ∀ hi ∈ region.maxs.coord d,
    Coordinate.literal lo ≤ Coordinate.stored (p.coord d) ∧
      Coordinate.stored (p.coord d) ≤ Coordinate.literal hi

instance (region : STRegion K) : DecidablePred (TextContains region) :=
  fun _ => inferInstanceAs (Decidable (∀ _, _))

theorem boundConditions_hold_iff (region : STRegion K) (p : FullPoint K) (d : Dim) :
    (∀ c ∈ boundConditions region d, c.holds (Row.ofPoint p) = true) ↔
      ∀ lo ∈ region.mins.coord d, ∀ hi ∈ region.maxs.coord d,
        Coordinate.literal lo ≤ Coordinate.stored (p.coord d) ∧
          Coordinate.stored (p.coord d) ≤ Coordinate.literal hi := by
  unfold boundConditions
  split
  · rename_i lo hi hlo hhi
    simp [hlo, hhi, Condition.holds]
  · rename_i habsent
    simp only [List.not_mem_nil, false_implies, implies_true, true_iff]
    intro lo hlo hi hhi
    exact absurd hhi (habsent lo hi hlo)

theorem rangeConditions_hold_iff (region : STRegion K) (p : FullPoint K) :
    ((rangeConditions region).all fun c => c.holds (Row.ofPoint p)) = true ↔
      TextContains region p := by
  have hdims : ∀ P : Dim → Prop, (∀ d, P d) ↔ P .x ∧ P .y ∧ P .t := by
    intro P
    exact ⟨fun h => ⟨h _, h _, h _⟩, fun h d => by cases d <;> simp [h]⟩
  rw [TextContains, hdims, List.all_eq_true]
  simp only [← boundConditions_hold_iff, rangeConditions, List.mem_flatMap]
  simp [or_imp, forall_and]

/-- Where the point lies on a bound, the decimal of the bound falls on the outer
side. -/
def FacesKept (region : STRegion K) (p : FullPoint K) : Prop :=
  ∀ d, ∀ lo ∈ region.mins.coord d, ∀ hi ∈ region.maxs.coord d,
    (p.coord d = lo → Coordinate.literal lo ≤ Coordinate.stored lo) ∧
      (p.coord d = hi → Coordinate.stored hi ≤ Coordinate.literal hi)

instance (region : STRegion K) : DecidablePred (FacesKept region) :=
  fun _ => inferInstanceAs (Decidable (∀ _, _))

theorem le_of_literal_le {lo q : K}
    (h : Coordinate.literal lo ≤ Coordinate.stored q) : lo ≤ q := by
  by_contra hlt
  exact absurd (Coordinate.stored_lt_literal (not_le.mp hlt)) (not_lt.mpr h)

theorem le_of_le_literal {q hi : K}
    (h : Coordinate.stored q ≤ Coordinate.literal hi) : q ≤ hi := by
  by_contra hlt
  exact absurd (Coordinate.literal_lt_stored (not_le.mp hlt)) (not_lt.mpr h)

theorem TextContains.contains {region : STRegion K} {p : FullPoint K}
    (h : TextContains region p) : region.Contains p := by
  intro d lo hlo hi hhi
  obtain ⟨hlow, hhigh⟩ := h d lo hlo hi hhi
  exact ⟨le_of_literal_le hlow, le_of_le_literal hhigh⟩

/-- A decimal tells a float from every other float, so it can only fail at the
float itself. -/
theorem literal_le_stored_iff {lo q : K} (hle : lo ≤ q) :
    Coordinate.literal lo ≤ Coordinate.stored q ↔
      (q = lo → Coordinate.literal lo ≤ Coordinate.stored lo) := by
  rcases hle.eq_or_lt with rfl | hlt
  · simp
  · have hlit := Coordinate.literal_lt_stored hlt
    exact ⟨fun _ heq => absurd heq hlt.ne', fun _ => hlit.le⟩

theorem stored_le_literal_iff {q hi : K} (hle : q ≤ hi) :
    Coordinate.stored q ≤ Coordinate.literal hi ↔
      (q = hi → Coordinate.stored hi ≤ Coordinate.literal hi) := by
  rcases hle.eq_or_lt with rfl | hlt
  · simp
  · have hlit := Coordinate.stored_lt_literal hlt
    exact ⟨fun _ heq => absurd heq hlt.ne, fun _ => hlit.le⟩

theorem textContains_iff_facesKept {region : STRegion K} {p : FullPoint K}
    (h : region.Contains p) : TextContains region p ↔ FacesKept region p := by
  have hface : ∀ d, ∀ lo ∈ region.mins.coord d, ∀ hi ∈ region.maxs.coord d,
      (Coordinate.literal lo ≤ Coordinate.stored (p.coord d) ∧
        Coordinate.stored (p.coord d) ≤ Coordinate.literal hi ↔
      (p.coord d = lo → Coordinate.literal lo ≤ Coordinate.stored lo) ∧
        (p.coord d = hi → Coordinate.stored hi ≤ Coordinate.literal hi)) := by
    intro d lo hlo hi hhi
    obtain ⟨hlow, hhigh⟩ := h d lo hlo hi hhi
    exact and_congr (literal_le_stored_iff hlow) (stored_le_literal_iff hhigh)
  constructor
  · intro ht d lo hlo hi hhi
    exact (hface d lo hlo hi hhi).mp (ht d lo hlo hi hhi)
  · intro hk d lo hlo hi hhi
    exact (hface d lo hlo hi hhi).mpr (hk d lo hlo hi hhi)

theorem range_opened (store : SQLiteStore) (order : ScanOrder K) (region : STRegion K)
    {storage : Storage K} (h : storage.Opened) {rows : List (Row K)}
    (hrows : storage.rowsOf store.tableIdentifier = some rows) :
    store.range order region storage = .ok ((order.scan (rows.filter fun row =>
      (rangeConditions region).all (·.holds row))).map Row.toPoint) := by
  obtain ⟨db, table, rfl, hversion, htable, rfl⟩ := h.exists_table hrows
  simp [SQLiteStore.range, store.getDatabaseLocked_of_version hversion,
    DatabaseFile.select, parseWhere_rangeWhere, htable, bind, Except.bind, pure, Except.pure]

theorem range_of_holds {store : SQLiteStore} {storage : Storage K}
    {points : List (FullPoint K)} (h : Holds store storage points)
    (order : ScanOrder K) (region : STRegion K) :
    ∃ found, store.range order region storage = .ok found ∧
      found.Perm (points.filter fun p => TextContains region p) := by
  refine ⟨_, range_opened store order region h.opened h.rows, ?_⟩
  refine ((order.scan_perm _).map _).trans (List.Perm.of_eq ?_)
  rw [List.filter_map, List.map_map]
  have hfilter : points.filter ((fun row => (rangeConditions region).all (·.holds row)) ∘
      Row.ofPoint) = points.filter fun p => TextContains region p := by
    apply List.filter_congr
    intro p _
    rw [Bool.eq_iff_iff, Function.comp_apply, rangeConditions_hold_iff, decide_eq_true_iff]
  rw [hfilter]
  exact List.map_id _

theorem filter_perm_iff {α : Type} {P Q : α → Prop} [DecidablePred P] [DecidablePred Q]
    (hPQ : ∀ a, P a → Q a) (l : List α) :
    (l.filter fun a => P a).Perm (l.filter fun a => Q a) ↔ ∀ a ∈ l, Q a → P a := by
  have hnested : (l.filter fun a => P a) = (l.filter fun a => Q a).filter fun a => P a := by
    rw [List.filter_filter]
    apply List.filter_congr
    intro a _
    by_cases hP : P a
    · simp [hP, hPQ a hP]
    · simp [hP]
  constructor
  · intro hperm a ha hQ
    rw [hnested] at hperm
    have hall := List.length_filter_eq_length_iff.mp hperm.length_eq
    simpa using hall a (List.mem_filter.mpr ⟨ha, decide_eq_true hQ⟩)
  · intro hQP
    apply List.Perm.of_eq
    apply List.filter_congr
    intro a ha
    exact decide_eq_decide.mpr ⟨hPQ a, hQP a ha⟩

/-- After the operations the store answers `range` with exactly the points of the
region inserted since the last clear, and `getSize` with their number. -/
def AnswersExactly (store : SQLiteStore) (order : ScanOrder K) (storage : Storage K)
    (ops : List (StoreOp K)) (region : STRegion K) : Prop :=
  ∃ after, ops.foldlM (StoreOp.apply store) storage = .ok after ∧
    (∃ found, store.range order region after = .ok found ∧
      found.Perm ((sinceLastClear ops).filter fun p => region.Contains p)) ∧
    store.getSize after = .ok ((sinceLastClear ops).length : ℤ)

theorem answersExactly_iff_facesKept {store : SQLiteStore} {storage : Storage K}
    (hempty : Holds store storage []) (order : ScanOrder K) (ops : List (StoreOp K))
    (region : STRegion K) :
    AnswersExactly store order storage ops region ↔
      (sinceLastClear ops).length < 2 ^ 31 ∧
        ∀ p ∈ sinceLastClear ops, region.Contains p → FacesKept region p := by
  obtain ⟨after, hrun, hafter⟩ := foldlM_apply_holds hempty ops
  obtain ⟨found, hrange, hfound⟩ := range_of_holds hafter order region
  have hsize := store.getSize_opened hafter.opened hafter.rows
  rw [List.length_map] at hsize
  change found.Perm ((sinceLastClear ops).filter _) at hfound
  change store.getSize after = .ok (((sinceLastClear ops).length : ℤ).bmod _) at hsize
  have hfaces : (∀ p ∈ sinceLastClear ops, region.Contains p → FacesKept region p) ↔
      ∀ p ∈ sinceLastClear ops, region.Contains p → TextContains region p := by
    refine forall₂_congr fun p _ => forall_congr' fun hp => ?_
    exact (textContains_iff_facesKept hp).symm
  rw [hfaces, ← filter_perm_iff fun p (h : TextContains region p) => h.contains,
    ← bmod_eq_self_iff]
  constructor
  · rintro ⟨after', hrun', ⟨found', hrange', hperm⟩, hsize'⟩
    obtain rfl : after = after' := Except.ok.inj (hrun.symm.trans hrun')
    obtain rfl : found = found' := Except.ok.inj (hrange.symm.trans hrange')
    exact ⟨Except.ok.inj (hsize.symm.trans hsize'), hfound.symm.trans hperm⟩
  · rintro ⟨hlength, hperm⟩
    refine ⟨after, hrun, ⟨found, hrange, hfound.trans hperm⟩, ?_⟩
    rw [hsize, hlength]

/-- Both stores answer exactly unless a point of the region lies on a face whose
decimal bound falls on the inner side, or `getSize` overflows its `int`. -/
theorem range_exact_iff {store : SQLiteStore} {storage : Storage JFloat}
    (hempty : Holds store storage []) (order : ScanOrder JFloat)
    (ops : List (StoreOp JFloat)) (region : STRegion JFloat) :
    AnswersExactly store order storage ops region ↔
      (sinceLastClear ops).length < 2 ^ 31 ∧
        ∀ p ∈ sinceLastClear ops, region.Contains p →
          ∀ d, ∀ lo ∈ region.mins.coord d, ∀ hi ∈ region.maxs.coord d,
            (p.coord d = lo → lo.valueOf.toRat ≤ lo.toRat) ∧
              (p.coord d = hi → hi.toRat ≤ hi.valueOf.toRat) :=
  answersExactly_iff_facesKept hempty order ops region

def insertionOrder (K : Type) : ScanOrder K := ⟨id, fun rows => .refl rows⟩

def emptySpatialTable : Storage JFloat :=
  .directory (some ⟨databaseVersion,
    Function.update (fun _ => none) "SpatialTableMain" (some ⟨.plain, []⟩)⟩)

theorem holds_emptySpatialTable :
    Holds (SQLiteNaive "SpatialTableMain") emptySpatialTable [] :=
  ⟨⟨_, rfl, rfl⟩, rfl⟩

/-- The floats `20f` and `0.1f`; the latter is a little more than its text. -/
def twenty : JFloat := ⟨0x41A00000, by decide⟩

def tenth : JFloat := ⟨0x3DCCCCCD, by decide⟩

theorem range_exact_at_twenty :
    AnswersExactly (SQLiteNaive "SpatialTableMain") (insertionOrder JFloat) emptySpatialTable
      [.insert ⟨tenth, tenth, tenth⟩, .clear, .insert ⟨twenty, twenty, twenty⟩]
      (.box ⟨twenty, twenty, twenty⟩ ⟨twenty, twenty, twenty⟩) :=
  (range_exact_iff holds_emptySpatialTable _ _ _).mpr (by decide +kernel)

theorem range_misses_tenth :
    Holds (SQLiteNaive "SpatialTableMain") emptySpatialTable [] ∧
      ¬ AnswersExactly (SQLiteNaive "SpatialTableMain") (insertionOrder JFloat)
        emptySpatialTable [.insert ⟨tenth, tenth, tenth⟩]
        (.box ⟨tenth, tenth, tenth⟩ ⟨tenth, tenth, tenth⟩) := by
  refine ⟨holds_emptySpatialTable, ?_⟩
  rw [answersExactly_iff_facesKept holds_emptySpatialTable]
  decide +kernel

end LSTAndroid.RangeQueries
