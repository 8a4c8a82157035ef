import LSTAndroid.Library.BinaryFormat
import Mathlib.Order.Lattice
import Mathlib.Data.Fintype.Basic

namespace LSTAndroid.SpaceTime

open LSTAndroid.Library.BinaryFormat

/-- A finite Java `float`, by its place among the finite floats.  The two zeros
are one number here: Java and SQLite compare them as equal. -/
structure JFloat where
  ordinal : ℤ
  finite : ordinal.natAbs < binary32.infinityBits
  deriving DecidableEq

namespace JFloat

theorem ordinal_injective : Function.Injective ordinal := by
  rintro ⟨a, ha⟩ ⟨b, hb⟩ h
  cases h
  rfl

instance : LinearOrder JFloat :=
  LinearOrder.lift' ordinal ordinal_injective

def toRat (x : JFloat) : ℚ :=
  binary32.value x.ordinal

theorem toRat_strictMono : StrictMono toRat :=
  fun _ _ h => binary32.value_strictMono h

/-- `String.valueOf(float)`: the shortest decimal that identifies the float.
`1E38` is the largest power of ten below `Float.MAX_VALUE`, and every float is a
multiple of `1E-149`. -/
def valueOf (x : JFloat) : Decimal :=
  binary32.shortestDecimal 38 188 x.ordinal

theorem valueOf_lt_toRat {x y : JFloat} (h : x < y) : x.valueOf.toRat < y.toRat :=
  (binary32.shortestDecimal_roundsTo 38 188 x.ordinal).lt_value h

theorem toRat_lt_valueOf {x y : JFloat} (h : y < x) : y.toRat < x.valueOf.toRat :=
  (binary32.shortestDecimal_roundsTo 38 188 x.ordinal).value_lt h

end JFloat

/-- How the database sees a coordinate: `stored` is the number an insert binds to
the column, `literal` the number SQLite reads in the text of a query. -/
class Coordinate (K : Type) [LinearOrder K] where
  stored : K → ℚ
  stored_strictMono : StrictMono stored
  literal : K → ℚ
  literal_lt_stored : ∀ {x y : K}, x < y → literal x < stored y
  stored_lt_literal : ∀ {x y : K}, y < x → stored y < literal x

instance : Coordinate JFloat where
  stored := JFloat.toRat
  stored_strictMono := JFloat.toRat_strictMono
  literal x := x.valueOf.toRat
  literal_lt_stored := JFloat.valueOf_lt_toRat
  stored_lt_literal := JFloat.toRat_lt_valueOf

/-- Exact coordinates, whose text is the number itself. -/
instance : Coordinate ℚ where
  stored := id
  stored_strictMono := strictMono_id
  literal := id
  literal_lt_stored := id
  stored_lt_literal := id

inductive Dim where
  | x
  | y
  | t
  deriving DecidableEq

instance : Fintype Dim where
  elems := {Dim.x, Dim.y, Dim.t}
  complete d := by cases d <;> decide

structure STPoint (K : Type) where
  x : Option K
  y : Option K
  t : Option K
  deriving DecidableEq

def STPoint.coord {K : Type} (p : STPoint K) : Dim → Option K
  | .x => p.x
  | .y => p.y
  | .t => p.t

/-- A point with all three coordinates, as `new STPoint(x, y, t)` builds it. -/
structure FullPoint (K : Type) where
  x : K
  y : K
  t : K
  deriving DecidableEq

namespace FullPoint

variable {K : Type}

def coord (p : FullPoint K) : Dim → K
  | .x => p.x
  | .y => p.y
  | .t => p.t

def toSTPoint (p : FullPoint K) : STPoint K :=
  ⟨some p.x, some p.y, some p.t⟩

@[simp] theorem coord_toSTPoint (p : FullPoint K) (d : Dim) :
    p.toSTPoint.coord d = some (p.coord d) := by
  cases d <;> rfl

end FullPoint

structure STRegion (K : Type) where
  mins : STPoint K
  maxs : STPoint K

def STRegion.box {K : Type} (mins maxs : FullPoint K) : STRegion K :=
  ⟨mins.toSTPoint, maxs.toSTPoint⟩

variable {K : Type} [LinearOrder K]

/-- The region is closed on both sides, and a dimension that either corner leaves
unset does not restrict it. -/
def STRegion.Contains (region : STRegion K) (p : FullPoint K) : Prop :=
  ∀ d, ∀ lo ∈ region.mins.coord d, ∀ hi ∈ region.maxs.coord d,
    lo ≤ p.coord d ∧ p.coord d ≤ hi

instance (region : STRegion K) : DecidablePred region.Contains :=
  fun _ => inferInstanceAs (Decidable (∀ _, _))

theorem STRegion.box_contains_iff (mins maxs p : FullPoint K) :
    (STRegion.box mins maxs).Contains p ↔
      ∀ d, mins.coord d ≤ p.coord d ∧ p.coord d ≤ maxs.coord d := by
  simp [STRegion.Contains, STRegion.box]

end LSTAndroid.SpaceTime
