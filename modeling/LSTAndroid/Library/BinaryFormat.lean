import Mathlib.Algebra.Order.Field.Rat
import Mathlib.Algebra.Order.Archimedean.Basic
import Mathlib.Data.Int.ConditionallyCompleteOrder
import Mathlib.Data.Int.SuccPred
import Mathlib.Data.Rat.Floor
import Mathlib.Order.SuccPred.IntervalSucc
import Mathlib.Tactic.FieldSimp
import Mathlib.Tactic.Linarith
import Mathlib.Tactic.Ring

namespace LSTAndroid.Library.BinaryFormat

/-- A format with `mantissaBits` stored mantissa bits, whose least positive value
is `2 ^ minExponent` and whose infinity has the magnitude bits `infinityBits`. -/
structure Format where
  mantissaBits : ℕ
  minExponent : ℤ
  infinityBits : ℕ

def binary32 : Format where
  mantissaBits := 23
  minExponent := -149
  infinityBits := 0x7F800000

/-- A decimal numeral `mantissa * 10 ^ exponent`. -/
structure Decimal where
  mantissa : ℤ
  exponent : ℤ
  deriving DecidableEq

def Decimal.toRat (d : Decimal) : ℚ :=
  d.mantissa * 10 ^ d.exponent

/-- The numeral of `significand * 2 ^ exponent`; every dyadic number has one. -/
def dyadicDecimal (significand exponent : ℤ) : Decimal :=
  if 0 ≤ exponent then ⟨significand * 2 ^ exponent.toNat, 0⟩
  else ⟨significand * 5 ^ (-exponent).toNat, exponent⟩

theorem dyadicDecimal_toRat (significand exponent : ℤ) :
    (dyadicDecimal significand exponent).toRat = significand * 2 ^ exponent := by
  unfold dyadicDecimal
  split
  · rename_i hexponent
    obtain ⟨n, rfl⟩ := Int.eq_ofNat_of_zero_le hexponent
    simp [Decimal.toRat]
  · rename_i hexponent
    obtain ⟨n, rfl⟩ : ∃ n : ℕ, exponent = -n :=
      ⟨(-exponent).toNat, by omega⟩
    have hten : (10 : ℚ) = 2 * 5 := by norm_num
    simp only [Decimal.toRat, neg_neg, Int.toNat_natCast, Int.cast_mul,
      Int.cast_pow, Int.cast_ofNat, zpow_neg, zpow_natCast, hten, mul_pow]
    field_simp

namespace Format

variable (F : Format)

def significand (bits : ℕ) : ℕ :=
  if bits < 2 ^ F.mantissaBits then bits
  else 2 ^ F.mantissaBits + bits % 2 ^ F.mantissaBits

def exponent (bits : ℕ) : ℤ :=
  F.minExponent + (bits / 2 ^ F.mantissaBits - 1 : ℕ)

def magnitude (bits : ℕ) : ℚ :=
  F.significand bits * 2 ^ F.exponent bits

theorem magnitude_lt_succ (bits : ℕ) :
    F.magnitude bits < F.magnitude (bits + 1) := by
  have hunit : 0 < 2 ^ F.mantissaBits := pow_pos two_pos _
  have hpow : ∀ e : ℤ, (0 : ℚ) < 2 ^ e := fun e => zpow_pos two_pos e
  unfold magnitude significand exponent
  generalize 2 ^ F.mantissaBits = unit at hunit
  have hdiv := Nat.div_add_mod bits unit
  have hmod := Nat.mod_lt bits hunit
  by_cases hstep : bits % unit + 1 < unit
  · -- the exponent field stays, the mantissa grows by one
    have hdivSucc : (bits + 1) / unit = bits / unit := by
      rw [← hdiv, add_assoc, Nat.mul_add_div hunit, Nat.mul_add_div hunit,
        Nat.div_eq_of_lt hmod, Nat.div_eq_of_lt hstep]
    have hmodSucc : (bits + 1) % unit = bits % unit + 1 := by
      conv_lhs => rw [← hdiv, add_assoc, Nat.mul_add_mod]
      exact Nat.mod_eq_of_lt hstep
    have hsmall : bits < unit ↔ bits + 1 < unit := by
      rw [← Nat.div_eq_zero_iff_lt hunit, ← Nat.div_eq_zero_iff_lt hunit, hdivSucc]
    rw [hdivSucc, hmodSucc]
    apply mul_lt_mul_of_pos_right _ (hpow _)
    simp only [hsmall]
    split <;> · push_cast; linarith
  · -- the mantissa overflows into the exponent field
    have hfull : bits % unit + 1 = unit := by omega
    have hnext : bits + 1 = unit * (bits / unit + 1) := by
      rw [Nat.mul_succ]; omega
    have hdivSucc : (bits + 1) / unit = bits / unit + 1 := by
      rw [hnext, Nat.mul_div_cancel_left _ hunit]
    have hmodSucc : (bits + 1) % unit = 0 := by
      rw [hnext, Nat.mul_mod_right]
    have hlarge : ¬ bits + 1 < unit := by
      rw [← Nat.div_eq_zero_iff_lt hunit, hdivSucc]
      exact Nat.succ_ne_zero _
    rw [hdivSucc, hmodSucc, if_neg hlarge]
    rcases lt_or_ge bits unit with hsubnormal | hnormal
    · have hzero : bits / unit = 0 := Nat.div_eq_of_lt hsubnormal
      rw [if_pos hsubnormal, hzero]
      apply mul_lt_mul_of_pos_right _ (hpow _)
      exact_mod_cast hsubnormal
    · have hpos : 1 ≤ bits / unit := Nat.div_pos (by omega) hunit
      have hexp : F.minExponent + ((bits / unit + 1 - 1 : ℕ) : ℤ) =
          F.minExponent + ((bits / unit - 1 : ℕ) : ℤ) + 1 := by omega
      rw [if_neg (not_lt.mpr hnormal), hexp, zpow_add_one₀ two_ne_zero]
      have hmant : ((unit + bits % unit : ℕ) : ℚ) < (unit + 0 : ℕ) * 2 := by
        exact_mod_cast (by omega : unit + bits % unit < (unit + 0) * 2)
      calc ((unit + bits % unit : ℕ) : ℚ) * 2 ^ (F.minExponent + ((bits / unit - 1 : ℕ) : ℤ))
          < (unit + 0 : ℕ) * 2 * 2 ^ (F.minExponent + ((bits / unit - 1 : ℕ) : ℤ)) :=
            mul_lt_mul_of_pos_right hmant (hpow _)
        _ = (unit + 0 : ℕ) * (2 ^ (F.minExponent + ((bits / unit - 1 : ℕ) : ℤ)) * 2) := by
            ring

def value (k : ℤ) : ℚ :=
  (k.sign * F.significand k.natAbs : ℤ) * 2 ^ F.exponent k.natAbs

theorem value_natCast (n : ℕ) : F.value n = F.magnitude n := by
  cases n with
  | zero => simp [value, magnitude, significand]
  | succ n =>
      have hsign : ((n + 1 : ℕ) : ℤ).sign = 1 := Int.sign_eq_one_of_pos (by omega)
      simp only [value, magnitude, hsign, one_mul, Int.natAbs_natCast, Int.cast_natCast]

theorem value_neg (k : ℤ) : F.value (-k) = -F.value k := by
  simp [value, Int.sign_neg]

theorem value_strictMono : StrictMono F.value := by
  refine strictMono_int_of_lt_succ fun k => ?_
  obtain ⟨n, rfl | rfl⟩ := k.eq_nat_or_neg
  · rw [← Nat.cast_succ, value_natCast, value_natCast]
    exact F.magnitude_lt_succ n
  · cases n with
    | zero =>
        have hfirst := F.magnitude_lt_succ 0
        rw [← value_natCast, ← value_natCast] at hfirst
        simpa using hfirst
    | succ n =>
        have hprev : -((n + 1 : ℕ) : ℤ) + 1 = -(n : ℤ) := by push_cast; ring
        rw [hprev, value_neg, value_neg, value_natCast, value_natCast]
        exact neg_lt_neg (F.magnitude_lt_succ n)

def upperHalf (k : ℤ) : ℚ :=
  (F.value k + F.value (k + 1)) / 2

/-- `q` rounds to the number with ordinal `k`: it lies closer to it than to its
neighbours, ties going to the even mantissa. -/
def RoundsTo (q : ℚ) (k : ℤ) : Prop :=
  F.upperHalf (k - 1) < q ∧ q < F.upperHalf k ∨
    k % 2 = 0 ∧ F.upperHalf (k - 1) ≤ q ∧ q ≤ F.upperHalf k

instance (q : ℚ) (k : ℤ) : Decidable (F.RoundsTo q k) :=
  inferInstanceAs (Decidable (_ ∨ _))

theorem lt_upperHalf (k : ℤ) : F.value k < F.upperHalf k := by
  have := F.value_strictMono (lt_add_one k)
  unfold upperHalf
  linarith

theorem upperHalf_lt (k : ℤ) : F.upperHalf k < F.value (k + 1) := by
  have := F.value_strictMono (lt_add_one k)
  unfold upperHalf
  linarith

theorem roundsTo_value (k : ℤ) : F.RoundsTo (F.value k) k := by
  have hbelow := F.upperHalf_lt (k - 1)
  rw [sub_add_cancel] at hbelow
  exact Or.inl ⟨hbelow, F.lt_upperHalf k⟩

variable {F}

theorem RoundsTo.bounds {q : ℚ} {k : ℤ} (h : F.RoundsTo q k) :
    F.upperHalf (k - 1) ≤ q ∧ q ≤ F.upperHalf k := by
  rcases h with ⟨hlow, hhigh⟩ | ⟨-, hlow, hhigh⟩
  · exact ⟨hlow.le, hhigh.le⟩
  · exact ⟨hlow, hhigh⟩

theorem RoundsTo.lt_value {q : ℚ} {k j : ℤ} (h : F.RoundsTo q k) (hkj : k < j) :
    q < F.value j := calc
  q ≤ F.upperHalf k := h.bounds.2
  _ < F.value (k + 1) := F.upperHalf_lt k
  _ ≤ F.value j := F.value_strictMono.monotone hkj

theorem RoundsTo.value_lt {q : ℚ} {k j : ℤ} (h : F.RoundsTo q k) (hjk : j < k) :
    F.value j < q := calc
  F.value j ≤ F.value (k - 1) := F.value_strictMono.monotone (by omega)
  _ < F.upperHalf (k - 1) := F.lt_upperHalf (k - 1)
  _ ≤ q := h.bounds.1

variable (F)

/-- The two multiples of `10 ^ exponent` around `q`, the nearer one first. -/
def neighbours (q : ℚ) (exponent : ℤ) : List Decimal :=
  let low : Decimal := ⟨⌊q / 10 ^ exponent⌋, exponent⟩
  let high : Decimal := ⟨⌈q / 10 ^ exponent⌉, exponent⟩
  if q - low.toRat ≤ high.toRat - q then [low, high] else [high, low]

/-- Numerals near the number with ordinal `k`, from multiples of `10 ^ top`
downwards to ever smaller powers of ten. -/
def decimalCandidates (top : ℤ) (steps : ℕ) (k : ℤ) : List Decimal :=
  (List.range steps).flatMap fun i : ℕ => neighbours (F.value k) (top - i)

/-- The shortest numeral that rounds to the number with ordinal `k`: the largest
power of ten with a multiple that rounds to the number gives the fewest digits. -/
def shortestDecimal (top : ℤ) (steps : ℕ) (k : ℤ) : Decimal :=
  ((F.decimalCandidates top steps k).find? fun d => F.RoundsTo d.toRat k).getD
    (dyadicDecimal (k.sign * F.significand k.natAbs) (F.exponent k.natAbs))

theorem shortestDecimal_roundsTo (top : ℤ) (steps : ℕ) (k : ℤ) :
    F.RoundsTo (F.shortestDecimal top steps k).toRat k := by
  unfold shortestDecimal
  cases hfind : (F.decimalCandidates top steps k).find? fun d => F.RoundsTo d.toRat k with
  | none =>
      rw [Option.getD_none, dyadicDecimal_toRat]
      exact F.roundsTo_value k
  | some d =>
      rw [Option.getD_some]
      simpa using List.find?_some hfind

end Format
end LSTAndroid.Library.BinaryFormat
