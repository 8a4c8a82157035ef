import Mathlib.Algebra.Order.Field.Basic

namespace LSTAndroid.Library.ClampedQuotient

universe u

variable {K : Type u} [Field K] [LinearOrder K] [IsStrictOrderedRing K]

/-- The share that `n` things are of `d`. -/
def share (d n : ℕ) : K :=
  min 1 (n / d)

def truncatedShare (d n : ℕ) : ℕ :=
  min 1 (n / d)

variable {d n : ℕ}

theorem share_of_le (hd : 0 < d) (h : d ≤ n) : (share d n : K) = 1 := by
  have hpos : (0 : K) < d := Nat.cast_pos.mpr hd
  apply min_eq_left
  rw [le_div_iff₀ hpos, one_mul]
  exact Nat.cast_le.mpr h

theorem share_of_lt (h : n < d) : (share d n : K) = n / d := by
  have hpos : (0 : K) < d := Nat.cast_pos.mpr (by omega)
  apply min_eq_right
  rw [div_le_iff₀ hpos, one_mul]
  exact Nat.cast_le.mpr h.le

theorem share_pos (hd : 0 < d) (hn : 0 < n) : (0 : K) < share d n := by
  have hquotient : (0 : K) < n / d := div_pos (Nat.cast_pos.mpr hn) (Nat.cast_pos.mpr hd)
  exact lt_min one_pos hquotient

theorem truncatedShare_eq (hd : 0 < d) (n : ℕ) :
    truncatedShare d n = if d ≤ n then 1 else 0 := by
  unfold truncatedShare
  split
  · rename_i hle
    exact min_eq_left (Nat.div_pos hle hd)
  · rename_i hlt
    rw [Nat.div_eq_of_lt (not_le.mp hlt)]
    rfl

theorem truncatedShare_le_one (d n : ℕ) : truncatedShare d n ≤ 1 :=
  min_le_left _ _

theorem truncatedShare_mono (d : ℕ) : Monotone (truncatedShare d) := fun _ _ h =>
  min_le_min_left 1 (Nat.div_le_div_right h)

theorem truncatedShare_eq_share_iff (hd : 0 < d) :
    (truncatedShare d n : K) = share d n ↔ n = 0 ∨ d ≤ n := by
  rw [truncatedShare_eq hd]
  split
  · rename_i hle
    simp [share_of_le hd hle, hle]
  · rename_i hlt
    rw [or_iff_left hlt, Nat.cast_zero]
    constructor
    · intro hzero
      by_contra hne
      exact (share_pos hd (Nat.pos_of_ne_zero hne)).ne hzero
    · rintro rfl
      simp [share]

theorem truncatedShare_lt_succ_iff (hd : 0 < d) :
    truncatedShare d n < truncatedShare d (n + 1) ↔ n + 1 = d := by
  rw [truncatedShare_eq hd, truncatedShare_eq hd]
  split
  · rw [if_pos (by omega)]
    omega
  · split
    · omega
    · omega

end LSTAndroid.Library.ClampedQuotient
