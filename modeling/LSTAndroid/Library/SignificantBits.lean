import Mathlib.Data.Int.ConditionallyCompleteOrder
import Mathlib.Data.Nat.Log
import Mathlib.Order.Monotone.Basic
import Mathlib.Tactic.Linarith
import Mathlib.Tactic.Ring

namespace LSTAndroid.Library.SignificantBits

/-- The multiple of `unit` nearest to `n`, on a tie the even one. -/
def nearestMultiple (unit n : ℕ) : ℕ :=
  if 2 * (n % unit) < unit ∨ 2 * (n % unit) = unit ∧ n / unit % 2 = 0 then n / unit * unit
  else (n / unit + 1) * unit

theorem nearestMultiple_le {unit n m : ℕ} (hunit : 0 < unit) (hdvd : unit ∣ m) (h : n ≤ m) :
    nearestMultiple unit n ≤ m := by
  obtain ⟨k, rfl⟩ := hdvd
  have hdiv := Nat.div_add_mod' n unit
  unfold nearestMultiple
  split
  · omega
  · rename_i hup
    have hlt : n < unit * k := by
      refine lt_of_le_of_ne h ?_
      rintro rfl
      exact hup (.inl (by rwa [Nat.mul_mod_right]))
    rw [Nat.mul_comm unit k]
    exact Nat.mul_le_mul_right unit ((Nat.div_lt_iff_lt_mul hunit).mpr (Nat.mul_comm unit k ▸ hlt))

theorem le_nearestMultiple {unit n m : ℕ} (hunit : 0 < unit) (hdvd : unit ∣ m) (h : m ≤ n) :
    m ≤ nearestMultiple unit n := by
  obtain ⟨k, rfl⟩ := hdvd
  have hk : k ≤ n / unit := (Nat.le_div_iff_mul_le hunit).mpr (Nat.mul_comm unit k ▸ h)
  rw [Nat.mul_comm unit k]
  unfold nearestMultiple
  split
  · exact Nat.mul_le_mul_right unit hk
  · exact Nat.mul_le_mul_right unit (Nat.le_succ_of_le hk)

theorem dvd_nearestMultiple (unit n : ℕ) : unit ∣ nearestMultiple unit n := by
  unfold nearestMultiple
  split
  · exact Nat.dvd_mul_left _ _
  · exact Nat.dvd_mul_left _ _

/-- A number is rounded above the multiple `m` when it lies beyond the middle between `m`
and the next multiple. -/
theorem lt_nearestMultiple_iff {unit n m : ℕ} (hunit : 0 < unit) (hdvd : unit ∣ m) (h : m ≤ n) :
    m < nearestMultiple unit n ↔
      2 * m + unit < 2 * n ∨ 2 * n = 2 * m + unit ∧ m / unit % 2 = 1 := by
  obtain ⟨k, rfl⟩ := hdvd
  have hdiv := Nat.div_add_mod' n unit
  have hmod := Nat.mod_lt n hunit
  have hk : k ≤ n / unit := (Nat.le_div_iff_mul_le hunit).mpr (Nat.mul_comm unit k ▸ h)
  rw [Nat.mul_div_cancel_left k hunit]
  rcases hk.eq_or_lt with hsame | hnext
  · -- `n` lies between `m` and the next multiple
    rw [Nat.mul_comm unit k, hsame]
    rw [← hsame] at hdiv
    unfold nearestMultiple
    rw [← hsame]
    split
    · omega
    · rw [Nat.succ_mul]
      omega
  · have hstep : (k + 1) * unit ≤ n / unit * unit := Nat.mul_le_mul_right unit hnext
    rw [Nat.succ_mul] at hstep
    have hround := le_nearestMultiple hunit (Nat.dvd_mul_left unit (n / unit))
      (Nat.div_mul_le_self n unit)
    rw [Nat.mul_comm unit k]
    exact iff_of_true (by omega) (.inl (by omega))

theorem two_mul_nearestMultiple_le {unit : ℕ} (hunit : 0 < unit) (n : ℕ) :
    2 * nearestMultiple unit n ≤ 2 * n + unit := by
  have hdiv := Nat.div_add_mod' n unit
  have hmod := Nat.mod_lt n hunit
  unfold nearestMultiple
  split
  · omega
  · rw [Nat.succ_mul (n / unit)]
    omega

theorem le_nearestMultiple_of_near {unit n m : ℕ} (hdvd : unit ∣ m)
    (hbelow : n < m) (hnear : 2 * m < 2 * n + unit) : m ≤ nearestMultiple unit n := by
  obtain ⟨k, rfl⟩ := hdvd
  have hunit : 0 < unit := by
    by_contra hzero
    obtain rfl : unit = 0 := by omega
    omega
  have hdiv := Nat.div_add_mod' n unit
  have hk : n / unit + 1 = k := by
    have hlt : n / unit < k := (Nat.div_lt_iff_lt_mul hunit).mpr (Nat.mul_comm unit k ▸ hbelow)
    have hgt : k < n / unit + 2 := by
      apply Nat.lt_of_mul_lt_mul_right (a := unit)
      have hmod := Nat.mod_lt n hunit
      rw [Nat.mul_comm k unit, Nat.add_mul]
      omega
    omega
  rw [Nat.mul_comm unit k] at hbelow hnear ⊢
  rw [← hk, Nat.succ_mul (n / unit)] at hbelow hnear ⊢
  unfold nearestMultiple
  split
  · omega
  · rw [Nat.succ_mul]

variable {p : ℕ}

/-- The last place of a number with `p` significant bits. -/
def unitOf (p n : ℕ) : ℕ :=
  2 ^ (n.log2 + 1 - p)

def roundNat (p n : ℕ) : ℕ :=
  nearestMultiple (unitOf p n) n

/-- No bits beyond the first `p`. -/
def Representable (p n : ℕ) : Prop :=
  unitOf p n ∣ n

theorem unitOf_pos (p n : ℕ) : 0 < unitOf p n :=
  pow_pos two_pos _

theorem log2_mono {m n : ℕ} (h : m ≤ n) : m.log2 ≤ n.log2 := by
  rw [Nat.log2_eq_log_two, Nat.log2_eq_log_two]
  exact Nat.log_mono_right h

theorem unitOf_dvd_unitOf {m n : ℕ} (h : m ≤ n) : unitOf p m ∣ unitOf p n :=
  pow_dvd_pow 2 (Nat.sub_le_sub_right (Nat.succ_le_succ (log2_mono h)) p)

theorem unitOf_dvd_two_pow (hp : 1 ≤ p) (n : ℕ) : unitOf p n ∣ 2 ^ n.log2 :=
  pow_dvd_pow 2 (by omega)

theorem unitOf_dvd_two_pow_succ (hp : 1 ≤ p) (n : ℕ) : unitOf p n ∣ 2 ^ (n.log2 + 1) :=
  pow_dvd_pow 2 (by omega)

theorem representable_two_pow (hp : 1 ≤ p) (e : ℕ) : Representable p (2 ^ e) := by
  have hdvd := unitOf_dvd_two_pow hp (2 ^ e)
  rwa [Nat.log2_two_pow] at hdvd

theorem representable_of_lt {n : ℕ} (h : n < 2 ^ p) : Representable p n := by
  rcases n.eq_zero_or_pos with rfl | hpos
  · exact dvd_zero _
  · have hlog := (Nat.log2_lt hpos.ne').mpr h
    rw [Representable, unitOf, Nat.sub_eq_zero_of_le hlog, pow_zero]
    exact one_dvd n

@[simp] theorem roundNat_zero : roundNat p 0 = 0 := by
  simp [roundNat, nearestMultiple, unitOf_pos]

theorem roundNat_le {n v : ℕ} (hv : Representable p v) (h : n ≤ v) : roundNat p n ≤ v :=
  nearestMultiple_le (unitOf_pos p n) ((unitOf_dvd_unitOf h).trans hv) h

theorem two_pow_log2_le_roundNat (hp : 1 ≤ p) {n : ℕ} (hn : n ≠ 0) :
    2 ^ n.log2 ≤ roundNat p n :=
  le_nearestMultiple (unitOf_pos p n) (unitOf_dvd_two_pow hp n) (Nat.log2_self_le hn)

theorem le_roundNat (hp : 1 ≤ p) {n v : ℕ} (hv : Representable p v) (h : v ≤ n) :
    v ≤ roundNat p n := by
  rcases (log2_mono h).eq_or_lt with hsame | hnext
  · refine le_nearestMultiple (unitOf_pos p n) ?_ h
    rw [unitOf, ← hsame]
    exact hv
  · have hn : n ≠ 0 := by
      rintro rfl
      exact absurd hnext (by simp)
    calc v ≤ 2 ^ (v.log2 + 1) := Nat.lt_log2_self.le
      _ ≤ 2 ^ n.log2 := Nat.pow_le_pow_right two_pos hnext
      _ ≤ roundNat p n := two_pow_log2_le_roundNat hp hn

theorem roundNat_of_representable (hp : 1 ≤ p) {v : ℕ} (hv : Representable p v) :
    roundNat p v = v :=
  le_antisymm (roundNat_le hv le_rfl) (le_roundNat hp hv le_rfl)

theorem representable_roundNat (hp : 1 ≤ p) (n : ℕ) : Representable p (roundNat p n) := by
  rcases eq_or_ne n 0 with rfl | hn
  · rw [roundNat_zero]
    exact dvd_zero _
  have hlow := two_pow_log2_le_roundNat hp hn
  have hhigh : roundNat p n ≤ 2 ^ (n.log2 + 1) :=
    nearestMultiple_le (unitOf_pos p n) (unitOf_dvd_two_pow_succ hp n) Nat.lt_log2_self.le
  rcases hhigh.eq_or_lt with hpower | hbinade
  · rw [hpower]
    exact representable_two_pow hp (n.log2 + 1)
  · have hlog : (roundNat p n).log2 = n.log2 :=
      (Nat.log2_eq_iff (by have := Nat.two_pow_pos n.log2; omega)).mpr ⟨hlow, hbinade⟩
    rw [Representable, unitOf, hlog]
    exact dvd_nearestMultiple _ n

/-- `n` lies beyond the middle between `v` and the next number with `p` significant bits;
the middle itself belongs to the even one of the two. -/
def Passes (p v n : ℕ) : Prop :=
  2 * v + unitOf p v < 2 * n ∨ 2 * n = 2 * v + unitOf p v ∧ v / unitOf p v % 2 = 1

instance (v n : ℕ) : Decidable (Passes p v n) :=
  inferInstanceAs (Decidable (_ ∨ _))

theorem lt_roundNat_iff (hp : 1 ≤ p) {v : ℕ} (hv : Representable p v) (n : ℕ) :
    v < roundNat p n ↔ Passes p v n := by
  have hunit := unitOf_pos p v
  rcases le_or_gt n v with hbelow | habove
  · exact iff_of_false (roundNat_le hv hbelow).not_gt (by unfold Passes; omega)
  rcases (log2_mono habove.le).eq_or_lt with hsame | hnext
  · have hunits : unitOf p n = unitOf p v := by rw [unitOf, unitOf, hsame]
    rw [roundNat, hunits]
    exact lt_nearestMultiple_iff hunit hv habove.le
  · -- `n` has more bits than `v`, and the next number after `v` has no more than `n`
    have hroom : v + unitOf p v ≤ 2 ^ (v.log2 + 1) := by
      obtain ⟨k, hk⟩ := hv
      obtain ⟨j, hj⟩ := unitOf_dvd_two_pow_succ hp v
      have hlt : unitOf p v * k < unitOf p v * j := by
        rw [← hk, ← hj]
        exact Nat.lt_log2_self
      rw [hj]
      calc v + unitOf p v = unitOf p v * (k + 1) := by rw [Nat.mul_succ, ← hk]
        _ ≤ unitOf p v * j := Nat.mul_le_mul_left _ (Nat.lt_of_mul_lt_mul_left hlt)
    have hn : n ≠ 0 := by omega
    have hpow : 2 ^ (v.log2 + 1) ≤ 2 ^ n.log2 := Nat.pow_le_pow_right two_pos hnext
    have hlow := Nat.log2_self_le hn
    have hround := two_pow_log2_le_roundNat hp hn
    exact iff_of_true (by omega) (.inl (by omega))

theorem roundNat_mono (hp : 1 ≤ p) : Monotone (roundNat p) := by
  intro m n h
  by_contra hlt
  have hpasses := (lt_roundNat_iff hp (representable_roundNat hp n) m).mp (not_le.mp hlt)
  have hself := mt (lt_roundNat_iff hp (representable_roundNat hp n) n).mpr (lt_irrefl _)
  unfold Passes at hpasses hself
  omega

theorem roundNat_lt_iff (hp : 1 ≤ p) (m n : ℕ) :
    roundNat p m < roundNat p n ↔
      ∃ v, Representable p v ∧ ¬ Passes p v m ∧ Passes p v n := by
  constructor
  · intro h
    have hv := representable_roundNat hp m
    exact ⟨_, hv, mt (lt_roundNat_iff hp hv m).mpr (lt_irrefl _), (lt_roundNat_iff hp hv n).mp h⟩
  · rintro ⟨v, hv, hm, hn⟩
    have hlow : roundNat p m ≤ v := not_lt.mp (mt (lt_roundNat_iff hp hv m).mp hm)
    exact hlow.trans_lt ((lt_roundNat_iff hp hv n).mpr hn)

/-- The magnitude is rounded, the sign kept. -/
def round (p : ℕ) (z : ℤ) : ℤ :=
  z.sign * roundNat p z.natAbs

theorem round_natCast (n : ℕ) : round p n = roundNat p n := by
  cases n with
  | zero => simp [round]
  | succ n =>
      have hsign : ((n + 1 : ℕ) : ℤ).sign = 1 := Int.sign_eq_one_of_pos (by omega)
      rw [round, hsign, one_mul, Int.natAbs_natCast]

theorem round_neg (z : ℤ) : round p (-z) = -round p z := by
  simp [round, Int.sign_neg]

/-- A middle between two neighbouring numbers with `p` significant bits lies between `a`
and `b`. -/
def Separated (p : ℕ) (a b : ℤ) : Prop :=
  ∃ v, Representable p v ∧
    (¬ Passes p v a.toNat ∧ Passes p v b.toNat ∨ ¬ Passes p v (-b).toNat ∧ Passes p v (-a).toNat)

theorem round_lt_iff (hp : 1 ≤ p) (a b : ℤ) : round p a < round p b ↔ Separated p a b := by
  have hparts : Separated p a b ↔ roundNat p a.toNat < roundNat p b.toNat ∨
      roundNat p (-b).toNat < roundNat p (-a).toNat := by
    rw [roundNat_lt_iff hp, roundNat_lt_iff hp, ← exists_or]
    exact exists_congr fun v => by rw [← and_or_left]
  rw [hparts]
  obtain ⟨m, rfl | rfl⟩ := a.eq_nat_or_neg <;> obtain ⟨n, rfl | rfl⟩ := b.eq_nat_or_neg
  · simp [round_natCast]
  · simp [round_natCast, round_neg]
  · simp [round_natCast, round_neg]
    omega
  · simp [round_natCast, round_neg]

theorem round_mono (hp : 1 ≤ p) : Monotone (round p) := by
  intro a b h
  obtain ⟨m, rfl | rfl⟩ := a.eq_nat_or_neg <;> obtain ⟨n, rfl | rfl⟩ := b.eq_nat_or_neg
  · simpa [round_natCast] using roundNat_mono hp (by omega : m ≤ n)
  · obtain ⟨rfl, rfl⟩ : m = 0 ∧ n = 0 := by omega
    simp
  · simp only [round_natCast, round_neg]
    omega
  · simpa [round_natCast, round_neg] using roundNat_mono hp (by omega : n ≤ m)

theorem round_of_representable (hp : 1 ≤ p) {z : ℤ} (hz : Representable p z.natAbs) :
    round p z = z := by
  rw [round, roundNat_of_representable hp hz, Int.sign_mul_natAbs]

theorem representable_round (hp : 1 ≤ p) (z : ℤ) : Representable p (round p z).natAbs := by
  obtain ⟨n, rfl | rfl⟩ := z.eq_nat_or_neg
  · simpa [round_natCast] using representable_roundNat hp n
  · simpa [round_natCast, round_neg] using representable_roundNat hp n

def add (p : ℕ) (a b : ℤ) : ℤ :=
  round p (a + b)

theorem le_add (hp : 1 ≤ p) {a : ℤ} (ha : Representable p a.natAbs) {step : ℤ}
    (hstep : 0 ≤ step) : a ≤ add p a step := calc
  a = round p a := (round_of_representable hp ha).symm
  _ ≤ round p (a + step) := round_mono hp (by omega)

section Step

variable {k step : ℕ}

theorem unitOf_lt_iff (hp : 1 ≤ p) (hlow : 2 ^ k < 2 * step) (hhigh : 2 * step < 2 ^ (k + 1))
    (n : ℕ) : unitOf p n < 2 * step ↔ n < 2 ^ (p + k) := by
  have hexponent : unitOf p n < 2 * step ↔ n.log2 + 1 - p ≤ k := by
    constructor
    · intro h
      exact Nat.lt_succ_iff.mp ((Nat.pow_lt_pow_iff_right one_lt_two).mp (h.trans hhigh))
    · intro h
      exact (Nat.pow_le_pow_right two_pos h).trans_lt hlow
  rw [hexponent]
  rcases eq_or_ne n 0 with rfl | hn
  · exact iff_of_true (by simp; omega) (Nat.two_pow_pos _)
  · rw [← Nat.log2_lt hn]
    omega

theorem natCast_lt_add_iff (hp : 1 ≤ p) (hlow : 2 ^ k < 2 * step)
    (hhigh : 2 * step < 2 ^ (k + 1)) {n : ℕ} (hn : Representable p n) :
    (n : ℤ) < add p n step ↔ n < 2 ^ (p + k) := by
  have hunit : unitOf p n ≠ 2 * step := by
    intro h
    have hlt : k < n.log2 + 1 - p :=
      (Nat.pow_lt_pow_iff_right one_lt_two).mp (hlow.trans_eq h.symm)
    have hgt : n.log2 + 1 - p < k + 1 :=
      (Nat.pow_lt_pow_iff_right one_lt_two).mp (h.trans_lt hhigh)
    omega
  have hcast : (n : ℤ) + step = (n + step : ℕ) := by push_cast; ring
  rw [add, hcast, round_natCast, Nat.cast_lt, lt_roundNat_iff hp hn, Passes,
    ← unitOf_lt_iff hp hlow hhigh]
  omega

theorem neg_lt_add_iff (hp : 1 ≤ p) (hlow : 2 ^ k < 2 * step)
    (hhigh : 2 * step < 2 ^ (k + 1)) {m : ℕ} (hm : Representable p m) (hpos : 0 < m) :
    -(m : ℤ) < add p (-m) step ↔ m ≤ 2 ^ (p + k) := by
  have hpow : 2 ^ k ≤ 2 ^ (p + k) := Nat.pow_le_pow_right two_pos (by omega)
  have hdouble : 2 ^ (k + 1) = 2 ^ k * 2 := pow_succ 2 k
  rcases le_or_gt m step with hsmall | hlarge
  · -- the sum is not negative
    have hcast : -(m : ℤ) + step = (step - m : ℕ) := by omega
    rw [add, hcast, round_natCast]
    exact iff_of_true (by omega) (by omega)
  obtain ⟨n, rfl⟩ : ∃ n, m = n + step := ⟨m - step, by omega⟩
  have hcast : -((n + step : ℕ) : ℤ) + step = -(n : ℤ) := by omega
  rw [add, hcast, round_neg, round_natCast, neg_lt_neg_iff, Nat.cast_lt]
  constructor
  · intro hround
    by_contra hbeyond
    -- the next number above `2 ^ (p + k)` is a whole step away from it
    have hunit : ∀ {j : ℕ}, 2 ^ (p + k) ≤ j → 2 ^ (k + 1) ∣ unitOf p j := by
      intro j hj
      have hj0 : j ≠ 0 := by
        have := Nat.two_pow_pos (p + k)
        omega
      have hlog := (Nat.le_log2 hj0).mpr hj
      exact pow_dvd_pow 2 (by omega)
    have hdvd : 2 ^ (k + 1) ∣ n + step := (hunit (by omega)).trans hm
    have hroom : 2 ^ (p + k) + 2 ^ (k + 1) ≤ n + step := by
      obtain ⟨i, hi⟩ := hdvd
      obtain ⟨j, hj⟩ : 2 ^ (k + 1) ∣ 2 ^ (p + k) := pow_dvd_pow 2 (by omega)
      have hlt : 2 ^ (k + 1) * j < 2 ^ (k + 1) * i := by omega
      have hnext : 2 ^ (k + 1) * (j + 1) ≤ 2 ^ (k + 1) * i :=
        Nat.mul_le_mul_left _ (Nat.lt_of_mul_lt_mul_left hlt)
      rw [Nat.mul_succ] at hnext
      omega
    have hwide := Nat.le_of_dvd (unitOf_pos p n) (hunit (by omega : 2 ^ (p + k) ≤ n))
    have hnear : n + step ≤ roundNat p n :=
      le_nearestMultiple_of_near ((unitOf_dvd_unitOf (by omega)).trans hm) (by omega) (by omega)
    omega
  · intro hinside
    have hunit : unitOf p n < 2 * step := (unitOf_lt_iff hp hlow hhigh n).mpr (by omega)
    have herror := two_mul_nearestMultiple_le (unitOf_pos p n) n
    rw [← roundNat] at herror
    omega

/-- A step of between one and two half units of the numbers of `p + k` bits makes progress
on these numbers and on no others. -/
theorem lt_add_iff (hp : 1 ≤ p) (hlow : 2 ^ k < 2 * step) (hhigh : 2 * step < 2 ^ (k + 1))
    {a : ℤ} (ha : Representable p a.natAbs) :
    a < add p a step ↔ -2 ^ (p + k) ≤ a ∧ a < 2 ^ (p + k) := by
  have hpow : (0 : ℤ) < 2 ^ (p + k) := by positivity
  rcases lt_or_ge a 0 with hneg | hnonneg
  · obtain ⟨m, rfl⟩ : ∃ m : ℕ, a = -m := ⟨a.natAbs, by omega⟩
    rw [neg_lt_add_iff hp hlow hhigh (by simpa using ha) (by omega),
      ← Int.ofNat_le (m := m)]
    push_cast
    omega
  · obtain ⟨n, rfl⟩ := Int.eq_ofNat_of_zero_le hnonneg
    rw [natCast_lt_add_iff hp hlow hhigh (by simpa using ha), ← Int.ofNat_lt]
    push_cast
    omega

theorem add_le_two_pow (hp : 1 ≤ p) (hhigh : 2 * step < 2 ^ (k + 1)) {a : ℤ}
    (ha : Representable p a.natAbs) (hbelow : a < 2 ^ (p + k)) :
    add p a step ≤ 2 ^ (p + k) := by
  obtain ⟨q, rfl⟩ : ∃ q, p = q + 1 := ⟨p - 1, by omega⟩
  have hdouble : (2 : ℤ) ^ (q + 1 + k) = 2 ^ (q + k) * 2 := by ring
  have hstep : (step : ℤ) < 2 ^ k := by
    have hcast : 2 * (step : ℤ) < 2 ^ k * 2 := by exact_mod_cast pow_succ 2 k ▸ hhigh
    omega
  have hroom : a + step ≤ 2 ^ (q + 1 + k) := by
    rcases lt_or_ge a (2 ^ (q + k)) with hsmall | hlarge
    · have hpow : (2 : ℤ) ^ k ≤ 2 ^ (q + k) := pow_le_pow_right₀ one_le_two (by omega)
      omega
    · -- the last place of a number between the two powers is `2 ^ k`
      obtain ⟨n, rfl⟩ := Int.eq_ofNat_of_zero_le (le_trans (by positivity) hlarge)
      have hn : n ≠ 0 := by
        rintro rfl
        exact absurd hlarge (by simp)
      have hlog : n.log2 = q + k :=
        (Nat.log2_eq_iff hn).mpr ⟨by exact_mod_cast hlarge, by
          rw [show q + k + 1 = q + 1 + k by omega]
          exact_mod_cast hbelow⟩
      have hdvd : (2 : ℤ) ^ k ∣ n := by
        have hunit : unitOf (q + 1) n = 2 ^ k := by
          rw [unitOf, hlog]
          congr 1
          omega
        have hrep : unitOf (q + 1) n ∣ n := ha
        rw [hunit] at hrep
        exact_mod_cast hrep
      obtain ⟨i, hi⟩ := hdvd
      obtain ⟨j, hj⟩ : (2 : ℤ) ^ k ∣ 2 ^ (q + 1 + k) := pow_dvd_pow 2 (by omega)
      rw [hi, hj] at hbelow ⊢
      have hlt : i < j := lt_of_mul_lt_mul_left hbelow (by positivity)
      calc 2 ^ k * i + step ≤ 2 ^ k * i + 2 ^ k := by omega
        _ = 2 ^ k * (i + 1) := by ring
        _ ≤ 2 ^ k * j := mul_le_mul_of_nonneg_left hlt (by positivity)
  have hpower : round (q + 1) (2 ^ (q + 1 + k)) = 2 ^ (q + 1 + k) :=
    round_of_representable hp (by
      rw [Int.natAbs_pow]
      exact representable_two_pow hp _)
  exact (round_mono hp hroom).trans_eq hpower

end Step

end LSTAndroid.Library.SignificantBits
