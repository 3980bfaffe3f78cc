import Mathlib.Data.Rat.Floor
import Mathlib.Tactic.Linarith
import Mathlib.Tactic.Ring
import SwapRouter.Decimal
import SwapRouter.Proofs.Fraction

/-!
# Decimals that keep a number of digits

The operations on decimals are exact first, and their result is rounded to a number of significant
digits.  The rounding goes by the digits of the coefficient and hands on the exponent, so it is enough
to look at whole numbers: rounding one of them keeps the order, and a factor of ten passes through it
whether it stands in the coefficient or in the exponent.

* `Decimal.value`, `Decimal.floor_eq`: the rational number that a decimal stands for.
* `Decimal.roundDigits`: a whole number rounded to a number of significant digits.
* `Decimal.roundDigits_mono`, `Decimal.roundDigits_mul_pow`, `Decimal.roundDigits_near`: **what rounding
  keeps, and how far it is off.**
* `Decimal.exists_oneMinus`, `Decimal.value_ofInt_mul`: the two operations.
* `Decimal.fits_iff`: the numbers that rounding keeps.
-/

namespace SwapRouter

theorem roundHalfEven_mul_mul {k : ℕ} (hk : 0 < k) (num den : ℕ) :
    roundHalfEven (num * k) (den * k) = roundHalfEven num den := by
  have hlt : 2 * (num % den * k) < den * k ↔ 2 * (num % den) < den := by
    rw [← Nat.mul_assoc]
    exact Nat.mul_lt_mul_right hk
  have heq : 2 * (num % den * k) = den * k ↔ 2 * (num % den) = den := by
    rw [← Nat.mul_assoc]
    exact Nat.mul_left_inj hk.ne'
  rw [roundHalfEven, roundHalfEven, Nat.mul_div_mul_right _ _ hk, Nat.mul_mod_mul_right]
  simp only [hlt, heq]

namespace Decimal

variable {p k m n c : ℕ} {e : ℤ}

/-! ## Digits of a whole number -/

theorem digitCount_pos (n : ℕ) : 0 < digitCount n := Nat.length_toDigits_pos

theorem digitCount_le_iff (hk : 0 < k) : digitCount n ≤ k ↔ n < 10 ^ k :=
  Nat.length_toDigits_le_iff (by decide) hk

theorem lt_pow_digitCount (n : ℕ) : n < 10 ^ digitCount n :=
  (digitCount_le_iff (digitCount_pos n)).1 le_rfl

theorem digitCount_mono (h : m ≤ n) : digitCount m ≤ digitCount n :=
  (digitCount_le_iff (digitCount_pos n)).2 (h.trans_lt (lt_pow_digitCount n))

theorem le_digitCount_iff (hn : 0 < n) : k + 1 ≤ digitCount n ↔ 10 ^ k ≤ n := by
  rcases Nat.eq_zero_or_pos k with rfl | hk
  · exact iff_of_true (digitCount_pos n) (by rwa [pow_zero])
  · rw [Nat.succ_le_iff, ← not_iff_not, not_lt, not_le, digitCount_le_iff hk]

/-- A power of ten puts zeros behind the digits. -/
theorem digitCount_mul_pow (hn : 0 < n) (k : ℕ) : digitCount (n * 10 ^ k) = digitCount n + k := by
  have hpow : 0 < 10 ^ k := by positivity
  obtain ⟨j, hj⟩ := Nat.exists_eq_add_of_lt (digitCount_pos n)
  rw [Nat.zero_add] at hj
  refine Nat.le_antisymm ?_ ?_
  · rw [digitCount_le_iff (Nat.add_pos_left (digitCount_pos n) k), pow_add]
    exact Nat.mul_lt_mul_of_pos_right (lt_pow_digitCount n) hpow
  · have hle : 10 ^ j ≤ n := (le_digitCount_iff hn).1 hj.ge
    rw [hj, Nat.add_right_comm, le_digitCount_iff (Nat.mul_pos hn hpow), pow_add]
    exact Nat.mul_le_mul_right _ hle

/-! ## Whole numbers with significant digits -/

/-- How many digits of a number are too many. -/
def surplusDigits (p n : ℕ) : ℕ := digitCount n - p

/-- A whole number rounded to a number of significant digits. -/
def roundDigits (p n : ℕ) : ℕ :=
  roundHalfEven n (10 ^ surplusDigits p n) * 10 ^ surplusDigits p n

/-- A number has no more significant digits than are kept: those behind them are zeros. -/
def HasDigits (p n : ℕ) : Prop := 10 ^ surplusDigits p n ∣ n

instance (p n : ℕ) : Decidable (HasDigits p n) := inferInstanceAs (Decidable (_ ∣ _))

/-- Zero has no digit too many. -/
theorem pos_of_surplusDigits (h : surplusDigits (p + 1) n ≠ 0) : 0 < n := by
  refine Nat.pos_of_ne_zero fun hzero => h ?_
  rw [hzero, surplusDigits, show digitCount 0 = 1 from rfl]
  omega

theorem surplusDigits_mono (h : m ≤ n) : surplusDigits p m ≤ surplusDigits p n :=
  Nat.sub_le_sub_right (digitCount_mono h) p

theorem roundDigits_le (p n : ℕ) : roundDigits p n ≤ 10 ^ (surplusDigits p n + p) := by
  have hlt : n < 10 ^ (surplusDigits p n + p) :=
    (lt_pow_digitCount n).trans_le (Nat.pow_le_pow_right (by decide) (by rw [surplusDigits]; omega))
  rw [pow_add] at hlt ⊢
  rw [roundDigits, Nat.mul_comm]
  refine Nat.mul_le_mul_left _ ((roundHalfEven_bounds _ _).2.trans ?_)
  exact Nat.succ_le_of_lt (Nat.div_lt_of_lt_mul hlt)

theorem le_roundDigits (h : 0 < surplusDigits (p + 1) n) :
    10 ^ (surplusDigits (p + 1) n + p) ≤ roundDigits (p + 1) n := by
  have hle : 10 ^ (surplusDigits (p + 1) n + p) ≤ n := by
    rw [← le_digitCount_iff (pos_of_surplusDigits h.ne')]
    rw [surplusDigits] at h ⊢
    omega
  rw [pow_add] at hle ⊢
  rw [roundDigits, Nat.mul_comm]
  refine Nat.mul_le_mul_right _ (le_trans ?_ (roundHalfEven_bounds _ _).1)
  exact (Nat.le_div_iff_mul_le (by positivity)).2 (by rwa [Nat.mul_comm])

/-- **Rounding to significant digits keeps the order.** -/
theorem roundDigits_mono (h : m ≤ n) : roundDigits (p + 1) m ≤ roundDigits (p + 1) n := by
  rcases (surplusDigits_mono (p := p + 1) h).lt_or_eq with hlt | heq
  · -- a power of ten lies between the two
    calc roundDigits (p + 1) m ≤ 10 ^ (surplusDigits (p + 1) m + (p + 1)) := roundDigits_le _ _
      _ ≤ 10 ^ (surplusDigits (p + 1) n + p) := Nat.pow_le_pow_right (by decide) (by omega)
      _ ≤ roundDigits (p + 1) n := le_roundDigits (by omega)
  · rw [roundDigits, roundDigits, heq]
    exact Nat.mul_le_mul_right _ (roundHalfEven_mono h _)

/-- A number is kept exactly if it has no more significant digits than that. -/
theorem roundDigits_eq_self_iff : roundDigits p n = n ↔ HasDigits p n := by
  have hpow : 0 < 10 ^ surplusDigits p n := by positivity
  constructor
  · exact fun h => ⟨_, by rw [Nat.mul_comm]; exact h.symm⟩
  · rintro ⟨q, hq⟩
    have hround := roundHalfEven_mul q (10 ^ surplusDigits p n) hpow
    rw [Nat.mul_comm, ← hq] at hround
    rw [roundDigits, hround, Nat.mul_comm, ← hq]

theorem roundDigits_of_surplusDigits (h : surplusDigits p n = 0) : roundDigits p n = n := by
  rw [roundDigits_eq_self_iff, HasDigits, h, pow_zero]
  exact one_dvd n

theorem hasDigits_of_digitCount_le (h : digitCount n ≤ p) : HasDigits p n := by
  rw [HasDigits, surplusDigits, Nat.sub_eq_zero_of_le h, pow_zero]
  exact one_dvd n

/-- **A factor of ten passes through the rounding.** -/
theorem roundDigits_mul_pow (p n k : ℕ) : roundDigits p (n * 10 ^ k) = roundDigits p n * 10 ^ k := by
  rcases Nat.eq_zero_or_pos n with rfl | hn
  · have hzero : roundDigits p 0 = 0 := by
      rw [roundDigits_eq_self_iff]
      exact dvd_zero _
    rw [Nat.zero_mul, hzero, Nat.zero_mul]
  have hcount := digitCount_mul_pow hn k
  rcases Nat.le_total p (digitCount n) with hle | hle
  · -- the zeros lie behind the last digit that is kept
    have hsurplus : surplusDigits p (n * 10 ^ k) = surplusDigits p n + k := by
      rw [surplusDigits, surplusDigits, hcount]
      omega
    rw [roundDigits, hsurplus, pow_add, roundHalfEven_mul_mul (by positivity), ← Nat.mul_assoc,
      roundDigits]
  · rw [roundDigits_eq_self_iff.2 (hasDigits_of_digitCount_le hle), roundDigits_eq_self_iff]
    refine (Nat.pow_dvd_pow 10 ?_).trans (Nat.dvd_mul_left _ n)
    rw [surplusDigits, hcount]
    omega

/-- Rounding keeps the order of numbers that are counted in different powers of ten. -/
theorem roundDigits_mul_pow_mono {i j : ℕ} (h : m * 10 ^ i ≤ n * 10 ^ j) :
    roundDigits (p + 1) m * 10 ^ i ≤ roundDigits (p + 1) n * 10 ^ j := by
  rw [← roundDigits_mul_pow, ← roundDigits_mul_pow]
  exact roundDigits_mono h

/-- A power of ten has one digit. -/
theorem roundDigits_pow (p k : ℕ) : roundDigits (p + 1) (10 ^ k) = 10 ^ k := by
  have hone : roundDigits (p + 1) 1 = 1 :=
    roundDigits_eq_self_iff.2 (hasDigits_of_digitCount_le (Nat.le_add_left 1 p))
  rw [← Nat.one_mul (10 ^ k), roundDigits_mul_pow, hone]

/-- A rounded number is off by half of its last digit, at most. -/
theorem roundDigits_near (p n : ℕ) :
    2 * 10 ^ p * roundDigits (p + 1) n ≤ (2 * 10 ^ p + 1) * n ∧
      2 * 10 ^ p * n ≤ 2 * 10 ^ p * roundDigits (p + 1) n + n := by
  rcases Nat.eq_zero_or_pos (surplusDigits (p + 1) n) with hzero | hpos
  · rw [roundDigits_of_surplusDigits hzero]
    constructor <;> nlinarith
  · have hlast : 10 ^ surplusDigits (p + 1) n * 10 ^ p ≤ n := by
      rw [← pow_add, ← le_digitCount_iff (pos_of_surplusDigits hpos.ne')]
      rw [surplusDigits] at hpos ⊢
      omega
    obtain ⟨habove, hbelow⟩ := roundHalfEven_near n (10 ^ surplusDigits (p + 1) n) (by positivity)
    rw [← roundDigits] at habove hbelow
    constructor <;> nlinarith [Nat.mul_le_mul_right (10 ^ p) habove,
      Nat.mul_le_mul_right (10 ^ p) hbelow]

/-! ## The number that a decimal stands for -/

/-- The value of a decimal. -/
def value (d : Decimal) : ℚ := d.coefficient * 10 ^ d.exponent

/-- **Rounding down goes by the value.** -/
theorem floor_eq (d : Decimal) : d.floor = ⌊d.value⌋ := by
  rw [floor, value, Nat.pow_eq, Nat.pow_eq]
  split
  next hexp =>
    obtain ⟨k, hk⟩ := Int.eq_ofNat_of_zero_le hexp
    have hfloor : ⌊((d.coefficient * 10 ^ k : ℤ) : ℚ)⌋ = d.coefficient * 10 ^ k :=
      Int.floor_intCast _
    rw [hk, Int.toNat_natCast, zpow_natCast]
    push_cast at hfloor ⊢
    exact hfloor.symm
  next hexp =>
    obtain ⟨k, hk⟩ := Int.eq_ofNat_of_zero_le (by omega : 0 ≤ -d.exponent)
    have hneg : d.exponent = -(k : ℤ) := by omega
    rw [hk, Int.toNat_natCast, hneg, zpow_neg, zpow_natCast, ← div_eq_mul_inv,
      Int.fdiv_eq_ediv_of_nonneg _ (by positivity)]
    have hfloor := Rat.floor_intCast_div_natCast d.coefficient (10 ^ k)
    push_cast at hfloor ⊢
    exact hfloor.symm

/-- A decimal that is not negative is rounded as its coefficient: the zeros that the rounding puts
behind its digits go to the exponent. -/
theorem exists_round (p n : ℕ) (e : ℤ) :
    ∃ q s : ℕ, round (p + 1) ⟨n, e⟩ = ⟨q, e + s⟩ ∧ q * 10 ^ s = roundDigits (p + 1) n := by
  rw [round, Int.natAbs_natCast]
  dsimp only
  rw [← surplusDigits]
  split
  next hzero =>
    refine ⟨n, 0, by rw [Int.natCast_zero, Int.add_zero], ?_⟩
    rw [roundDigits_of_surplusDigits hzero, pow_zero, Nat.mul_one]
  next hsurplus =>
    have hsign : (n : ℤ).sign = 1 :=
      Int.sign_eq_one_of_pos (Int.natCast_pos.2 (pos_of_surplusDigits hsurplus))
    refine ⟨roundHalfEven n (10 ^ surplusDigits (p + 1) n), surplusDigits (p + 1) n, ?_, rfl⟩
    rw [hsign, Int.one_mul, Nat.pow_eq]

theorem value_round (p n : ℕ) (e : ℤ) :
    (round (p + 1) ⟨n, e⟩).value = roundDigits (p + 1) n * 10 ^ e := by
  obtain ⟨q, s, hround, hq⟩ := exists_round p n e
  rw [hround, value, zpow_add₀ (by norm_num), zpow_natCast, ← hq]
  push_cast
  ring

/-- **The product** of a whole number and a decimal that is rounded already. -/
theorem value_ofInt_mul (a n : ℕ) (e : ℤ) :
    ((ofInt a).mul (round precision ⟨n, e⟩)).value =
      roundDigits precision (a * roundDigits precision n) * 10 ^ e := by
  obtain ⟨q, s, hround, hq⟩ := exists_round 27 n e
  have hcoefficient : (a : ℤ) * (q : ℤ) = ((a * q : ℕ) : ℤ) := (Int.natCast_mul a q).symm
  have hpass := roundDigits_mul_pow precision (a * q) s
  rw [Nat.mul_assoc, hq] at hpass
  rw [precision, hround, mul, ofInt, Int.zero_add, hcoefficient, precision, value_round,
    zpow_add₀ (by norm_num), zpow_natCast]
  rw [precision] at hpass
  rw [hpass]
  push_cast
  ring

/-- **What a decimal leaves of one,** if it is not above one, is the rounding of a number of parts. -/
theorem exists_oneMinus {d : Decimal} (hnonneg : 0 ≤ d.value) (hle : d.value ≤ 1) :
    ∃ m k : ℕ, oneMinus d = round precision ⟨m, -k⟩ ∧ 1 - d.value = m * 10 ^ (-k : ℤ) := by
  obtain ⟨coefficient, exponent⟩ := d
  rw [value] at hnonneg hle
  dsimp only at hnonneg hle
  rcases le_or_gt 0 exponent with hexp | hexp
  · obtain ⟨k, rfl⟩ := Int.eq_ofNat_of_zero_le hexp
    have hcast : (coefficient : ℚ) * 10 ^ (k : ℤ) = ((coefficient * 10 ^ k : ℤ) : ℚ) := by
      push_cast
      rw [zpow_natCast]
    rw [hcast] at hle
    have hle' : coefficient * 10 ^ k ≤ 1 := by exact_mod_cast hle
    obtain ⟨m, hm⟩ := Int.eq_ofNat_of_zero_le (sub_nonneg.2 hle')
    refine ⟨m, 0, ?_, ?_⟩
    · rw [oneMinus, if_pos hexp, Int.toNat_natCast, Nat.pow_eq, ← hm]
      push_cast
      rfl
    · rw [value, hcast]
      have hm' : (1 : ℚ) - ((coefficient * 10 ^ k : ℤ) : ℚ) = m := by exact_mod_cast hm
      simpa using hm'
  · obtain ⟨k, hk⟩ := Int.eq_ofNat_of_zero_le (by omega : 0 ≤ -exponent)
    obtain rfl : exponent = -(k : ℤ) := by omega
    have hpow : (10 : ℚ) ^ k ≠ 0 := by positivity
    have hle' : coefficient ≤ 10 ^ k := by
      rw [zpow_neg, zpow_natCast, ← div_eq_mul_inv, div_le_one (by positivity)] at hle
      exact_mod_cast hle
    obtain ⟨m, hm⟩ := Int.eq_ofNat_of_zero_le (sub_nonneg.2 hle')
    refine ⟨m, k, ?_, ?_⟩
    · rw [oneMinus, if_neg (not_le.2 hexp), neg_neg, Int.toNat_natCast, Nat.pow_eq, ← hm]
      push_cast
      rfl
    · have hm' : (10 : ℚ) ^ k - coefficient = m := by exact_mod_cast hm
      rw [value, ← hm', zpow_neg, zpow_natCast]
      field_simp

/-! ## Numbers that are kept -/

/-- A rational number has no more significant digits than an operation keeps. -/
def Fits (x : ℚ) : Prop := ∃ n < 10 ^ precision, ∃ e : ℤ, x = (n : ℕ) * 10 ^ e

/-- **Such numbers are the ones that rounding keeps.** -/
theorem fits_iff {n : ℕ} {e : ℤ} :
    Fits ((n : ℚ) * 10 ^ e) ↔ roundDigits precision n = n := by
  constructor
  · rintro ⟨n', hlt, e', heq⟩
    -- on a common exponent both are whole numbers, and one of them has few digits
    obtain ⟨i, j, hij⟩ : ∃ i j : ℕ, (i : ℤ) + e' = j + e :=
      ⟨(e - e').toNat, (e' - e).toNat, by omega⟩
    have hpow : (10 : ℚ) ^ e = 10 ^ (i : ℤ) * 10 ^ e' / 10 ^ (j : ℤ) := by
      rw [← zpow_add₀ (by norm_num), hij, zpow_add₀ (by norm_num)]
      field_simp
    have hcommon : n * 10 ^ i = n' * 10 ^ j := by
      rw [hpow, zpow_natCast, zpow_natCast] at heq
      have hne : (10 : ℚ) ^ e' ≠ 0 := zpow_ne_zero _ (by norm_num)
      field_simp at heq
      rw [Nat.mul_comm n']
      exact_mod_cast heq
    have hkept : roundDigits precision n' = n' :=
      roundDigits_eq_self_iff.2
        (hasDigits_of_digitCount_le ((digitCount_le_iff (by decide)).2 hlt))
    have hpass := roundDigits_mul_pow precision n i
    rw [hcommon, roundDigits_mul_pow, hkept, ← hcommon] at hpass
    exact (Nat.mul_right_cancel (by positivity) hpass).symm
  · intro h
    obtain ⟨q, hq⟩ := roundDigits_eq_self_iff.1 h
    have hlt : q < 10 ^ precision := by
      refine Nat.lt_of_mul_lt_mul_left (a := 10 ^ surplusDigits precision n) ?_
      rw [← hq, ← pow_add]
      refine (lt_pow_digitCount n).trans_le (Nat.pow_le_pow_right (by decide) ?_)
      rw [surplusDigits]
      omega
    refine ⟨q, hlt, surplusDigits precision n + e, ?_⟩
    rw [zpow_add₀ (by norm_num), zpow_natCast, ← mul_assoc]
    congr 1
    rw [mul_comm]
    exact_mod_cast hq

end Decimal

end SwapRouter
