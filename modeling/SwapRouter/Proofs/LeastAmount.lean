import SwapRouter.Proofs.FractionSum
import SwapRouter.Proofs.Outcome
import SwapRouter.Proofs.Shortest
import SwapRouter.RouterCall

/-!
# The amount that a slippage leaves

The least amount to receive is the product of an amount and of what the slippage leaves of one, rounded
down.  Both the difference and the product keep 28 digits, and rounding such a number down comes too
late where an amount has more of them: the rounding to 28 digits goes up as often as down, and may
even go above the amount.

What is true is that nothing is lost where 28 digits hold the difference and the product, which they do
for a slippage of `k` decimals and an amount below `10 ^ (28 - k)`.  Anywhere else the product is off by
a few parts in `10 ^ 28`, and the result differs from the exact one where a whole number lies between
the two.

* `Decimal.value_ofShortest_bounds`: the decimal of a slippage stays below one.
* `Decimal.mul_oneMinus_near`, `Decimal.mul_oneMinus_le`, `Decimal.mul_oneMinus_of_fits`: the product.
* `leastAmount_of_slippage`: **what a slippage leaves, and where this is exact.**
-/

namespace SwapRouter

namespace Decimal

open Binary64

-- The number of units is too large to be computed with while terms are elaborated.
attribute [local irreducible] unitsPerOne decimalPoint

variable {d : Decimal}

/-! ## The decimal of a slippage -/

/-- **The shortest decimal of a number below one is below one**: the basin of one lies above. -/
theorem value_ofShortest_bounds {units : ℕ} (hunits : IsMagnitude units) (hlt : units < unitsPerOne) :
    0 ≤ (ofShortest units).value ∧ (ofShortest units).value < 1 := by
  rcases Nat.eq_zero_or_pos units with rfl | hpos
  · rw [value_ofShortest_zero]
    norm_num
  have hone : IsMagnitude unitsPerOne := by decide +kernel
  have hplace : 0 < Nat.pow 2 (surplusBits units) := Nat.pow_pos Nat.two_pos
  have hnext := add_le_of_lt hunits hone hlt
  have hgreatest : (basin units).greatest < 4 * unitsPerOne := by
    rw [basin]
    dsimp only
    omega
  refine ⟨value_ofShortest_nonneg units, ?_⟩
  refine lt_of_mul_lt_mul_right ((value_ofShortest hpos).2.trans_lt ?_) quarters_pos.le
  rw [one_mul]
  exact_mod_cast hgreatest

/-! ## The product -/

/-- **The product of an amount and of what a decimal leaves of one**, with its two roundings. -/
theorem exists_mul_oneMinus (hnonneg : 0 ≤ d.value) (hle : d.value ≤ 1) (a : ℕ) :
    ∃ m k : ℕ, 1 - d.value = m * 10 ^ (-k : ℤ) ∧ ((ofInt a).mul (oneMinus d)).value =
      roundDigits precision (a * roundDigits precision m) * 10 ^ (-k : ℤ) := by
  obtain ⟨m, k, hround, hrest⟩ := exists_oneMinus hnonneg hle
  exact ⟨m, k, hrest, by rw [hround, value_ofInt_mul]⟩

theorem mul_oneMinus_nonneg (hnonneg : 0 ≤ d.value) (hle : d.value ≤ 1) (a : ℕ) :
    0 ≤ ((ofInt a).mul (oneMinus d)).value := by
  obtain ⟨m, k, -, hmul⟩ := exists_mul_oneMinus hnonneg hle a
  rw [hmul]
  exact mul_nonneg (Nat.cast_nonneg _) (zpow_nonneg (by norm_num) _)

/-- The product is off by a few parts in `10 ^ 28`. -/
theorem mul_oneMinus_near (hnonneg : 0 ≤ d.value) (hle : d.value ≤ 1) (a : ℕ) :
    |((ofInt a).mul (oneMinus d)).value - a * (1 - d.value)| ≤
      a * (1 - d.value) * (11 / 10 ^ precision) := by
  obtain ⟨m, k, hrest, hmul⟩ := exists_mul_oneMinus hnonneg hle a
  obtain ⟨hfactor, hfactor'⟩ := roundDigits_near 27 m
  obtain ⟨hproduct, hproduct'⟩ := roundDigits_near 27 (a * roundDigits precision m)
  rw [hrest, hmul, precision]
  rw [precision] at hproduct hproduct'
  generalize roundDigits 28 m = factor at hfactor hfactor' hproduct hproduct' ⊢
  generalize roundDigits 28 (a * factor) = product at hproduct hproduct' ⊢
  have hscaled := Nat.mul_le_mul_left a hfactor
  have hscaled' := Nat.mul_le_mul_left a hfactor'
  have habove : 10 ^ 28 * product ≤ (10 ^ 28 + 11) * (a * m) := by nlinarith
  have hbelow : 10 ^ 28 * (a * m) ≤ 10 ^ 28 * product + 11 * (a * m) := by nlinarith
  have habove' : (10 : ℚ) ^ 28 * product ≤ (10 ^ 28 + 11) * (a * m) := by exact_mod_cast habove
  have hbelow' : (10 : ℚ) ^ 28 * (a * m) ≤ 10 ^ 28 * product + 11 * (a * m) := by
    exact_mod_cast hbelow
  have hunit : (0 : ℚ) < 10 ^ (-k : ℤ) := zpow_pos (by norm_num) _
  rw [← mul_assoc (a : ℚ), ← sub_mul, abs_mul, abs_of_pos hunit, mul_right_comm _ _ (11 / 10 ^ 28 : ℚ)]
  refine mul_le_mul_of_nonneg_right ?_ hunit.le
  rw [abs_le]
  constructor <;> linarith

/-- The product is not above the amount, as 28 digits hold it. -/
theorem mul_oneMinus_le (hnonneg : 0 ≤ d.value) (hle : d.value ≤ 1) (a : ℕ) :
    ((ofInt a).mul (oneMinus d)).value ≤ roundDigits precision a := by
  obtain ⟨m, k, hrest, hmul⟩ := exists_mul_oneMinus hnonneg hle a
  have hunit : (0 : ℚ) < 10 ^ (-k : ℤ) := zpow_pos (by norm_num) _
  have hone : (10 ^ k : ℚ) * 10 ^ (-k : ℤ) = 1 := by
    rw [zpow_neg, zpow_natCast, mul_inv_cancel₀ (by positivity)]
  have hm : m ≤ 10 ^ k := by
    have hm' : (m : ℚ) * 10 ^ (-k : ℤ) ≤ 10 ^ k * 10 ^ (-k : ℤ) := by
      rw [← hrest, hone]
      linarith
    exact_mod_cast le_of_mul_le_mul_right hm' hunit
  have hfactor : roundDigits precision m ≤ 10 ^ k :=
    (roundDigits_mono hm).trans_eq (roundDigits_pow 27 k)
  have hproduct : roundDigits precision (a * roundDigits precision m) ≤
      roundDigits precision a * 10 ^ k := by
    rw [← roundDigits_mul_pow]
    exact roundDigits_mono (Nat.mul_le_mul_left a hfactor)
  have hproduct' : (roundDigits precision (a * roundDigits precision m) : ℚ) ≤
      roundDigits precision a * 10 ^ k := by exact_mod_cast hproduct
  rw [hmul]
  calc (roundDigits precision (a * roundDigits precision m) : ℚ) * 10 ^ (-k : ℤ)
      ≤ roundDigits precision a * 10 ^ k * 10 ^ (-k : ℤ) :=
        mul_le_mul_of_nonneg_right hproduct' hunit.le
    _ = roundDigits precision a := by rw [mul_assoc, hone, mul_one]

/-- **The product is exact where 28 digits hold the factor and the product.** -/
theorem mul_oneMinus_of_fits (hnonneg : 0 ≤ d.value) (hle : d.value ≤ 1) {a : ℕ}
    (hfactor : Fits (1 - d.value)) (hproduct : Fits (a * (1 - d.value))) :
    ((ofInt a).mul (oneMinus d)).value = a * (1 - d.value) := by
  obtain ⟨m, k, hrest, hmul⟩ := exists_mul_oneMinus hnonneg hle a
  have hassoc : (a : ℚ) * (m * 10 ^ (-k : ℤ)) = ((a * m : ℕ) : ℚ) * 10 ^ (-k : ℤ) := by
    push_cast
    rw [mul_assoc]
  rw [hrest] at hfactor hproduct ⊢
  rw [hassoc] at hproduct ⊢
  rw [hmul, fits_iff.1 hfactor, fits_iff.1 hproduct]

/-- Without a slippage the amount itself is rounded. -/
theorem mul_oneMinus_of_value_eq_zero (hd : d.value = 0) (a : ℕ) :
    ((ofInt a).mul (oneMinus d)).value = roundDigits precision a := by
  obtain ⟨m, k, hrest, hmul⟩ := exists_mul_oneMinus hd.ge (hd.trans_le zero_le_one) a
  have hm : m = 10 ^ k := by
    have hm' : (1 : ℚ) * 10 ^ k = m := by
      rw [← sub_zero 1, ← hd, hrest, zpow_neg, zpow_natCast, mul_assoc,
        inv_mul_cancel₀ (by positivity), mul_one]
    exact_mod_cast hm'.symm.trans (one_mul _)
  have hfactor : roundDigits precision (10 ^ k) = 10 ^ k := roundDigits_pow 27 k
  rw [hmul, hm, hfactor, roundDigits_mul_pow, zpow_neg, zpow_natCast]
  push_cast
  rw [mul_assoc, mul_inv_cancel₀ (by positivity), mul_one]

end Decimal

/-! ## Rounding down -/

theorem floor_eq_floor_iff {x y : ℚ} : ⌊x⌋ = ⌊y⌋ ↔ ∀ n : ℤ, (n : ℚ) ≤ x ↔ (n : ℚ) ≤ y := by
  simp only [← Int.le_floor]
  exact ⟨fun h n => by rw [h], fun h => le_antisymm ((h _).1 le_rfl) ((h _).2 le_rfl)⟩

section

attribute [local irreducible] unitsPerOne

/-- A number from zero up to one is a count of units; only zero has a sign. -/
theorem Binary64.exists_units_lt {x : Binary64} (hnonneg : (Binary64.zero false).le x = true)
    (hlt : x.lt .one = true) :
    ∃ negative units hunits, x = .finite negative units hunits ∧ (negative = true → units = 0) ∧
      units < unitsPerOne := by
  rw [Binary64.one_eq] at hlt
  rcases Binary64.cases_of_nonneg hnonneg with rfl | ⟨negative, units, hunits, rfl, hsign⟩
  · cases hlt
  · exact ⟨negative, units, hunits, rfl, hsign, (Binary64.finite_lt_iff hsign).1 hlt⟩

/-- A slippage that is accepted shows as a decimal from zero up to one. -/
theorem exists_toDecimal? {x : Binary64} (hnonneg : (Binary64.zero false).le x = true)
    (hlt : x.lt .one = true) :
    ∃ d, x.toDecimal? = some d ∧ 0 ≤ d.value ∧ d.value < 1 ∧ (x.isZero = true → d.value = 0) := by
  obtain ⟨negative, units, hunits, rfl, -, hone⟩ := Binary64.exists_units_lt hnonneg hlt
  obtain ⟨hlow, hhigh⟩ := Decimal.value_ofShortest_bounds hunits hone
  refine ⟨.ofShortest units, rfl, hlow, hhigh, fun hzero => ?_⟩
  obtain rfl : units = 0 := by simpa [Binary64.isZero] using hzero
  exact Decimal.value_ofShortest_zero

end

/-- The least amount for an amount of 256 bits has as many bits itself: the greatest of these amounts
is rounded down when 28 digits are kept. -/
theorem leastAmount_range {amount : ℕ} {slippage : Option Slippage} {least : ℤ}
    (hamount : amount < Nat.pow 2 256) (h : leastAmount amount slippage = .ok least) :
    0 ≤ least ∧ least < (Nat.pow 2 256 : ℕ) := by
  cases slippage with
  | none =>
    cases h
    exact ⟨Int.natCast_nonneg amount, Int.ofNat_lt.2 hamount⟩
  | some s =>
    rw [leastAmount] at h
    split at h
    next haccepted =>
      obtain ⟨hnonneg, hlt⟩ := Bool.and_eq_true_iff.1 haccepted
      obtain ⟨d, hd, hlow, hhigh, -⟩ := exists_toDecimal? hnonneg hlt
      rw [hd] at h
      cases h
      rw [Decimal.floor_eq]
      refine ⟨Int.floor_nonneg.2 (Decimal.mul_oneMinus_nonneg hlow hhigh.le amount), ?_⟩
      have hle := Int.floor_mono (Decimal.mul_oneMinus_le hlow hhigh.le amount)
      rw [Int.floor_natCast] at hle
      have hround : Decimal.roundDigits Decimal.precision amount ≤
          Decimal.roundDigits Decimal.precision (Nat.pow 2 256 - 1) :=
        Decimal.roundDigits_mono (Nat.le_sub_one_of_lt hamount)
      have hgreatest : Decimal.roundDigits Decimal.precision (Nat.pow 2 256 - 1) < Nat.pow 2 256 := by
        decide
      exact hle.trans_lt (Int.ofNat_lt.2 (hround.trans_lt hgreatest))
    next => cases h

/-- **What a slippage leaves of an amount.**  Every slippage from zero up to one is accepted, and the
result is the exact amount that is left, rounded down, unless a whole number lies between it and the
product that is computed with 28 digits.  The product is off by a few parts in `10 ^ 28`, and it is
exact where 28 digits hold the factor and the product; the result is not above the amount if they
hold that, and no slippage leaves just the amounts that they hold. -/
theorem leastAmount_of_slippage (amount : ℕ) {s : Slippage}
    (hnonneg : (Binary64.zero false).le s.value = true) (hlt : s.value.lt .one = true) :
    ∃ (d : Decimal) (product : ℚ) (least : ℤ),
      s.value.toDecimal? = some d ∧ 0 ≤ d.value ∧ d.value < 1 ∧
      ((Decimal.ofInt amount).mul (.oneMinus d)).value = product ∧
      leastAmount amount (some s) = .ok least ∧ 0 ≤ least ∧
      (least = ⌊amount * (1 - d.value)⌋ ↔
        ∀ n : ℤ, (n : ℚ) ≤ product ↔ (n : ℚ) ≤ amount * (1 - d.value)) ∧
      |product - amount * (1 - d.value)| ≤
        amount * (1 - d.value) * (11 / 10 ^ Decimal.precision) ∧
      (Decimal.Fits (1 - d.value) → Decimal.Fits (amount * (1 - d.value)) →
        least = ⌊amount * (1 - d.value)⌋) ∧
      (Decimal.Fits amount → least ≤ amount) ∧
      (s.value.isZero = true → (least = amount ↔ Decimal.Fits amount)) := by
  obtain ⟨d, hd, hlow, hhigh, hzero⟩ := exists_toDecimal? hnonneg hlt
  have hfits : Decimal.Fits amount ↔ Decimal.roundDigits Decimal.precision amount = amount := by
    have h := @Decimal.fits_iff amount 0
    rwa [zpow_zero, mul_one] at h
  have hleast : leastAmount amount (some s) =
      .ok ⌊((Decimal.ofInt amount).mul (.oneMinus d)).value⌋ := by
    rw [leastAmount, hnonneg, hlt, hd, ← Decimal.floor_eq]
    rfl
  refine ⟨d, _, _, hd, hlow, hhigh, rfl, hleast,
    Int.floor_nonneg.2 (Decimal.mul_oneMinus_nonneg hlow hhigh.le amount), floor_eq_floor_iff,
    Decimal.mul_oneMinus_near hlow hhigh.le amount, fun hfactor hproduct => ?exact,
    fun hamount => ?le, fun hnone => ?zero⟩
  case exact => rw [Decimal.mul_oneMinus_of_fits hlow hhigh.le hfactor hproduct]
  case le =>
    have hle := Int.floor_mono (Decimal.mul_oneMinus_le hlow hhigh.le amount)
    rwa [hfits.1 hamount, Int.floor_natCast] at hle
  case zero =>
    rw [Decimal.mul_oneMinus_of_value_eq_zero (hzero hnone), Int.floor_natCast, hfits]
    exact Int.natCast_inj

namespace Sample

/-- One part in two hundred. -/
def halfPercent : Slippage := ⟨.ofUnits false unitsPerOne 200, "0.005"⟩

theorem toDecimal?_halfPercent : halfPercent.value.toDecimal? = some ⟨5, -3⟩ := by decide +kernel

/-- A slippage of one part in two hundred leaves 199 parts of any amount with few digits. -/
theorem leastAmount_halfPercent :
    leastAmount (10 ^ 30 : ℕ) (some halfPercent) = .ok (995 * 10 ^ 27) := by
  obtain ⟨d, product, least, hd, -, -, -, hleast, -, -, -, hexact, -⟩ :=
    leastAmount_of_slippage (10 ^ 30) (s := halfPercent) (by decide +kernel) (by decide +kernel)
  obtain rfl : (⟨5, -3⟩ : Decimal) = d := Option.some.inj (toDecimal?_halfPercent.symm.trans hd)
  have hrest : 1 - (⟨5, -3⟩ : Decimal).value = 995 * 10 ^ (-3 : ℤ) := by
    rw [Decimal.value]
    norm_num
  have hleft : ((10 ^ 30 : ℕ) : ℚ) * (1 - (⟨5, -3⟩ : Decimal).value) = 995 * 10 ^ (27 : ℤ) := by
    rw [hrest]
    norm_num
  rw [hleast, hexact ⟨995, by decide, -3, hrest⟩ ⟨995, by decide, 27, hleft⟩, hleft]
  norm_num

/-- No slippage. -/
def noSlippage : Slippage := ⟨.zero false, "0.0"⟩

/-- The greatest number of 29 digits. -/
def nines : ℕ := 10 ^ 29 - 1

/-- **Without a slippage more than the amount may be left**: 28 digits round it up. -/
theorem lt_leastAmount_nines :
    ∃ d least, noSlippage.value.toDecimal? = some d ∧
      leastAmount nines (some noSlippage) = .ok least ∧ least ≠ ⌊nines * (1 - d.value)⌋ ∧
      (nines : ℤ) < least := by
  have hleast : (leastAmount nines (some noSlippage)).toOption = some (10 ^ 29) := by
    decide +kernel
  have hnone : (⟨0, 0⟩ : Decimal).value = 0 := by
    rw [Decimal.value]
    norm_num
  have hlt : (nines : ℤ) < 10 ^ 29 := by decide
  refine ⟨⟨0, 0⟩, 10 ^ 29, by decide, eq_ok_of_toOption_eq_some hleast, ?_, hlt⟩
  rw [hnone, sub_zero, mul_one, Int.floor_natCast]
  exact hlt.ne'

end Sample

end SwapRouter
