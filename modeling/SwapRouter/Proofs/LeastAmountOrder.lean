import SwapRouter.Proofs.Abi.Size
import SwapRouter.Proofs.LeastAmount

/-!
# The order of the amounts that slippages leave

A least amount is rounded three times on its way, and the first two roundings keep a number of digits,
not a number of decimals: how far they are off depends on the number.  Still no rounding brings two
numbers out of their order, so it is enough to see that each step of the way keeps it.

A greater slippage shows as a decimal that is not smaller, because the basins of two numbers do not
overlap.  What it leaves of one is then not greater.  The products with two amounts are counted in
different powers of ten, and on a common one a rounding is the same as before (`roundDigits_mul_pow`).

The greatest amount of 256 bits has 78 digits, and the first 28 of them are rounded down.  So no result
has more than 256 bits.

* `Decimal.mul_oneMinus_mono`: the product keeps the order of the amounts and turns around that of the
  slippages.
* `leastAmount_keepsOrder`: **a greater amount leaves no less, a greater slippage no more, and every
  result is encoded as a number of 256 bits.**
-/

namespace SwapRouter

namespace Binary64

variable {m n : ℕ} {a b : Bool} {hm : IsMagnitude m} {hn : IsMagnitude n}

/-- Numbers of which only zero has a sign are in the order of their units. -/
theorem finite_le_iff (ha : a = true → m = 0) (hb : b = true → n = 0) :
    (finite a m hm).le (finite b n hn) = true ↔ m ≤ n := by
  have hunits : ∀ {c : Bool} {k : ℕ}, (c = true → k = 0) → (if c then -(k : ℤ) else k) = k := by
    intro c k hc
    cases c with
    | false => rfl
    | true => rw [hc rfl]; rfl
  rw [le, lt, hunits ha, hunits hb]
  simp [isNan]

end Binary64

namespace Decimal

variable {d d' : Decimal} {a b : ℕ}

/-- Numbers that are counted in different parts of one, on a common count. -/
theorem natCast_mul_zpow_le_iff {m n i j : ℕ} :
    (m : ℚ) * 10 ^ (-i : ℤ) ≤ n * 10 ^ (-j : ℤ) ↔ m * 10 ^ j ≤ n * 10 ^ i := by
  rw [zpow_neg, zpow_neg, zpow_natCast, zpow_natCast, ← div_eq_mul_inv, ← div_eq_mul_inv,
    div_le_div_iff₀ (by positivity) (by positivity)]
  exact_mod_cast Iff.rfl

/-- **The product keeps the order of the amounts, and turns that of the decimals around.** -/
theorem mul_oneMinus_mono (hnonneg : 0 ≤ d.value) (hle : d.value ≤ d'.value) (hone : d'.value ≤ 1)
    (hab : a ≤ b) :
    ((ofInt a).mul (oneMinus d')).value ≤ ((ofInt b).mul (oneMinus d)).value := by
  obtain ⟨m, k, hrest, hmul⟩ := exists_mul_oneMinus hnonneg (hle.trans hone) b
  obtain ⟨m', k', hrest', hmul'⟩ := exists_mul_oneMinus (hnonneg.trans hle) hone a
  have hparts : m' * 10 ^ k ≤ m * 10 ^ k' := by
    rw [← natCast_mul_zpow_le_iff, ← hrest, ← hrest']
    exact sub_le_sub_left hle 1
  have hfactor := roundDigits_mul_pow_mono (p := 27) hparts
  have hproduct : a * roundDigits precision m' * 10 ^ k ≤ b * roundDigits precision m * 10 ^ k' := by
    rw [Nat.mul_assoc, Nat.mul_assoc]
    exact Nat.mul_le_mul hab hfactor
  rw [hmul, hmul', natCast_mul_zpow_le_iff]
  exact roundDigits_mul_pow_mono hproduct

end Decimal

/-- A slippage is at least zero and less than one. -/
structure Slippage.IsInRange (s : Slippage) : Prop where
  nonneg : (Binary64.zero false).le s.value = true
  lt_one : s.value.lt .one = true

/-- **Slippages show as decimals in their order.** -/
theorem Slippage.IsInRange.exists_toDecimal?_le {s t : Slippage} (hs : s.IsInRange)
    (ht : t.IsInRange) (hst : s.value.le t.value = true) :
    ∃ d d', s.value.toDecimal? = some d ∧ t.value.toDecimal? = some d' ∧ 0 ≤ d.value ∧
      d.value ≤ d'.value ∧ d'.value < 1 := by
  obtain ⟨a, m, hm, hsx, ha, -⟩ := Binary64.exists_units_lt hs.nonneg hs.lt_one
  obtain ⟨b, n, hn, htx, hb, hlt⟩ := Binary64.exists_units_lt ht.nonneg ht.lt_one
  rw [hsx, htx, Binary64.finite_le_iff ha hb] at hst
  exact ⟨.ofShortest m, .ofShortest n, by rw [hsx]; rfl, by rw [htx]; rfl,
    Decimal.value_ofShortest_nonneg m, Decimal.value_ofShortest_mono hm hn hst,
    (Decimal.value_ofShortest_bounds hn hlt).2⟩

/-- What a slippage in range leaves of an amount is a product, rounded down. -/
theorem leastAmount_eq_floor {s : Slippage} {d : Decimal} (hs : s.IsInRange)
    (hd : s.value.toDecimal? = some d) (amount : ℕ) :
    leastAmount amount (some s) = .ok ⌊((Decimal.ofInt amount).mul (.oneMinus d)).value⌋ := by
  rw [leastAmount, hs.nonneg, hs.lt_one, hd, ← Decimal.floor_eq]
  rfl

/-- A number has 256 bits, and it is encoded as such. -/
structure IsEncodedAmount (n : ℤ) : Prop where
  nonneg : 0 ≤ n
  lt : n < (Nat.pow 2 256 : ℕ)
  encoded : ∃ bytes, Abi.encode? (.uint 256) (.number n) = some bytes

/-- Whatever a slippage leaves of an amount of 256 bits is encoded. -/
theorem isEncodedAmount_of_leastAmount {amount : Uint256} {slippage : Option Slippage} {least : ℤ}
    (h : leastAmount amount.toNat slippage = .ok least) : IsEncodedAmount least := by
  obtain ⟨hnonneg, hlt⟩ := leastAmount_range amount.isLt h
  obtain ⟨bytes, hbytes, -⟩ := Abi.fits_uint hnonneg hlt
  exact ⟨hnonneg, hlt, bytes, hbytes⟩

/-- **A greater amount leaves no less, and a greater slippage no more.**  Of two amounts and two
slippages in range, each pair in its order, the first slippage leaves no less of the second amount than
of the first one, the second slippage leaves no more of the first amount than the first slippage does,
and all that is left is encoded as numbers of 256 bits. -/
theorem leastAmount_keepsOrder {a b : Uint256} {s t : Slippage} (hab : a.toNat ≤ b.toNat)
    (hs : s.IsInRange) (ht : t.IsInRange) (hst : s.value.le t.value = true) :
    ∃ least more less : ℤ, leastAmount a.toNat (some s) = .ok least ∧
      leastAmount b.toNat (some s) = .ok more ∧ leastAmount a.toNat (some t) = .ok less ∧
      least ≤ more ∧ less ≤ least ∧
      IsEncodedAmount least ∧ IsEncodedAmount more ∧ IsEncodedAmount less := by
  obtain ⟨d, d', hd, hd', hnonneg, hle, hlt⟩ := hs.exists_toDecimal?_le ht hst
  have hleast := leastAmount_eq_floor hs hd a.toNat
  have hmore := leastAmount_eq_floor hs hd b.toNat
  have hless := leastAmount_eq_floor ht hd' a.toNat
  refine ⟨_, _, _, hleast, hmore, hless, Int.floor_mono ?amounts, Int.floor_mono ?slippages,
    isEncodedAmount_of_leastAmount hleast, isEncodedAmount_of_leastAmount hmore,
    isEncodedAmount_of_leastAmount hless⟩
  case amounts => exact Decimal.mul_oneMinus_mono hnonneg le_rfl (hle.trans hlt.le) hab
  case slippages => exact Decimal.mul_oneMinus_mono hnonneg hle hlt.le le_rfl

namespace Sample

/-- The greatest number of 29 digits as an amount, and the next one. -/
def ninesAmount : Uint256 := ⟨nines, by decide +kernel⟩

def ninesSuccAmount : Uint256 := ⟨nines + 1, by decide +kernel⟩

/-- Two amounts of a different number of digits that are rounded to the same one, and a slippage. -/
theorem leastAmount_nines_keepsOrder :
    noSlippage.IsInRange ∧ halfPercent.IsInRange ∧
      ∃ least more less : ℤ, leastAmount ninesAmount.toNat (some noSlippage) = .ok least ∧
        leastAmount ninesSuccAmount.toNat (some noSlippage) = .ok more ∧
        leastAmount ninesAmount.toNat (some halfPercent) = .ok less ∧
        least ≤ more ∧ less ≤ least ∧
        IsEncodedAmount least ∧ IsEncodedAmount more ∧ IsEncodedAmount less := by
  have hnone : noSlippage.IsInRange := ⟨by decide +kernel, by decide +kernel⟩
  have hhalf : halfPercent.IsInRange := ⟨by decide +kernel, by decide +kernel⟩
  exact ⟨hnone, hhalf, leastAmount_keepsOrder (Nat.le_succ nines) hnone hhalf (by decide +kernel)⟩

end Sample

end SwapRouter
