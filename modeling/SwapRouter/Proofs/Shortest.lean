import Mathlib.Tactic.FieldSimp
import Mathlib.Tactic.LinearCombination
import Mathlib.Tactic.Positivity
import SwapRouter.Proofs.Decimal

/-!
# The shortest decimal lies in its basin

The shortest decimal of a number is looked for on the grids of one digit, of two, and so on, and it is
the neighbour of the number on the first grid that has one in the basin of the number.  Seventeen
digits always suffice: two neighbours on that grid are nearer to each other than the ends of the basin,
so that one of the two neighbours of the number lies in it.  The grid depends on where the decimal
point of the number is found to be, and the search for it runs over all points of the format.

The basins of two numbers meet in one point, at most, so the shortest decimals are in the order of the
numbers.

* `Binary64.reached_decimalPoint`: the power of ten below the decimal point is not above the number.
* `Binary64.isSome_nearestOnGrid?`: seventeen digits suffice.
* `Decimal.value_ofShortest`: **the shortest decimal of a number lies in its basin.**
* `Binary64.greatest_le_least`, `Decimal.value_ofShortest_mono`: **basins do not overlap, and the
  shortest decimals keep the order.**
-/

namespace SwapRouter

namespace Binary64

variable {units steps m n : ℕ} {k point : ℤ} {b : Basin}

-- The number of units is too large to be computed with while terms are elaborated.
attribute [local irreducible] unitsPerOne

/-! ## The decimal point -/

/-- The power of ten below a decimal point is not above a number. -/
def Reached (units : ℕ) (k : ℤ) : Prop :=
  if 1 ≤ k then Nat.pow 10 (k - 1).toNat * unitsPerOne ≤ units
  else unitsPerOne ≤ units * Nat.pow 10 (1 - k).toNat

instance (units : ℕ) (k : ℤ) : Decidable (Reached units k) :=
  inferInstanceAs (Decidable (if 1 ≤ k then _ else _))

theorem decimalPoint_succ (units steps : ℕ) (k : ℤ) :
    decimalPoint units (steps + 1) k =
      if Reached units k then k else decimalPoint units steps (k - 1) := rfl

-- Nor is the search for a decimal point run while terms are elaborated.
attribute [local irreducible] decimalPoint

/-- The search ends at a point that is reached, if there is one on its way. -/
theorem reached_decimalPoint_of_lt {j : ℕ} (hj : j < steps) (h : Reached units (k - j)) :
    Reached units (decimalPoint units steps k) := by
  induction steps generalizing k j with
  | zero => exact absurd hj (Nat.not_lt_zero j)
  | succ steps ih =>
    rw [decimalPoint_succ]
    split
    next hreached => exact hreached
    next hreached =>
      obtain _ | j := j
      · rw [Int.natCast_zero, Int.sub_zero] at h
        exact absurd h hreached
      · refine ih (Nat.lt_of_succ_lt_succ hj) ?_
        rwa [Int.natCast_succ, Int.add_comm, ← Int.sub_sub] at h

theorem reached_neg (hunits : 0 < units) {m : ℕ} (h : unitsPerOne ≤ Nat.pow 10 (m + 1)) :
    Reached units (-m) := by
  have hexp : (1 - -(m : ℤ)).toNat = m + 1 := by omega
  rw [Reached, if_neg (by omega), hexp]
  exact h.trans (Nat.le_mul_of_pos_left _ hunits)

/-- **The power of ten below the decimal point is not above the number.** -/
theorem reached_decimalPoint (hunits : 0 < units) : Reached units (decimalPoint units 640 310) := by
  -- no power of ten is needed below that of the least positive number
  have hplace : (310 : ℤ) - ((633 : ℕ) : ℤ) = -((323 : ℕ) : ℤ) := by decide
  refine reached_decimalPoint_of_lt (j := 633) (by decide) ?_
  rw [hplace]
  exact reached_neg hunits (by decide +kernel)

/-! ## Grids -/

theorem Basin.holds_of_lt {num den : ℕ} (hleast : b.least * den < num)
    (hgreatest : num < b.greatest * den) : b.holds num den = true := by
  rw [Basin.holds]
  split
  · simp [hleast.le, hgreatest.le]
  · simp [hleast, hgreatest]

theorem Basin.le_of_holds {num den : ℕ} (h : b.holds num den = true) :
    b.least * den ≤ num ∧ num ≤ b.greatest * den := by
  rw [Basin.holds] at h
  split at h
  · simpa using h
  · have hlt : b.least * den < num ∧ num < b.greatest * den := by simpa using h
    exact ⟨hlt.1.le, hlt.2.le⟩

/-- Of the two neighbours of a number on a grid that is finer than its basin, one lies in the
basin. -/
theorem Basin.holds_or_holds {step den q : ℕ} (hbelow : q * step ≤ b.center * den)
    (habove : b.center * den < (q + 1) * step) (hden : 0 < den) (hleast : b.least < b.center)
    (hgreatest : b.center < b.greatest) (hwidth : b.least * den + step < b.greatest * den) :
    b.holds (q * step) den = true ∨ b.holds ((q + 1) * step) den = true := by
  have hlow := Nat.mul_lt_mul_of_pos_right hleast hden
  have hhigh := Nat.mul_lt_mul_of_pos_right hgreatest hden
  rw [Nat.succ_mul] at habove ⊢
  by_cases hq : b.least * den < q * step ∧ q * step < b.greatest * den
  · exact Or.inl (holds_of_lt hq.1 hq.2)
  · exact Or.inr (holds_of_lt (by omega) (by omega))

/-- The length of a step on a grid, in quarters of a unit, over a power of ten. -/
def gridStep (scale : ℤ) : ℕ := Nat.pow 10 scale.toNat * 4 * unitsPerOne

/-- The power of ten under the length of a step. -/
def gridDown (scale : ℤ) : ℕ := Nat.pow 10 (-scale).toNat

theorem gridStep_pos (scale : ℤ) : 0 < gridStep scale := by
  rw [gridStep]
  exact Nat.mul_pos (Nat.mul_pos (Nat.pow_pos (by decide)) (by decide)) unitsPerOne_pos

theorem gridDown_pos (scale : ℤ) : 0 < gridDown scale := Nat.pow_pos (by decide)

theorem nearestOnGrid?_eq (b : Basin) (point : ℤ) (n : ℕ) :
    nearestOnGrid? b point n =
      let step := gridStep (point - n)
      let down := gridDown (point - n)
      let below := b.center * down / step
      match b.holds (below * step) down && below ≠ 0, b.holds ((below + 1) * step) down with
      | true, true =>
        let toBelow := b.center * down - below * step
        let toAbove := (below + 1) * step - b.center * down
        if toBelow < toAbove || (toBelow = toAbove && below % 2 = 0) then some below
        else some (below + 1)
      | true, false => some below
      | false, true => some (below + 1)
      | false, false => none := by
  have hgrid (d : ℕ) : d * Nat.pow 10 (point - n).toNat * 4 * unitsPerOne =
      d * gridStep (point - n) := by
    rw [gridStep]
    ring
  rw [nearestOnGrid?]
  simp only [hgrid]
  rfl

/-- A hit on a grid lies in the basin. -/
theorem holds_of_nearestOnGrid? {digits : ℕ} (h : nearestOnGrid? b point n = some digits) :
    b.holds (digits * gridStep (point - n)) (gridDown (point - n)) = true := by
  rw [nearestOnGrid?_eq] at h
  dsimp only at h
  split at h
  next hbelow habove =>
    split at h
    · cases h
      exact (Bool.and_eq_true _ _ ▸ hbelow).1
    · cases h
      exact habove
  next hbelow _ =>
    cases h
    exact (Bool.and_eq_true _ _ ▸ hbelow).1
  next _ habove =>
    cases h
    exact habove
  next => cases h

/-- A grid that is finer than the basin has a hit, if the number is not below its first step. -/
theorem isSome_of_width (hfirst : gridStep (point - n) ≤ b.center * gridDown (point - n))
    (hleast : b.least < b.center) (hgreatest : b.center < b.greatest)
    (hwidth : b.least * gridDown (point - n) + gridStep (point - n) <
      b.greatest * gridDown (point - n)) : (nearestOnGrid? b point n).isSome = true := by
  have hstep := gridStep_pos (point - n)
  have hbelow := Nat.div_mul_le_self (b.center * gridDown (point - n)) (gridStep (point - n))
  have habove : b.center * gridDown (point - n) <
      (b.center * gridDown (point - n) / gridStep (point - n) + 1) * gridStep (point - n) :=
    Nat.lt_mul_of_div_lt (Nat.lt_succ_self _) hstep
  have hne : b.center * gridDown (point - n) / gridStep (point - n) ≠ 0 :=
    (Nat.div_pos hfirst hstep).ne'
  have hholds := Basin.holds_or_holds hbelow habove (gridDown_pos _) hleast hgreatest hwidth
  rw [nearestOnGrid?_eq]
  dsimp only
  split
  · split <;> rfl
  · rfl
  · rfl
  next hno hno' =>
    rw [hno'] at hholds
    rcases hholds with hholds | hholds
    · rw [hholds, Bool.true_and, decide_eq_false_iff_not] at hno
      exact absurd hne hno
    · exact absurd hholds Bool.false_ne_true

/-- The search over grids ends with a hit, if one of them has one. -/
theorem exists_firstGrid {i : ℕ} (hi : i < steps)
    (h : (nearestOnGrid? b point (n + i)).isSome = true) :
    ∃ (m digits : ℕ), firstGrid b point steps n = (digits, point - m) ∧
      nearestOnGrid? b point m = some digits := by
  induction steps generalizing n i with
  | zero => exact absurd hi (Nat.not_lt_zero i)
  | succ steps ih =>
    rw [firstGrid]
    cases hgrid : nearestOnGrid? b point n with
    | some digits => exact ⟨n, digits, rfl, hgrid⟩
    | none =>
      obtain _ | i := i
      · rw [Nat.add_zero, hgrid] at h
        cases h
      · refine ih (Nat.lt_of_succ_lt_succ hi) ?_
        rwa [Nat.add_assoc, Nat.add_comm 1]

/-! ## Basins -/

theorem lt_pow_surplusBits (n : ℕ) : n < 2 ^ 53 * Nat.pow 2 (surplusBits n) := by
  rw [Nat.pow_eq, ← pow_add]
  refine Nat.lt_log2_self.trans_le (Nat.pow_le_pow_right Nat.two_pos ?_)
  rw [surplusBits]
  omega

/-- A number with a surplus fills its 53 bits. -/
theorem pow_surplusBits_le (h : 0 < surplusBits n) :
    2 ^ 52 * Nat.pow 2 (surplusBits n) ≤ n := by
  have hne : n ≠ 0 := by
    rintro rfl
    exact absurd h (by decide)
  rw [Nat.pow_eq, ← pow_add]
  refine (Nat.pow_le_pow_right Nat.two_pos ?_).trans (Nat.log2_self_le hne)
  rw [surplusBits] at h ⊢
  omega

/-- **The basins of two numbers do not overlap.**  If the greater one has a wider spacing, the smaller
one lies below the power of two from which that spacing starts, and where the greater one is this
power, its basin reaches down half as far. -/
theorem greatest_le_least (hm : IsMagnitude m) (hn : IsMagnitude n) (h : m < n) :
    (basin m).greatest ≤ (basin n).least := by
  have hgap := add_le_of_lt hm hn h
  rw [basin, basin]
  dsimp only
  rcases (surplusBits_mono h.le).lt_or_eq with hlt | heq
  · have hdouble : 2 * Nat.pow 2 (surplusBits m) ≤ Nat.pow 2 (surplusBits n) := by
      rw [Nat.pow_eq, Nat.pow_eq, ← pow_succ']
      exact Nat.pow_le_pow_right Nat.two_pos hlt
    have hfull := pow_surplusBits_le (Nat.zero_lt_of_lt hlt)
    have htop := lt_pow_surplusBits m
    have hplace : 0 < Nat.pow 2 (surplusBits n) := Nat.pow_pos Nat.two_pos
    obtain ⟨q, hq⟩ := Nat.dvd_of_mod_eq_zero hm.2
    obtain ⟨r, hr⟩ := Nat.dvd_of_mod_eq_zero hn.2
    have hquotient : n / Nat.pow 2 (surplusBits n) = r := Nat.div_eq_of_eq_mul_right hplace hr
    rw [hquotient]
    simp only [Nat.ne_of_gt (Nat.zero_lt_of_lt hlt), ne_eq, not_false_eq_true, decide_true,
      Bool.and_true, decide_eq_true_eq]
    generalize Nat.pow 2 (surplusBits m) = small at hq hdouble htop ⊢
    generalize Nat.pow 2 (surplusBits n) = large at hr hdouble hfull hplace ⊢
    have hbelow : m + small ≤ 2 ^ 53 * small := by
      have hlt : q < 2 ^ 53 := by
        rw [hq, Nat.mul_comm] at htop
        exact Nat.lt_of_mul_lt_mul_right htop
      calc m + small = small * (q + 1) := by rw [hq, Nat.mul_add, Nat.mul_one]
        _ ≤ small * 2 ^ 53 := Nat.mul_le_mul_left small hlt
        _ = 2 ^ 53 * small := Nat.mul_comm _ _
    split
    next htwo =>
      rw [hr, htwo, Nat.pow_eq]
      omega
    next htwo =>
      have hr' : 2 ^ 52 < r := by
        refine lt_of_le_of_ne (Nat.le_of_mul_le_mul_left ?_ hplace) (Ne.symm htwo)
        rwa [← hr, Nat.mul_comm]
      have habove : large * (2 ^ 52 + 1) ≤ n := hr ▸ Nat.mul_le_mul_left large hr'
      omega
  · rw [heq] at hgap ⊢
    split <;> omega

/-! ## Seventeen digits -/

/-- A basin is wider than the seventeenth digit of its number, which lies inside. -/
theorem basin_wide (hunits : 0 < units) :
    (basin units).least < (basin units).center ∧ (basin units).center < (basin units).greatest ∧
      (basin units).least * 10 ^ 16 + (basin units).center < (basin units).greatest * 10 ^ 16 := by
  have hplace : 0 < Nat.pow 2 (surplusBits units) := Nat.pow_pos Nat.two_pos
  have hle : Nat.pow 2 (surplusBits units) ≤ units :=
    (Nat.pow_le_pow_right Nat.two_pos (Nat.sub_le _ _)).trans (Nat.log2_self_le hunits.ne')
  have hlt := lt_pow_surplusBits units
  rw [basin]
  dsimp only
  generalize Nat.pow 2 (surplusBits units) = spacing at hplace hle hlt ⊢
  split
  next htwo =>
    have hquotient : units / spacing = Nat.pow 2 52 := by
      simp only [Bool.and_eq_true, decide_eq_true_eq] at htwo
      exact htwo.1
    have hlow : units < (2 ^ 52 + 1) * spacing :=
      Nat.lt_mul_of_div_lt (by rw [hquotient]; exact Nat.lt_succ_self _) hplace
    omega
  next => omega

/-- A decimal point that is reached, with the powers of ten on either side. -/
theorem Reached.exists_pow (h : Reached units point) :
    ∃ x y : ℕ, (x : ℤ) - y = point - 1 ∧ 10 ^ x * unitsPerOne ≤ units * 10 ^ y := by
  rw [Reached, Nat.pow_eq, Nat.pow_eq] at h
  split at h
  · exact ⟨(point - 1).toNat, 0, by omega, by simpa using h⟩
  · exact ⟨0, (1 - point).toNat, by omega, by simpa using h⟩

/-- A step on the grid of seventeen digits is short beside the number. -/
theorem gridStep_le (h : Reached units point) :
    gridStep (point - (17 : ℕ)) * 10 ^ 16 ≤ (basin units).center * gridDown (point - (17 : ℕ)) := by
  obtain ⟨x, y, hplace, hpow⟩ := h.exists_pow
  have hcenter : (basin units).center = 4 * units := rfl
  rw [hcenter, gridStep, gridDown, Nat.pow_eq, Nat.pow_eq]
  generalize ha : (point - (17 : ℕ)).toNat = a
  generalize hc : (-(point - (17 : ℕ))).toNat = c
  have hexp : a + 16 + y = x + c := by omega
  -- both sides are multiplied by the power of ten that stands on the side of the number
  refine Nat.le_of_mul_le_mul_right (c := 10 ^ y) ?_ (by positivity)
  calc 10 ^ a * 4 * unitsPerOne * 10 ^ 16 * 10 ^ y
      = 4 * (10 ^ (a + 16 + y) * unitsPerOne) := by ring
    _ = 4 * (10 ^ x * unitsPerOne) * 10 ^ c := by rw [hexp]; ring
    _ ≤ 4 * (units * 10 ^ y) * 10 ^ c := by gcongr
    _ = 4 * units * 10 ^ c * 10 ^ y := by ring

/-- **Seventeen digits suffice.** -/
theorem isSome_nearestOnGrid? (hunits : 0 < units) (h : Reached units point) :
    (nearestOnGrid? (basin units) point 17).isSome = true := by
  obtain ⟨hleast, hgreatest, hwide⟩ := basin_wide hunits
  have hstep := gridStep_le h
  have hdown := gridDown_pos (point - (17 : ℕ))
  refine isSome_of_width (by omega) hleast hgreatest ?_
  generalize gridDown (point - (17 : ℕ)) = down at hstep hdown ⊢
  have hscaled := Nat.mul_lt_mul_of_pos_right hwide hdown
  refine Nat.lt_of_mul_lt_mul_right (a := 10 ^ 16) ?_
  rw [Nat.add_mul] at hscaled ⊢
  nlinarith

/-! ## The decimal -/

/-- The length of a step on a grid is a power of ten. -/
theorem gridStep_eq (scale : ℤ) :
    (gridStep scale : ℚ) = 10 ^ scale * (4 * unitsPerOne) * gridDown scale := by
  rw [gridStep, gridDown, Nat.pow_eq, Nat.pow_eq]
  push_cast
  rcases le_total 0 scale with hscale | hscale
  · obtain ⟨k, rfl⟩ := Int.eq_ofNat_of_zero_le hscale
    have hneg : (-(k : ℤ)).toNat = 0 := by omega
    rw [hneg, Int.toNat_natCast, zpow_natCast]
    ring
  · obtain ⟨k, hk⟩ := Int.eq_ofNat_of_zero_le (by omega : 0 ≤ -scale)
    obtain rfl : scale = -(k : ℤ) := by omega
    have hneg : (-(k : ℤ)).toNat = 0 := by omega
    have hpow : (10 : ℚ) ^ k ≠ 0 := by positivity
    rw [hneg, neg_neg, Int.toNat_natCast, zpow_neg, zpow_natCast]
    field_simp

theorem value_dropZeros (digits : ℕ) (scale : ℤ) :
    (Decimal.mk (dropZeros steps digits scale).1 (dropZeros steps digits scale).2).value =
      (Decimal.mk digits scale).value := by
  induction steps generalizing digits scale with
  | zero => rfl
  | succ steps ih =>
    rw [dropZeros]
    split
    next hzero =>
      simp only [Bool.and_eq_true, decide_eq_true_eq] at hzero
      have hten : ((digits / 10 : ℕ) : ℚ) * 10 = digits := by
        exact_mod_cast Nat.div_mul_cancel (Nat.dvd_of_mod_eq_zero hzero.2)
      rw [ih, Decimal.value, Decimal.value, zpow_add_one₀ (by norm_num), Int.cast_natCast,
        Int.cast_natCast]
      linear_combination (10 : ℚ) ^ scale * hten
    next => exact rfl

end Binary64

namespace Decimal

open Binary64

attribute [local irreducible] unitsPerOne decimalPoint

variable {m n : ℕ}

theorem value_ofShortest_eq {units : ℕ} {grid : ℕ × ℤ} (hunits : 0 < units)
    (h : firstGrid (basin units) (decimalPoint units 640 310) 17 1 = grid) :
    (ofShortest units).value = (Decimal.mk grid.1 grid.2).value := by
  rw [ofShortest, shortest, if_neg hunits.ne']
  dsimp only
  rw [h]
  exact value_dropZeros grid.1 grid.2

/-- **The shortest decimal of a number lies in its basin.** -/
theorem value_ofShortest {units : ℕ} (hunits : 0 < units) :
    ((basin units).least : ℚ) ≤ (ofShortest units).value * (4 * unitsPerOne) ∧
      (ofShortest units).value * (4 * unitsPerOne) ≤ (basin units).greatest := by
  have hreached := reached_decimalPoint hunits
  have hvalue := @value_ofShortest_eq units
  generalize decimalPoint units 640 310 = point at hreached hvalue
  have hlast := isSome_nearestOnGrid? hunits hreached
  obtain ⟨m, digits, hgrid, hhit⟩ := exists_firstGrid (n := 1) (by decide : 16 < 17) hlast
  obtain ⟨hleast, hgreatest⟩ := Basin.le_of_holds (holds_of_nearestOnGrid? hhit)
  rw [hvalue hunits hgrid, value]
  have hdown : (0 : ℚ) < gridDown (point - m) := by exact_mod_cast gridDown_pos _
  have hstep := gridStep_eq (point - m)
  have hleast' : ((basin units).least : ℚ) * gridDown (point - m) ≤
      digits * gridStep (point - m) := by exact_mod_cast hleast
  have hgreatest' : (digits : ℚ) * gridStep (point - m) ≤
      (basin units).greatest * gridDown (point - m) := by exact_mod_cast hgreatest
  rw [hstep] at hleast' hgreatest'
  rw [Int.cast_natCast]
  constructor
  · refine le_of_mul_le_mul_right (hleast'.trans_eq ?_) hdown
    ring
  · refine le_of_mul_le_mul_right (le_of_eq_of_le ?_ hgreatest') hdown
    ring

/-! ## The order of the decimals -/

theorem quarters_pos : (0 : ℚ) < 4 * unitsPerOne := by
  exact_mod_cast Nat.mul_pos (by decide : 0 < 4) unitsPerOne_pos

theorem value_ofShortest_zero : (ofShortest 0).value = 0 := by
  rw [ofShortest, shortest, if_pos rfl, value]
  norm_num

theorem value_ofShortest_nonneg (n : ℕ) : 0 ≤ (ofShortest n).value := by
  rcases Nat.eq_zero_or_pos n with rfl | hpos
  · exact value_ofShortest_zero.ge
  · exact nonneg_of_mul_nonneg_left ((Nat.cast_nonneg _).trans (value_ofShortest hpos).1) quarters_pos

/-- **The shortest decimals of two numbers are in the order of the numbers.** -/
theorem value_ofShortest_mono (hm : IsMagnitude m) (hn : IsMagnitude n) (h : m ≤ n) :
    (ofShortest m).value ≤ (ofShortest n).value := by
  rcases Nat.eq_zero_or_pos m with rfl | hpos
  · rw [value_ofShortest_zero]
    exact value_ofShortest_nonneg n
  rcases h.eq_or_lt with rfl | hlt
  · exact le_rfl
  have hbasins : ((basin m).greatest : ℚ) ≤ (basin n).least := by
    exact_mod_cast greatest_le_least hm hn hlt
  refine le_of_mul_le_mul_right ?_ quarters_pos
  calc (ofShortest m).value * (4 * unitsPerOne) ≤ (basin m).greatest := (value_ofShortest hpos).2
    _ ≤ (basin n).least := hbasins
    _ ≤ (ofShortest n).value * (4 * unitsPerOne) := (value_ofShortest (hpos.trans hlt)).1

end Decimal

end SwapRouter
