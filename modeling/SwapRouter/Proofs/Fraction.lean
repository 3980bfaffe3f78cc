import Mathlib.Data.Nat.Log
import SwapRouter.Route.Split
import SwapRouter.Wire

/-!
# Fractions that are written as nothing

A fraction is written as the number of parts that is nearest to it, and no parts stand for the rest
of a token.  Rounding keeps the order of numbers, so it is enough to look at the two neighbours of
the format between which the parts go from none to one: a fraction is written as no parts up to the
number that is nearest to half of a part.

* `roundHalfEven_mono`, `Binary64.roundUnits_mono`: rounding keeps the order.
* `Wire.fractionParts_eq_zero_iff`: **the fractions that are written as no parts.**
-/

namespace SwapRouter

/-! ## Rounding keeps the order -/

/-- A quotient is rounded to itself or to the next number. -/
theorem roundHalfEven_bounds (num den : Nat) :
    num / den ≤ roundHalfEven num den ∧ roundHalfEven num den ≤ num / den + 1 := by
  rw [roundHalfEven]
  grind

theorem roundHalfEven_mono {m n : Nat} (h : m ≤ n) (den : Nat) :
    roundHalfEven m den ≤ roundHalfEven n den := by
  rcases (Nat.div_le_div_right h : m / den ≤ n / den).lt_or_eq with hlt | heq
  · calc roundHalfEven m den ≤ m / den + 1 := (roundHalfEven_bounds m den).2
      _ ≤ n / den := hlt
      _ ≤ roundHalfEven n den := (roundHalfEven_bounds n den).1
  · -- the quotients are the same, so the remainders decide
    have hm := Nat.div_add_mod m den
    have hn := Nat.div_add_mod n den
    have hmod : m % den ≤ n % den := by
      rw [heq] at hm
      omega
    rw [roundHalfEven, roundHalfEven, heq]
    grind

namespace Binary64

variable {num den m n : Nat}

/-- A rounded count has at most 53 bits above its surplus. -/
theorem roundUnits_le (num den : Nat) :
    roundUnits num den ≤ Nat.pow 2 (surplusBits (num / den) + 53) := by
  have hlt : num / den < Nat.pow 2 (surplusBits (num / den) + 53) := by
    refine Nat.lt_log2_self.trans_le (Nat.pow_le_pow_right Nat.two_pos ?_)
    rw [surplusBits]
    omega
  rw [roundUnits, Nat.pow_eq, Nat.pow_eq]
  rw [Nat.pow_eq] at hlt
  generalize surplusBits (num / den) = surplus at hlt ⊢
  rw [Nat.pow_add'] at hlt ⊢
  refine Nat.mul_le_mul_right _ ((roundHalfEven_bounds _ _).2.trans ?_)
  rw [← Nat.div_div_eq_div_mul]
  exact Nat.succ_le_of_lt (Nat.div_lt_of_lt_mul (by rwa [Nat.mul_comm]))

/-- A count with a surplus keeps its 53 leading bits. -/
theorem le_roundUnits (h : 0 < surplusBits (num / den)) :
    Nat.pow 2 (surplusBits (num / den) + 52) ≤ roundUnits num den := by
  have hle : Nat.pow 2 (surplusBits (num / den) + 52) ≤ num / den := by
    rw [surplusBits] at h ⊢
    rw [Nat.sub_add_cancel (by omega)]
    refine Nat.log2_self_le fun hzero => ?_
    rw [hzero] at h
    exact absurd h (by decide)
  rw [roundUnits, Nat.pow_eq, Nat.pow_eq]
  rw [Nat.pow_eq] at hle
  generalize surplusBits (num / den) = surplus at hle ⊢
  rw [Nat.pow_add'] at hle ⊢
  refine Nat.mul_le_mul_right _ (le_trans ?_ (roundHalfEven_bounds _ _).1)
  rw [← Nat.div_div_eq_div_mul]
  exact (Nat.le_div_iff_mul_le (Nat.two_pow_pos surplus)).2 hle

theorem surplusBits_mono (h : m ≤ n) : surplusBits m ≤ surplusBits n := by
  rw [surplusBits, surplusBits, Nat.log2_eq_log_two, Nat.log2_eq_log_two]
  exact Nat.sub_le_sub_right (Nat.log_mono_right h) 52

theorem roundUnits_mono (h : m ≤ n) (den : Nat) : roundUnits m den ≤ roundUnits n den := by
  rcases (surplusBits_mono (Nat.div_le_div_right (c := den) h)).lt_or_eq with hlt | heq
  · -- a power of two lies between the two
    calc roundUnits m den ≤ Nat.pow 2 (surplusBits (m / den) + 53) := roundUnits_le m den
      _ ≤ Nat.pow 2 (surplusBits (n / den) + 52) := Nat.pow_le_pow_right Nat.two_pos (by omega)
      _ ≤ roundUnits n den := le_roundUnits (by omega)
  · rw [roundUnits, roundUnits, heq]
    exact Nat.mul_le_mul_right _ (roundHalfEven_mono h _)

/-- Two magnitudes are apart by the surplus of the smaller one, at least. -/
theorem add_le_of_lt (hm : IsMagnitude m) (hn : IsMagnitude n) (h : m < n) :
    m + Nat.pow 2 (surplusBits m) ≤ n := by
  have hdvd : Nat.pow 2 (surplusBits m) ∣ n - m := by
    refine Nat.dvd_sub ?_ (Nat.dvd_of_mod_eq_zero hm.2)
    exact Nat.dvd_trans (Nat.pow_dvd_pow 2 (surplusBits_mono h.le)) (Nat.dvd_of_mod_eq_zero hn.2)
  exact Nat.add_le_of_le_sub' h.le (Nat.le_of_dvd (Nat.sub_pos_of_lt h) hdvd)

theorem unitsPerOne_pos : 0 < unitsPerOne := by decide +kernel

theorem one_eq : one = .finite false unitsPerOne (by decide +kernel) := by decide +kernel

/-- A fraction is a count of units; only zero has a sign. -/
theorem exists_units_of_isFraction {x : Binary64} (h : Route.isFraction x = true) :
    ∃ negative units hunits, x = .finite negative units hunits ∧
      (negative = true → units = 0) := by
  rw [Route.isFraction, one_eq] at h
  cases x with
  | nan => simp [le, isNan] at h
  | infinite negative => cases negative <;> simp [le, lt, isNan, zero] at h
  | finite negative units hunits =>
    refine ⟨negative, units, hunits, rfl, ?_⟩
    rintro rfl
    simp only [le, lt, zero, Bool.and_eq_true] at h
    have hzero := h.1.2
    simp at hzero
    exact hzero

theorem lt_finite {negative : Bool} {hm : IsMagnitude m} {hn : IsMagnitude n}
    (hsign : negative = true → n = 0) :
    (finite false m hm).lt (finite negative n hn) = decide (m < n) := by
  cases negative with
  | false => exact decide_eq_decide.2 Int.ofNat_lt
  | true =>
    obtain rfl := hsign rfl
    rw [lt]
    exact decide_eq_decide.2 (by simp)

end Binary64

namespace Wire

variable {x : Binary64} {units : Nat} {parts : Int}

/-- The parts that are nearest to a count of units. -/
def partsOf (units : Nat) : Nat :=
  roundHalfEven (Binary64.roundUnits (units * (fractionScale * unitsPerOne)) unitsPerOne)
    unitsPerOne

theorem partsOf_mono {m n : Nat} (h : m ≤ n) : partsOf m ≤ partsOf n :=
  roundHalfEven_mono (Binary64.roundUnits_mono (Nat.mul_le_mul_right _ h) _) _

/-- The scale is a number of the format. -/
theorem ofInt_fractionScale : Binary64.ofInt fractionScale =
    .finite false (fractionScale * unitsPerOne) (by decide +kernel) := by decide +kernel

/-- A number is written as the parts of its units, with its sign. -/
theorem eq_partsOf_of_fractionParts {negative : Bool} {hunits : IsMagnitude units}
    (h : fractionParts (.finite negative units hunits) = .ok parts) :
    parts = if negative then -(partsOf units : Int) else partsOf units := by
  rw [fractionParts, ofInt_fractionScale, Binary64.mul, Binary64.ofUnits] at h
  split at h
  next hround =>
    split at hround
    next =>
      cases hround
      cases h
      cases negative <;> rfl
    next => cases hround
  next => cases h

/-- The number that is nearest to half of a part. -/
def halfPart : Binary64 := .ofUnits false unitsPerOne (2 * fractionScale)

/-- The units of half of a part. -/
def halfPartUnits : Nat := Nat.pow 2 1049 + Nat.pow 2 1025 + Nat.pow 2 1001

/-- They are a magnitude of the format and are written as no parts; the next magnitude is written as
one. -/
theorem halfPartUnits_spec : IsMagnitude halfPartUnits ∧ partsOf halfPartUnits = 0 ∧
    partsOf (halfPartUnits + Nat.pow 2 (surplusBits halfPartUnits)) = 1 := by
  decide +kernel

theorem halfPart_eq : halfPart = .finite false halfPartUnits halfPartUnits_spec.1 := by
  decide +kernel

/-- The parts go from none to one between half of a part and the next number of the format. -/
theorem partsOf_eq_zero_iff (hunits : IsMagnitude units) :
    partsOf units = 0 ↔ units ≤ halfPartUnits := by
  obtain ⟨hhalf, hnone, hone⟩ := halfPartUnits_spec
  refine ⟨fun hzero => ?_, fun hle => Nat.le_zero.1 (hnone ▸ partsOf_mono hle)⟩
  by_contra hlt
  have hnext := Binary64.add_le_of_lt hhalf hunits (not_le.1 hlt)
  have hparts := partsOf_mono hnext
  rw [hone, hzero] at hparts
  exact absurd hparts (by decide)

theorem partsOf_zero : partsOf 0 = 0 :=
  (partsOf_eq_zero_iff (Binary64.isMagnitude_of_lt (by decide))).2 (Nat.zero_le _)

/-- **A fraction is written as no parts exactly up to half of a part.** -/
theorem fractionParts_eq_zero_iff (hfraction : Route.isFraction x = true)
    (h : fractionParts x = .ok parts) : parts = 0 ↔ halfPart.lt x = false := by
  obtain ⟨negative, units, hunits, rfl, hsign⟩ := Binary64.exists_units_of_isFraction hfraction
  have hparts : parts = partsOf units := by
    have heq := eq_partsOf_of_fractionParts h
    cases negative with
    | false => exact heq
    | true =>
      obtain rfl := hsign rfl
      rw [heq, if_pos rfl, partsOf_zero]
      rfl
  have hlt : halfPart.lt (.finite negative units hunits) = decide (halfPartUnits < units) := by
    rw [halfPart_eq]
    exact Binary64.lt_finite hsign
  rw [hparts, hlt, decide_eq_false_iff_not, not_lt, ← partsOf_eq_zero_iff hunits]
  exact Int.natCast_eq_zero

end Wire

end SwapRouter
