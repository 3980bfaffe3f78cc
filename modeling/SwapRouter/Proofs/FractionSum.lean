import Mathlib.Data.List.Induction
import Mathlib.Tactic.Ring
import SwapRouter.Proofs.Fraction

/-!
# Fractions that are added

The fractions out of a fork are added as binary64 numbers, and each of them is written as the number
of parts that is nearest to it.  Both steps round, and either way it is known how far they are off.
An addition with a result below two is off by less than a unit in the last place of one, and the
parts of a fraction by half of a part and by what the product with the scale is off.  So a bound on
the sum that is computed is a bound on the parts that are written, up to half of a part and a little
more for every fraction.

* `Binary64.roundUnits_near`: how far a rounded count is off.
* `Binary64.sum_magnitude_le`: the exact sum of fractions against the sum that is computed.
* `Wire.sum_partsOf_le`: **the parts of fractions against the sum that is computed.**
-/

namespace SwapRouter

namespace Binary64

variable {num den m n bound : Nat} {x y : Binary64} {xs : List Binary64}

/-! ## What rounding changes -/

/-- A rounded count is off by half of its last place, at most. -/
theorem roundUnits_near (num : Nat) (hden : 0 < den) :
    2 * (roundUnits num den * den) ≤ 2 * num + den * Nat.pow 2 (surplusBits (num / den)) ∧
      2 * num ≤ 2 * (roundUnits num den * den) + den * Nat.pow 2 (surplusBits (num / den)) := by
  have hpow : 0 < den * Nat.pow 2 (surplusBits (num / den)) :=
    Nat.mul_pos hden (Nat.pow_pos Nat.two_pos)
  have hnear := roundHalfEven_near num _ hpow
  have hassoc : roundUnits num den * den =
      roundHalfEven num (den * Nat.pow 2 (surplusBits (num / den))) *
        (den * Nat.pow 2 (surplusBits (num / den))) := by
    rw [roundUnits, Nat.mul_assoc, Nat.mul_comm (Nat.pow 2 _) den]
  rwa [hassoc]

/-- A magnitude is not changed by rounding. -/
theorem roundUnits_of_isMagnitude (h : IsMagnitude m) : roundUnits m 1 = m := by
  have hdvd := Nat.div_mul_cancel (Nat.dvd_of_mod_eq_zero h.2)
  have hhalf := roundHalfEven_mul (m / Nat.pow 2 (surplusBits m)) (Nat.pow 2 (surplusBits m))
    (Nat.pow_pos Nat.two_pos)
  rw [hdvd] at hhalf
  rw [roundUnits, Nat.div_one, Nat.one_mul, hhalf, hdvd]

/-- The last place of a count is below that of a bound on what it is rounded to. -/
theorem surplusBits_le_of_roundUnits_lt {k : Nat}
    (h : roundUnits num den < Nat.pow 2 (k + 53)) : surplusBits (num / den) ≤ k := by
  by_contra hlt
  have hle : Nat.pow 2 (surplusBits (num / den) + 52) ≤ roundUnits num den :=
    le_roundUnits (by omega)
  have hpow : Nat.pow 2 (k + 53) ≤ Nat.pow 2 (surplusBits (num / den) + 52) :=
    Nat.pow_le_pow_right Nat.two_pos (by omega)
  exact absurd (hpow.trans hle) (not_le.2 h)

/-- A rounded count is a magnitude, unless it is too large for the format. -/
theorem isMagnitude_roundUnits (h : roundUnits num den < unitsLimit) :
    IsMagnitude (roundUnits num den) := by
  refine ⟨h, Nat.mod_eq_zero_of_dvd ?_⟩
  rcases (roundUnits_le num den).lt_or_eq with hlt | heq
  · -- no more bits lie below the leading ones than the rounding made zero
    have hplace : surplusBits (roundUnits num den) ≤ surplusBits (num / den) := by
      by_cases hzero : roundUnits num den = 0
      · rw [hzero]
        exact Nat.zero_le _
      · have hlog := (Nat.log2_lt hzero).2 hlt
        rw [surplusBits]
        omega
    exact (Nat.pow_dvd_pow 2 hplace).trans (Nat.dvd_mul_left _ _)
  · -- the rounding carried into one more bit
    rw [heq, surplusBits, Nat.pow_eq, Nat.pow_eq, Nat.log2_two_pow]
    exact Nat.pow_dvd_pow 2 (Nat.sub_le _ _)

/-! ## Numbers that are not negative -/

/-- The units of a finite number without its sign. -/
def magnitude : Binary64 → Nat
  | .finite _ units _ => units
  | _ => 0

/-- A number that is not negative is infinite or a count of units; only zero has a sign. -/
theorem cases_of_nonneg (h : (zero false).le x = true) :
    x = .infinite false ∨
      ∃ negative units hunits, x = .finite negative units hunits ∧
        (negative = true → units = 0) := by
  cases x with
  | nan => simp [le, isNan] at h
  | infinite negative => cases negative <;> simp [le, lt, isNan, zero] at h ⊢
  | finite negative units hunits =>
    refine Or.inr ⟨negative, units, hunits, rfl, ?_⟩
    rintro rfl
    simpa [le, lt, isNan, zero] using h

theorem nonneg_of_isFraction (h : Route.isFraction x = true) : (zero false).le x = true :=
  (Bool.and_eq_true _ _ ▸ h).1

theorem magnitude_le_of_isFraction (h : Route.isFraction x = true) :
    x.magnitude ≤ unitsPerOne := by
  obtain ⟨negative, units, hunits, rfl, hsign⟩ := exists_units_of_isFraction h
  have hone := (Bool.and_eq_true _ _ ▸ h).2
  rw [le, one_eq, lt_finite hsign] at hone
  rw [magnitude]
  simpa [isNan] using hone

theorem finite_lt_iff {negative : Bool} {hm : IsMagnitude m} {hn : IsMagnitude n}
    (hsign : negative = true → m = 0) :
    (finite negative m hm).lt (finite false n hn) = true ↔ m < n := by
  rw [lt, decide_eq_true_iff]
  cases negative with
  | false => exact Int.ofNat_lt
  | true =>
    obtain rfl := hsign rfl
    exact Int.ofNat_lt

/-- Of two numbers that are not negative the one is less, or the other one is not greater. -/
theorem lt_of_le_eq_false (hx : (zero false).le x = true) (hy : (zero false).le y = true)
    (h : x.le y = false) : y.lt x = true := by
  have hnan : ∀ z : Binary64, (zero false).le z = true → z.isNan = false := fun z hz => by
    rcases cases_of_nonneg hz with rfl | ⟨_, _, _, rfl, -⟩ <;> rfl
  rw [le, hnan x hx, hnan y hy] at h
  simpa using h

/-- Numbers that are not negative are added as counts of units. -/
theorem add_finite {negative negative' : Bool} {hm : IsMagnitude m} {hn : IsMagnitude n}
    (hsign : negative = true → m = 0) (hsign' : negative' = true → n = 0) :
    (finite negative m hm).add (finite negative' n hn) =
      if m + n = 0 then zero (negative && negative') else ofUnits false (m + n) := by
  have hint (b : Bool) (k : Nat) (h : b = true → k = 0) :
      (if b then -(k : Int) else k) = k := by
    cases b with
    | false => rfl
    | true => simp [h rfl]
  rw [add, hint negative m hsign, hint negative' n hsign', ← Int.natCast_add, Int.natAbs_natCast]
  norm_cast

theorem sub_finite {hm : IsMagnitude m} {hn : IsMagnitude n} (h : n < m) :
    (finite false m hm).sub (finite false n hn) = ofUnits false (m - n) := by
  have hsum : (m : Int) + -(n : Int) = ((m - n : Nat) : Int) := by omega
  have hpos : 0 < m - n := Nat.sub_pos_of_lt h
  rw [sub, neg, add]
  simp only [Bool.not_false, if_true, Bool.false_eq_true, if_false, hsum, Int.natAbs_natCast]
  rw [if_neg (by omega), decide_eq_false (by omega)]

theorem nonneg_add (hx : (zero false).le x = true) (hy : (zero false).le y = true) :
    (zero false).le (x.add y) = true := by
  rcases cases_of_nonneg hx with rfl | ⟨negative, m, hm, rfl, hsign⟩ <;>
    rcases cases_of_nonneg hy with rfl | ⟨negative', n, hn, rfl, hsign'⟩
  · rfl
  · rfl
  · rfl
  · rw [add_finite hsign hsign']
    split
    · cases negative <;> cases negative' <;> rfl
    · rw [ofUnits]
      split
      · simp [le, lt, isNan, zero]
      · rfl

/-! ## The sum that is computed -/

/-- **A step of the sum.**  If the result is below a bound, so is the number that is added to, and
the result is off by half of the last place of the bound, at most. -/
theorem lt_and_magnitude_le_of_add_lt {k : Nat} {hbound : IsMagnitude bound}
    (hle : bound ≤ Nat.pow 2 (k + 1 + 53)) (hx : (zero false).le x = true)
    (hy : Route.isFraction y = true) (h : (x.add y).lt (.finite false bound hbound) = true) :
    x.lt (.finite false bound hbound) = true ∧
      x.magnitude + y.magnitude ≤ (x.add y).magnitude + Nat.pow 2 k := by
  obtain ⟨negative', n, hn, rfl, hsign'⟩ := exists_units_of_isFraction hy
  rcases cases_of_nonneg hx with rfl | ⟨negative, m, hm, rfl, hsign⟩
  · cases h
  rw [add_finite hsign hsign'] at h ⊢
  rw [finite_lt_iff hsign]
  split at h
  next hzero =>
    have hlt := (finite_lt_iff (fun _ => rfl)).1 h
    rw [if_pos hzero]
    simp only [magnitude]
    omega
  next hne =>
    rw [if_neg hne]
    rw [ofUnits] at h ⊢
    split at h
    next hround =>
      rw [dif_pos hround]
      have hlt : roundUnits (m + n) 1 < bound := (finite_lt_iff (by simp)).1 h
      -- rounding keeps the order, so the result is not below the number that is added to
      have hmono := roundUnits_mono (Nat.le_add_right m n) 1
      rw [roundUnits_of_isMagnitude hm] at hmono
      have hplace : Nat.pow 2 (surplusBits ((m + n) / 1)) ≤ Nat.pow 2 (k + 1) :=
        Nat.pow_le_pow_right Nat.two_pos (surplusBits_le_of_roundUnits_lt (hlt.trans_le hle))
      have htwice : Nat.pow 2 (k + 1) = 2 * Nat.pow 2 k := Nat.pow_succ'
      have hnear := (roundUnits_near (m + n) Nat.one_pos).2
      simp only [magnitude]
      omega
    next => cases h

theorem sum_append_singleton : sum (xs ++ [x]) = (sum xs).add x := by
  rw [sum, List.foldl_append]
  rfl

theorem nonneg_sum (hxs : ∀ x ∈ xs, Route.isFraction x = true) :
    (zero false).le (sum xs) = true := by
  induction xs using List.reverseRecOn with
  | nil => rfl
  | append_singleton xs x ih =>
    obtain ⟨hxs, hx⟩ := List.forall_mem_append.1 hxs
    rw [sum_append_singleton]
    exact nonneg_add (ih hxs) (nonneg_of_isFraction (hx x List.mem_cons_self))

/-- **The exact sum of fractions** is above the sum that is computed by less than half of the last
place of a bound for every fraction. -/
theorem sum_magnitude_le {k : Nat} {hbound : IsMagnitude bound}
    (hle : bound ≤ Nat.pow 2 (k + 1 + 53)) (hxs : ∀ x ∈ xs, Route.isFraction x = true)
    (h : (sum xs).lt (.finite false bound hbound) = true) :
    (xs.map magnitude).sum ≤ (sum xs).magnitude + xs.length * Nat.pow 2 k := by
  induction xs using List.reverseRecOn with
  | nil => exact Nat.zero_le _
  | append_singleton xs x ih =>
    obtain ⟨hxs, hx⟩ := List.forall_mem_append.1 hxs
    rw [List.forall_mem_singleton] at hx
    rw [sum_append_singleton] at h ⊢
    obtain ⟨hlt, hstep⟩ := lt_and_magnitude_le_of_add_lt hle (nonneg_sum hxs) hx h
    have hrest := ih hxs hlt
    rw [List.map_append, List.sum_append, List.map_singleton, List.sum_singleton,
      List.length_append, List.length_singleton, Nat.succ_mul]
    omega

theorem lt_of_lt_of_le {hm : IsMagnitude m} {hn : IsMagnitude n} (hx : (zero false).le x = true)
    (h : x.lt (.finite false m hm) = true) (hle : m ≤ n) : x.lt (.finite false n hn) = true := by
  rcases cases_of_nonneg hx with rfl | ⟨negative, k, hk, rfl, hsign⟩
  · cases h
  · exact (finite_lt_iff hsign).2 (((finite_lt_iff hsign).1 h).trans_le hle)

theorem magnitude_lt_of_lt {hbound : IsMagnitude bound} (hx : (zero false).le x = true)
    (h : x.lt (.finite false bound hbound) = true) : x.magnitude < bound := by
  rcases cases_of_nonneg hx with rfl | ⟨negative, m, hm, rfl, hsign⟩
  · cases h
  · exact (finite_lt_iff hsign).1 h

end Binary64

namespace Wire

variable {units bound k : Nat} {xs : List Binary64}

/-! ## The parts that are written -/

/-- The product of one and the scale is a number of the format, and one is written as all parts. -/
theorem roundUnits_one_lt_and_partsOf_one :
    Binary64.roundUnits (unitsPerOne * (fractionScale * unitsPerOne)) unitsPerOne < unitsLimit ∧
      partsOf unitsPerOne = fractionScale := by
  decide +kernel

/-- **A fraction is written as the parts that are nearest to it.** -/
theorem fractionParts_of_isFraction {x : Binary64} (h : Route.isFraction x = true) :
    fractionParts x = .ok (partsOf x.magnitude) := by
  have hle := Binary64.magnitude_le_of_isFraction h
  obtain ⟨negative, units, hunits, rfl, hsign⟩ := Binary64.exists_units_of_isFraction h
  have hmost := roundUnits_one_lt_and_partsOf_one.1
  have hround : IsMagnitude
      (Binary64.roundUnits (units * (fractionScale * unitsPerOne)) unitsPerOne) :=
    Binary64.isMagnitude_roundUnits
      ((Binary64.roundUnits_mono (Nat.mul_le_mul_right _ hle) _).trans_lt hmost)
  have hparts : fractionParts (.finite negative units hunits) =
      .ok (if negative then -(partsOf units : Int) else partsOf units) := by
    rw [fractionParts, ofInt_fractionScale, Binary64.mul, Binary64.ofUnits, dif_pos hround]
    cases negative <;> rfl
  rw [hparts, Binary64.magnitude]
  cases negative with
  | false => rfl
  | true =>
    rw [hsign rfl, partsOf_zero]
    rfl

/-- The parts of a fraction are no more than there are. -/
theorem partsOf_le_fractionScale {x : Binary64} (h : Route.isFraction x = true) :
    partsOf x.magnitude ≤ fractionScale :=
  roundUnits_one_lt_and_partsOf_one.2 ▸ partsOf_mono (Binary64.magnitude_le_of_isFraction h)

/-- A count that is rounded to a number of the format and then to a multiple of one is off by half of
one and by half of the last place of the count, at most. -/
theorem roundHalfEven_roundUnits_near (count : Nat) {one : Nat} (hone : 0 < one) :
    2 * (roundHalfEven (Binary64.roundUnits (count * one) one) one * one) ≤
      2 * count + Nat.pow 2 (surplusBits count) + one := by
  have hunits := (Binary64.roundUnits_near (count * one) hone).1
  have hparts := (roundHalfEven_near (Binary64.roundUnits (count * one) one) one hone).1
  rw [Nat.mul_div_cancel _ hone, ← Nat.mul_assoc, ← Nat.mul_assoc, Nat.mul_comm one,
    ← Nat.add_mul] at hunits
  have hunits' := Nat.le_of_mul_le_mul_right hunits hone
  omega

/-- By how much twice the parts of a number up to a bound may be off, in units of a part: a whole
part, and the last place of the product with the scale. -/
def partsError (bound : Nat) : Nat := Nat.pow 2 (surplusBits (bound * fractionScale)) + unitsPerOne

/-- The parts of a fraction are off by a little more than half of a part, at most. -/
theorem partsOf_near (h : units ≤ bound) :
    2 * (partsOf units * unitsPerOne) ≤ 2 * (units * fractionScale) + partsError bound := by
  have hnear := roundHalfEven_roundUnits_near (units * fractionScale) Binary64.unitsPerOne_pos
  have hplace : Nat.pow 2 (surplusBits (units * fractionScale)) ≤
      Nat.pow 2 (surplusBits (bound * fractionScale)) :=
    Nat.pow_le_pow_right Nat.two_pos (Binary64.surplusBits_mono (Nat.mul_le_mul_right _ h))
  rw [Nat.mul_assoc] at hnear
  rw [partsOf, partsError]
  omega

/-- The parts of fractions are off by a little more than half of a part for each of them. -/
theorem sum_partsOf_near (hxs : ∀ x ∈ xs, Route.isFraction x = true) :
    2 * ((xs.map fun x => partsOf x.magnitude).sum * unitsPerOne) ≤
      2 * ((xs.map Binary64.magnitude).sum * fractionScale) + xs.length * partsError unitsPerOne := by
  induction xs with
  | nil => simp
  | cons x xs ih =>
    obtain ⟨hx, hxs⟩ := List.forall_mem_cons.1 hxs
    have hparts := partsOf_near (Binary64.magnitude_le_of_isFraction hx)
    have hrest := ih hxs
    rw [List.map_cons, List.sum_cons, List.map_cons, List.sum_cons, List.length_cons,
      Nat.add_mul xs.length, Nat.add_mul, Nat.add_mul]
    omega

/-- By how much twice the parts of a fraction may be off, in units of a part, if fractions are added
whose sum is below `2 ^ (k + 54)` units. -/
def fractionError (k : Nat) : Nat := 2 * (Nat.pow 2 k * fractionScale) + partsError unitsPerOne

/-- **The parts of fractions** against a bound on the sum that is computed. -/
theorem sum_partsOf_le {hbound : IsMagnitude bound} (hle : bound ≤ Nat.pow 2 (k + 1 + 53))
    (hxs : ∀ x ∈ xs, Route.isFraction x = true)
    (h : (Binary64.sum xs).lt (.finite false bound hbound) = true) :
    2 * ((xs.map fun x => partsOf x.magnitude).sum * unitsPerOne) ≤
      2 * (bound * fractionScale) + xs.length * fractionError k := by
  have hsum := Binary64.sum_magnitude_le hle hxs h
  have hlt := Binary64.magnitude_lt_of_lt (Binary64.nonneg_sum hxs) h
  have hexact : (xs.map Binary64.magnitude).sum * fractionScale ≤
      (bound + xs.length * Nat.pow 2 k) * fractionScale := Nat.mul_le_mul_right _ (by omega)
  have hparts := sum_partsOf_near hxs
  have herror : xs.length * fractionError k =
      2 * (xs.length * Nat.pow 2 k * fractionScale) + xs.length * partsError unitsPerOne := by
    rw [fractionError]
    ring
  rw [Nat.add_mul] at hexact
  omega

/-! ## Sums that the check lets pass -/

/-- The units of the tolerance. -/
def toleranceUnits : Nat := 4722366482869645 * Nat.pow 2 1002

/-- The units of what fractions have to stay below if the last one of a fork is to take the rest. -/
def restUnits : Nat := 9007190247541737 * Nat.pow 2 1021

/-- The units of a number that is too far above one for the check. -/
def excessUnits : Nat := 1125901032742531 * Nat.pow 2 1024

theorem isMagnitude_units :
    IsMagnitude toleranceUnits ∧ IsMagnitude restUnits ∧ IsMagnitude excessUnits := by
  decide +kernel

/-- One lies that far below, and what is rounded keeps its distance. -/
theorem excessUnits_bounds :
    restUnits ≤ excessUnits ∧ unitsPerOne < excessUnits ∧
      excessUnits ≤ Nat.pow 2 (1021 + 1 + 53) ∧
      toleranceUnits < Binary64.roundUnits (excessUnits - unitsPerOne) 1 := by
  decide +kernel

theorem splitTolerance_eq :
    Route.splitTolerance = .finite false toleranceUnits isMagnitude_units.1 ∧
      Binary64.one.sub Route.splitTolerance = .finite false restUnits isMagnitude_units.2.1 := by
  decide +kernel

/-- A number that is too far above one for the check. -/
def excess : Binary64 := .finite false excessUnits isMagnitude_units.2.2

/-- How many fractions may be rounded up before their parts make up for the tolerance. -/
def maxExplicit : Nat := 35

/-- What few fractions are off by does not make up for the tolerance, and what one fraction is off by
is no more than a part. -/
theorem fractionError_bounds :
    restUnits ≤ Nat.pow 2 (1020 + 1 + 53) ∧
      2 * (restUnits * fractionScale) + maxExplicit * fractionError 1020 <
        2 * ((fractionScale + 1) * unitsPerOne) ∧
      2 * (excessUnits * fractionScale) < 2 * ((fractionScale + 18) * unitsPerOne) ∧
      fractionError 1021 ≤ 2 * unitsPerOne := by
  decide +kernel

/-- **A few fractions that leave something over** are written as no more parts than there are. -/
theorem sum_partsOf_le_fractionScale (hxs : ∀ x ∈ xs, Route.isFraction x = true)
    (hlen : xs.length ≤ maxExplicit)
    (h : (Binary64.sum xs).lt (Binary64.one.sub Route.splitTolerance) = true) :
    (xs.map fun x => partsOf x.magnitude).sum ≤ fractionScale := by
  rw [splitTolerance_eq.2] at h
  obtain ⟨hrest, hmost, -⟩ := fractionError_bounds
  have hparts := sum_partsOf_le hrest hxs h
  have herror : xs.length * fractionError 1020 ≤ maxExplicit * fractionError 1020 :=
    Nat.mul_le_mul_right _ hlen
  refine Nat.le_of_lt_succ (Nat.lt_of_mul_lt_mul_right (a := unitsPerOne) ?_)
  rw [Nat.succ_eq_add_one]
  omega

/-- What the check takes for one is not too far above it. -/
theorem lt_excess {x : Binary64} (hx : (Binary64.zero false).le x = true)
    (h : Route.splitTolerance.lt (x.sub .one).abs = false) : x.lt excess = true := by
  rw [splitTolerance_eq.1, Binary64.one_eq] at h
  rcases Binary64.cases_of_nonneg hx with rfl | ⟨negative, m, hm, rfl, hsign⟩
  · cases h
  rw [excess, Binary64.finite_lt_iff hsign]
  by_contra hle
  obtain ⟨-, hone, -, hfar⟩ := excessUnits_bounds
  cases negative with
  | true => exact absurd (hsign rfl) (by omega)
  | false =>
    -- rounding keeps the order, so a greater number is not nearer to one
    have hmono := Binary64.roundUnits_mono (m := excessUnits - unitsPerOne) (n := m - unitsPerOne)
      (by omega) 1
    rw [Binary64.sub_finite (by omega), Binary64.ofUnits] at h
    split at h
    next hround =>
      rw [Binary64.abs, ← Bool.not_eq_true, Binary64.finite_lt_iff (by simp)] at h
      omega
    next => cases h

/-- What leaves something over is not too far above one. -/
theorem lt_excess_of_lt {x : Binary64} (hx : (Binary64.zero false).le x = true)
    (h : x.lt (Binary64.one.sub Route.splitTolerance) = true) : x.lt excess = true := by
  rw [splitTolerance_eq.2] at h
  exact Binary64.lt_of_lt_of_le hx h excessUnits_bounds.1

/-- **Fractions that the check takes for one, or for less,** are written as few more parts than there
are: as many as the tolerance makes up for, and one for each of them. -/
theorem sum_partsOf_le_add (hxs : ∀ x ∈ xs, Route.isFraction x = true)
    (h : (Binary64.sum xs).lt excess = true) :
    (xs.map fun x => partsOf x.magnitude).sum ≤ fractionScale + 17 + xs.length := by
  obtain ⟨-, -, hclosed, hcost⟩ := fractionError_bounds
  have hparts := sum_partsOf_le excessUnits_bounds.2.2.1 hxs h
  have herror := Nat.mul_le_mul_left xs.length hcost
  refine Nat.le_of_lt_succ (Nat.lt_of_mul_lt_mul_right (a := unitsPerOne) ?_)
  rw [Nat.succ_eq_add_one]
  rw [Nat.mul_left_comm] at herror
  have hsplit : (fractionScale + 17 + xs.length + 1) * unitsPerOne =
      (fractionScale + 18) * unitsPerOne + xs.length * unitsPerOne := by ring
  omega

end Wire

end SwapRouter
