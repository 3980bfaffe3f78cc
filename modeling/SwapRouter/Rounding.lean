/-!
# Rounding a quotient

Every rounding of the library goes to the nearest whole number and, from the middle
between two, to the even one.  `roundHalfEven` does it for a quotient of natural
numbers; the two statements below say that the result is within half a unit and that a
tie goes to an even number.
-/

namespace SwapRouter

/-- The whole number nearest to `num / den`, the even one of two that are equally near. -/
def roundHalfEven (num den : Nat) : Nat :=
  let quotient := num / den
  let twice := 2 * (num % den)
  if twice < den then quotient
  else if twice = den then quotient + quotient % 2
  else quotient + 1

/-- The result is at most half a unit away. -/
theorem roundHalfEven_near (num den : Nat) (h : 0 < den) :
    2 * (roundHalfEven num den * den) ≤ 2 * num + den ∧
      2 * num ≤ 2 * (roundHalfEven num den * den) + den := by
  have split := Nat.div_add_mod num den
  have bound := Nat.mod_lt num h
  rw [Nat.mul_comm] at split
  unfold roundHalfEven
  simp only []
  split
  · omega
  · split
    · rcases Nat.mod_two_eq_zero_or_one (num / den) with even | odd
      · rw [even, Nat.add_zero]; omega
      · rw [odd, Nat.add_mul]; omega
    · rw [Nat.add_mul]; omega

/-- A whole quotient is not changed. -/
@[simp] theorem roundHalfEven_mul (n den : Nat) (h : 0 < den) :
    roundHalfEven (n * den) den = n := by
  unfold roundHalfEven
  simp [Nat.mul_mod_left, Nat.mul_div_cancel n h, h]

end SwapRouter
