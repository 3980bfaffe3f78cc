import SwapRouter.Binary64.Shortest

/-!
# Decimal arithmetic with a bounded precision

A decimal is a whole coefficient times a power of ten.  Subtraction and multiplication
are exact first and are then rounded to `precision` significant digits, from the middle
to the even coefficient.
-/

namespace SwapRouter

/-- The value `coefficient * 10 ^ exponent`. -/
structure Decimal where
  coefficient : Int
  exponent : Int
  deriving DecidableEq, Repr

namespace Decimal

/-- How many significant digits the result of an operation keeps. -/
def precision : Nat := 28

/-- The number of decimal digits of a number; zero has one. -/
def digitCount (n : Nat) : Nat := (Nat.toDigits 10 n).length

/-- Rounds to at most `p` significant digits. -/
def round (p : Nat) (d : Decimal) : Decimal :=
  let surplus := digitCount d.coefficient.natAbs - p
  if surplus = 0 then d
  else
    let rounded := roundHalfEven d.coefficient.natAbs (Nat.pow 10 surplus)
    ⟨d.coefficient.sign * rounded, d.exponent + surplus⟩

/-- A whole number. -/
def ofInt (n : Int) : Decimal := ⟨n, 0⟩

/-- The decimal written by the shortest text of a magnitude. -/
def ofShortest (units : Nat) : Decimal :=
  let (digits, scale) := Binary64.shortest units
  ⟨digits, scale⟩

/-- One minus a decimal, rounded. -/
def oneMinus (d : Decimal) : Decimal :=
  if 0 ≤ d.exponent then round precision ⟨1 - d.coefficient * Nat.pow 10 d.exponent.toNat, 0⟩
  else round precision ⟨Nat.pow 10 (-d.exponent).toNat - d.coefficient, d.exponent⟩

/-- The rounded product. -/
def mul (a b : Decimal) : Decimal :=
  round precision ⟨a.coefficient * b.coefficient, a.exponent + b.exponent⟩

/-- The greatest whole number that is not above the value. -/
def floor (d : Decimal) : Int :=
  if 0 ≤ d.exponent then d.coefficient * Nat.pow 10 d.exponent.toNat
  else d.coefficient.fdiv (Nat.pow 10 (-d.exponent).toNat)

end Decimal

end SwapRouter
