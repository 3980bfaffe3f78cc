import SwapRouter.Rounding

/-!
# Binary floating point numbers of 64 bits

Fractions and slippages arrive as binary64 numbers, and whether two of them sum to one
is decided in that arithmetic.  Every finite number of the format is a whole multiple
of its smallest positive number, `2 ^ (-1074)`, so a finite value is kept as that
count of *units* together with a sign.  An operation computes the exact result and
rounds it once, to the nearest number of the format and from the middle to the even
one; everything is arithmetic of whole numbers and can be reasoned about as such.

## Which counts belong to the format

A significand has 53 bits.  A count below `2 ^ 53` is therefore kept as it is, and a
larger one must have zeros below its 53 leading bits.  `IsMagnitude` says so, and the
type carries it.
-/

namespace SwapRouter

/-- How many units make one: `2 ^ 1074`. -/
def unitsPerOne : Nat := Nat.pow 2 1074

/-- The least count of units that is too large for the format: `2 ^ 1024` in units. -/
def unitsLimit : Nat := Nat.pow 2 2098

/-- How many low bits of a count lie below the leading 53. -/
def surplusBits (units : Nat) : Nat := units.log2 - 52

/-- Whether a count of units is the magnitude of a number of the format. -/
def IsMagnitude (units : Nat) : Prop :=
  units < unitsLimit ∧ units % Nat.pow 2 (surplusBits units) = 0

instance (units : Nat) : Decidable (IsMagnitude units) :=
  inferInstanceAs (Decidable (_ ∧ _))

/-- A binary64 number: a finite one is a signed count of units. -/
inductive Binary64 where
  | nan
  | infinite (negative : Bool)
  | finite (negative : Bool) (units : Nat) (isMagnitude : IsMagnitude units)
  deriving DecidableEq

namespace Binary64

theorem isMagnitude_of_lt {units : Nat} (h : units < Nat.pow 2 53) : IsMagnitude units := by
  have small : surplusBits units = 0 := by
    by_cases h0 : units = 0
    · subst h0; decide
    · have := (Nat.log2_lt h0).2 h
      unfold surplusBits; omega
  have limit : Nat.pow 2 53 < unitsLimit := by decide +kernel
  refine ⟨Nat.lt_trans h limit, ?_⟩
  simp [small, Nat.mod_one]

/-- Zero with the given sign. -/
def zero (negative : Bool) : Binary64 :=
  .finite negative 0 (isMagnitude_of_lt (by decide))

instance : Inhabited Binary64 := ⟨zero false⟩

/-- The magnitude nearest to `num / den` units, before the bound of the format is applied. -/
def roundUnits (num den : Nat) : Nat :=
  let surplus := surplusBits (num / den)
  roundHalfEven num (den * Nat.pow 2 surplus) * Nat.pow 2 surplus

/-- The number of the format nearest to `num / den` units; too large a one is infinite. -/
def ofUnits (negative : Bool) (num : Nat) (den : Nat := 1) : Binary64 :=
  let units := roundUnits num den
  if h : IsMagnitude units then .finite negative units h else .infinite negative

/-- The number nearest to a whole number. -/
def ofInt (n : Int) : Binary64 :=
  ofUnits (n < 0) (n.natAbs * unitsPerOne)

/-- The exact value of a finite number, in units. -/
def toUnits? : Binary64 → Option Int
  | .finite negative units _ => some (if negative then -(units : Int) else units)
  | _ => none

/-- Whether the number is a zero of either sign. -/
def isZero : Binary64 → Bool
  | .finite _ units _ => units == 0
  | _ => false

/-- Whether the number is no number. -/
def isNan : Binary64 → Bool
  | .nan => true
  | _ => false

/-- The number with the opposite sign. -/
def neg : Binary64 → Binary64
  | .nan => .nan
  | .infinite negative => .infinite !negative
  | .finite negative units h => .finite (!negative) units h

/-- The number without its sign. -/
def abs : Binary64 → Binary64
  | .nan => .nan
  | .infinite _ => .infinite false
  | .finite _ units h => .finite false units h

/-- Strictly less; false as soon as one side is no number. -/
def lt : Binary64 → Binary64 → Bool
  | .nan, _ | _, .nan => false
  | .infinite a, .infinite b => a && !b
  | .infinite a, .finite .. => a
  | .finite .., .infinite b => !b
  | .finite a m _, .finite b n _ =>
    decide ((if a then -(m : Int) else m) < (if b then -(n : Int) else n))

/-- Less or equal; false as soon as one side is no number. -/
def le (x y : Binary64) : Bool :=
  !x.isNan && !y.isNan && !lt y x

/-- The rounded sum. -/
def add : Binary64 → Binary64 → Binary64
  | .nan, _ | _, .nan => .nan
  | .infinite a, .infinite b => if a = b then .infinite a else .nan
  | .infinite a, .finite .. => .infinite a
  | .finite .., .infinite b => .infinite b
  | .finite a m _, .finite b n _ =>
    let sum := (if a then -(m : Int) else m) + (if b then -(n : Int) else n)
    if sum = 0 then zero (a && b) else ofUnits (sum < 0) sum.natAbs

/-- The rounded difference. -/
def sub (x y : Binary64) : Binary64 := add x (neg y)

/-- The rounded product. -/
def mul : Binary64 → Binary64 → Binary64
  | .nan, _ | _, .nan => .nan
  | .infinite a, .infinite b => .infinite (a != b)
  | .infinite a, .finite b n _ => if n = 0 then .nan else .infinite (a != b)
  | .finite a m _, .infinite b => if m = 0 then .nan else .infinite (a != b)
  | .finite a m _, .finite b n _ => ofUnits (a != b) (m * n) unitsPerOne

/-- The rounded sum of a list, taken from the left and starting at zero. -/
def sum (xs : List Binary64) : Binary64 := xs.foldl add (zero false)

/-- The whole number nearest to a finite number. -/
def round? : Binary64 → Option Int
  | .finite negative units _ =>
    let n := roundHalfEven units unitsPerOne
    some (if negative then -(n : Int) else n)
  | _ => none

/-- A finite number without its fractional part. -/
def truncate? : Binary64 → Option Int
  | .finite negative units _ =>
    let n := units / unitsPerOne
    some (if negative then -(n : Int) else n)
  | _ => none

/-- The 64 bits of the number: a sign bit, eleven bits of exponent, 52 of significand.
Counting the hidden bit of a normal significand into the exponent field makes one
formula serve normal and subnormal numbers. -/
def toBits : Binary64 → Nat
  | .nan => 0x7FF8000000000000
  | .infinite negative => signBit negative + 0x7FF0000000000000
  | .finite negative units _ =>
    let surplus := surplusBits units
    signBit negative + surplus * Nat.pow 2 52 + units / Nat.pow 2 surplus
where
  /-- The leading bit. -/
  signBit (negative : Bool) : Nat := if negative then Nat.pow 2 63 else 0

/-- One. -/
def one : Binary64 := ofInt 1

end Binary64

end SwapRouter
