import SwapRouter.Binary64.Numeral

/-!
# The shortest decimal that reads back

A binary64 number is written with the fewest decimal digits that still read back as the
same number, and among those with the nearest to it.

All reals between two midpoints round to the same number; the midpoints themselves do
so exactly when the significand is even.  For one digit, two digits and so on the two
neighbours of the number on that decimal grid are tested, in whole numbers, and the
first grid with a hit gives the digits.  Seventeen digits always suffice.

How the digits are laid out is a decision of the format, and `layout` holds it in one
place: positional between `10 ^ (-4)` and `10 ^ 16`, with an exponent of two digits and
a sign elsewhere, and never without a mark that the number is no integer.
-/

namespace SwapRouter

namespace Binary64

/-- The reals that round to a number, in quarters of a unit, and whether the ends belong. -/
structure Basin where
  /-- The number itself. -/
  center : Nat
  /-- The midpoint below. -/
  least : Nat
  /-- The midpoint above. -/
  greatest : Nat
  /-- Whether the midpoints round to the number. -/
  isClosed : Bool

/-- The basin of a positive magnitude.  Below a power of two the spacing is halved. -/
def basin (units : Nat) : Basin :=
  let surplus := surplusBits units
  let spacing := Nat.pow 2 surplus
  let significand := units / spacing
  let below := if significand = Nat.pow 2 52 && surplus ≠ 0 then spacing else 2 * spacing
  { center := 4 * units
    least := 4 * units - below
    greatest := 4 * units + 2 * spacing
    isClosed := significand % 2 = 0 }

/-- Whether `num / den` quarter units lie in a basin. -/
def Basin.holds (b : Basin) (num den : Nat) : Bool :=
  if b.isClosed then b.least * den ≤ num && num ≤ b.greatest * den
  else b.least * den < num && num < b.greatest * den

/-- The power of ten just above a positive magnitude: the least `k ≤ start` from which
`10 ^ (k - 1)` is not above it. -/
def decimalPoint (units : Nat) : Nat → Int → Int
  | 0, k => k
  | steps + 1, k =>
    let reached :=
      if 1 ≤ k then Nat.pow 10 (k - 1).toNat * unitsPerOne ≤ units
      else unitsPerOne ≤ units * Nat.pow 10 (1 - k).toNat
    if reached then k else decimalPoint units steps (k - 1)

/-- The number of the grid of `n` digits that is nearest to the center of a basin and lies
in it, with the decimal point at `point`. -/
def nearestOnGrid? (b : Basin) (point : Int) (n : Nat) : Option Nat :=
  let scale := point - n
  let up := Nat.pow 10 scale.toNat
  let down := Nat.pow 10 (-scale).toNat
  let grid (d : Nat) : Nat := d * up * 4 * unitsPerOne
  let below := b.center * down / (up * 4 * unitsPerOne)
  let above := below + 1
  match b.holds (grid below) down && below ≠ 0, b.holds (grid above) down with
  | true, true =>
    let toBelow := b.center * down - grid below
    let toAbove := grid above - b.center * down
    if toBelow < toAbove || (toBelow = toAbove && below % 2 = 0) then some below else some above
  | true, false => some below
  | false, true => some above
  | false, false => none

/-- Tests the grids of `n`, `n + 1`, … digits. -/
def firstGrid (b : Basin) (point : Int) : Nat → Nat → Nat × Int
  | 0, n => (b.center, point - n)
  | steps + 1, n =>
    match nearestOnGrid? b point n with
    | some digits => (digits, point - n)
    | none => firstGrid b point steps (n + 1)

/-- Moves trailing zeros of the digits into the scale. -/
def dropZeros : Nat → Nat → Int → Nat × Int
  | 0, digits, scale => (digits, scale)
  | steps + 1, digits, scale =>
    if digits ≠ 0 && digits % 10 = 0 then dropZeros steps (digits / 10) (scale + 1)
    else (digits, scale)

/-- The shortest decimal of a magnitude, as digits and scale. -/
def shortest (units : Nat) : Nat × Int :=
  if units = 0 then (0, 0)
  else
    let point := decimalPoint units 640 310
    let (digits, scale) := firstGrid (basin units) point 17 1
    dropZeros 20 digits scale

/-- How the digits of a number are laid out. -/
structure Layout where
  /-- The least decimal point that is written positionally. -/
  leastPoint : Int
  /-- The greatest decimal point that is written positionally. -/
  greatestPoint : Int
  /-- What ends a positional number without a fraction. -/
  wholeTail : List Char
  /-- What stands before the exponent. -/
  exponentMark : Char
  /-- The least number of digits of an exponent. -/
  exponentWidth : Nat

/-- The layout in use. -/
def layout : Layout := ⟨-3, 16, ['.', '0'], 'e', 2⟩

/-- Pads a list of digits with zeros on the left. -/
def padLeft (width : Nat) (cs : List Char) : List Char :=
  List.replicate (width - cs.length) '0' ++ cs

/-- Lays out digits whose decimal point stands after the first `point` of them. -/
def Layout.write (l : Layout) (digits : List Char) (point : Int) : List Char :=
  if l.leastPoint ≤ point && point ≤ l.greatestPoint then
    if point ≤ 0 then '0' :: '.' :: (List.replicate (-point).toNat '0' ++ digits)
    else if (digits.length : Int) ≤ point then
      digits ++ List.replicate (point.toNat - digits.length) '0' ++ l.wholeTail
    else digits.take point.toNat ++ '.' :: digits.drop point.toNat
  else
    let exponent := point - 1
    let fraction := match digits.drop 1 with
      | [] => []
      | rest => '.' :: rest
    digits.take 1 ++ fraction ++ l.exponentMark :: (if exponent < 0 then '-' else '+')
      :: padLeft l.exponentWidth (Nat.toDigits 10 exponent.natAbs)

/-- The text of a number. -/
def toText : Binary64 → String
  | .nan => "nan"
  | .infinite negative => if negative then "-inf" else "inf"
  | .finite negative units _ =>
    let (digits, scale) := shortest units
    let written := Nat.toDigits 10 digits
    let body := layout.write written (scale + written.length)
    String.ofList (if negative then '-' :: body else body)

end Binary64

end SwapRouter
