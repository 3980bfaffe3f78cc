import SwapRouter.Binary64.Basic
import SwapRouter.Text.Integer

/-!
# Reading decimal numerals

A decimal numeral has digits, at most one point among or beside them, and an exponent
after `e`; `inf`, `infinity` and `nan` are numerals too, in any letter case.  Its exact
value is a whole number times a power of ten, and the nearest binary64 number is found
by one rounding of that quotient.

Two dialects differ in what may stand in the text.  The *plain* dialect knows the
digits of ASCII only and drops underscores that neither double nor stand at an end; the
*wide* dialect knows the digits of every script and wants a digit on both sides of an
underscore.
-/

namespace SwapRouter

/-- The exact value that a numeral writes: `digits * 10 ^ scale`, or a value beyond numbers. -/
inductive Numeral where
  | nan
  | infinite (negative : Bool)
  | decimal (negative : Bool) (digits : Nat) (scale : Int)
  deriving DecidableEq

namespace Numeral

/-- A digit of ASCII. -/
def isAsciiDigit (c : Char) : Bool := '0' ≤ c && c ≤ '9'

/-- The value of a digit of ASCII. -/
def asciiDigit (c : Char) : Nat := c.toNat - 48

/-- The number written by digits of ASCII. -/
def ofAsciiDigits (cs : List Char) : Nat := Text.ofDigits 10 (cs.map asciiDigit)

/-- Reads an exponent that makes up the whole of a text, with its leading `e`. -/
def exponent? : List Char → Option Int
  | [] => some 0
  | e :: rest =>
    if e = 'e' || e = 'E' then
      let (negative, digits) := Text.takeSign rest
      if !digits.isEmpty && digits.all isAsciiDigit then
        some (Text.signed negative (ofAsciiDigits digits))
      else none
    else none

/-- Reads digits, point and exponent that make up the whole of a text. -/
def unsigned? (negative : Bool) (cs : List Char) : Option Numeral :=
  let whole := cs.takeWhile isAsciiDigit
  let rest := cs.dropWhile isAsciiDigit
  let (fraction, rest) := match rest with
    | '.' :: rest => (rest.takeWhile isAsciiDigit, rest.dropWhile isAsciiDigit)
    | rest => ([], rest)
  if whole.isEmpty && fraction.isEmpty then none
  else (exponent? rest).map fun e =>
    .decimal negative (ofAsciiDigits (whole ++ fraction)) (e - fraction.length)

/-- Reads a numeral of ASCII characters that makes up the whole of a text. -/
def ofAscii? (cs : List Char) : Option Numeral :=
  let (negative, body) := Text.takeSign cs
  let word := String.ofList (body.map Char.toLower)
  if word = "nan" then some .nan
  else if word = "inf" || word = "infinity" then some (.infinite negative)
  else unsigned? negative body

/-- Whether two underscores follow each other. -/
def hasDoubleUnderscore : List Char → Bool
  | '_' :: '_' :: _ => true
  | _ :: rest => hasDoubleUnderscore rest
  | [] => false

/-- Reads a numeral of the plain dialect. -/
def plain? (s : String) : Option Numeral :=
  match ofAscii? (Text.trimBoth Text.isBlank s.toList) with
  | some n => some n
  | none =>
    let cs := s.toList
    if cs.head? = some '_' || cs.getLast? = some '_' || hasDoubleUnderscore cs then none
    else ofAscii? (cs.filter (· ≠ '_'))

/-- Writes every digit as the ASCII digit of the same value; anything else outside ASCII
becomes a character that no numeral holds. -/
def foldDigit (c : Char) : Char :=
  match Text.decimalDigit? c with
  | some d => Char.ofNat (48 + d)
  | none => if c.toNat < 128 then c else '?'

/-- Drops the underscores that have a digit on both sides; another one is left in place. -/
def dropSeparators : List Char → List Char
  | a :: '_' :: b :: rest =>
    if isAsciiDigit a && isAsciiDigit b then a :: dropSeparators (b :: rest)
    else a :: '_' :: dropSeparators (b :: rest)
  | a :: rest => a :: dropSeparators rest
  | [] => []

/-- Reads a numeral of the wide dialect. -/
def wide? (s : String) : Option Numeral :=
  ofAscii? (dropSeparators ((Text.trimBoth Text.isBlank s.toList).map foldDigit))

/-- Exponents beyond this bound are decided without computing the power of ten: the
largest finite number is below `10 ^ 309` and the smallest positive one above `10 ^ (-324)`. -/
def scaleBound : Int := 400

/-- The binary64 number nearest to a numeral. -/
def toBinary64 : Numeral → Binary64
  | .nan => .nan
  | .infinite negative => .infinite negative
  | .decimal negative digits scale =>
    let magnitude := scale + ((Nat.toDigits 10 digits).length : Int)
    if digits = 0 || magnitude < -scaleBound then .zero negative
    else if scaleBound < magnitude then .infinite negative
    else if 0 ≤ scale then
      .ofUnits negative (digits * Nat.pow 10 scale.toNat * unitsPerOne)
    else
      .ofUnits negative (digits * unitsPerOne) (Nat.pow 10 (-scale).toNat)

end Numeral

end SwapRouter
