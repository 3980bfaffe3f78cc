import SwapRouter.Text.Blank
import SwapRouter.Text.Digit

/-!
# Integer numerals

An integer may be written with the digits of any script, with a sign, with single
underscores between its digits, and with blanks around it.  A hexadecimal numeral
starts with `0x`, and one underscore may follow that mark.

The reader of a decimal numeral refuses more than `maxDigits` digits: converting a
longer one would take time quadratic in its length.
-/

namespace SwapRouter.Text

/-- The longest decimal numeral that is read or written, in digits. -/
def maxDigits : Nat := 4300

/-- The value of a hexadecimal digit: a decimal digit of any script or an ASCII letter. -/
def hexDigit? (c : Char) : Option Nat :=
  match decimalDigit? c with
  | some d => some d
  | none =>
    if 'a' ≤ c && c ≤ 'f' then some (c.toNat - 87)
    else if 'A' ≤ c && c ≤ 'F' then some (c.toNat - 55)
    else none

/-- Reads digits that may have one underscore between neighbours. -/
def separatedDigits? (digit? : Char → Option Nat) : List Char → Option (List Nat)
  | [] => none
  | [c] => (digit? c).map ([·])
  | c :: '_' :: rest => do
    let d ← digit? c
    let ds ← separatedDigits? digit? rest
    return d :: ds
  | c :: rest => do
    let d ← digit? c
    let ds ← separatedDigits? digit? rest
    return d :: ds

/-- The number written by a list of digits, the first one weighing most. -/
def ofDigits (base : Nat) (digits : List Nat) : Nat :=
  digits.foldl (fun n d => base * n + d) 0

/-- Splits a sign off: whether the number is negative, and the rest. -/
def takeSign : List Char → Bool × List Char
  | '-' :: rest => (true, rest)
  | '+' :: rest => (false, rest)
  | cs => (false, cs)

/-- Gives a magnitude its sign. -/
def signed (negative : Bool) (n : Nat) : Int :=
  if negative then -(n : Int) else n

/-- Reads a decimal integer. -/
def decimalInteger? (s : String) : Option Int := do
  let (negative, body) := takeSign (trimBoth isBlank s.toList)
  let digits ← separatedDigits? decimalDigit? body
  if digits.length ≤ maxDigits then return signed negative (ofDigits 10 digits) else none

/-- Reads a hexadecimal numeral that starts with `0x`. -/
def hexNumeral? (cs : List Char) : Option Nat :=
  match trimBoth isBlank cs with
  | '0' :: x :: rest =>
    if x = 'x' || x = 'X' then
      let body := match rest with
        | '_' :: body => body
        | body => body
      (separatedDigits? hexDigit? body).map (ofDigits 16)
    else none
  | _ => none

end SwapRouter.Text
