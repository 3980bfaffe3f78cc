import SwapRouter.Error
import SwapRouter.Keccak
import SwapRouter.Text.Case
import SwapRouter.Text.Integer

/-!
# Addresses

An address is kept as it is written, and two readings of it exist.  The *lenient* one,
`IsWellFormed`, wants `0x` and a hexadecimal numeral that fills 42 characters; since a
numeral may hold underscores, digits of other scripts and trailing blanks, not every
text that passes has 20 bytes.  The *strict* one wants 40 digits of ASCII.

Addresses are compared by their normal form, which is in lower case.
-/

namespace SwapRouter

/-- An address as it is written. -/
structure Address where
  text : String
  deriving DecidableEq, Repr, Inhabited

namespace Address

/-- Whether a text starts with `0x` and is a hexadecimal numeral of 42 characters. -/
def isWellFormed (a : Address) : Bool :=
  let cs := Text.chars a.text
  match cs with
  | '0' :: x :: _ => (x = 'x' || x = 'X') && cs.length = 42 && (Text.hexNumeral? cs).isSome
  | _ => false

/-- The lower case form, with `0x` in front. -/
def normal (a : Address) : Address :=
  let lower := Text.lowercase a.text
  ⟨if "0x".toList.isPrefixOf (Text.chars lower) then lower else "0x" ++ lower⟩

/-- The normal form of a well-formed address. -/
def checked (a : Address) : Except ValueFault Address :=
  if a.isWellFormed then .ok a.normal else .error (.notAddress a.text)

/-- The normal form of an address that is well formed once it is normal. -/
def normalChecked (a : Address) : Except ValueFault Address :=
  if a.normal.isWellFormed then .ok a.normal else .error (.notAddress a.text)

/-- The bytes behind the `0x` of an address that passed the lenient reading.  A numeral
with underscores or digits of other scripts is a defect, and blanks shorten the result. -/
def wellFormedBytes (a : Address) : Except Failure Bytes :=
  match Bytes.spacedPairs? ((Text.chars a.text).drop 2) with
  | some bs => .ok bs
  | none => .error .defect

/-- The bytes of an address; one that is not well formed is refused as a value. -/
def toBytes (a : Address) : Except Failure Bytes :=
  if a.isWellFormed then a.wellFormedBytes else .error (.value (.notAddress a.text))

/-- The bytes of an address that stands in a field of the data; the reason of a refusal
names the field. -/
def fieldBytes (a : Address) (field : String) : Except Failure Bytes :=
  if a.isWellFormed then a.wellFormedBytes
  else .error (.encoding (.invalidAddress field a.text))

/-- The 20 bytes of an address under the strict reading. -/
def strictBytes? (a : Address) : Option Bytes :=
  let digits := Bytes.dropMark (Text.chars a.text)
  if digits.length = 40 then Bytes.pairs? digits else none

/-- Writes a digit of an address in upper case if the matching digit of the hash is at
least eight. -/
def checksumDigit (digit : Char) (hashDigit : Nat) : Char :=
  if 8 ≤ hashDigit then digit.toUpper else digit

/-- The form in mixed case whose capitals are a checksum of the address. -/
def checksummed (bs : Bytes) : String :=
  let digits := Bytes.digits bs
  let hash := Keccak.hash (digits.map fun c => c.toNat.toUInt8)
  let hashDigits := hash.flatMap fun b => [b.toNat / 16, b.toNat % 16]
  String.ofList ('0' :: 'x' :: List.zipWith checksumDigit digits hashDigits)

/-- The address of 20 bytes. -/
def ofBytes (bs : Bytes) : Address := ⟨bs.toHex⟩

/-- The address that stands for the native coin. -/
def native : Address := ⟨"0x0000000000000000000000000000000000000000"⟩

end Address

end SwapRouter
