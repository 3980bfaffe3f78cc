import SwapRouter.Bytes
import SwapRouter.Text.Half

/-!
# Bytes of a text

A text is sent as bytes in UTF-8, UTF-16 or UTF-32.  JSON starts with two characters of
ASCII, so the zeros among its first four bytes tell in which of them it is written, unless
a byte order mark does: `Encoding.ofJson` looks for them, and `Encoding.decode?` reads the
bytes.

`lenient` reads bytes that may not be UTF-8.  Whatever cannot be read becomes a
replacement character, one for each longest piece that a valid character starts with.
-/

namespace SwapRouter.Text

/-- How a text is written in bytes. -/
inductive Encoding where
  | utf8
  | utf16 (isBigEndian : Bool)
  | utf32 (isBigEndian : Bool)
  deriving DecidableEq, Repr

/-- What stands for bytes that cannot be read. -/
def replacement : Char := '\uFFFD'

/-! ## UTF-8 -/

/-- How many bytes follow a first byte, which of its bits count, and between which bounds
the second byte must lie. -/
def leadOf (b : UInt8) : Option (Nat × Nat × Nat × Nat) :=
  let n := b.toNat
  if 0xC2 ≤ n ∧ n < 0xE0 then some (1, n - 0xC0, 0x80, 0xBF)
  else if n = 0xE0 then some (2, 0, 0xA0, 0xBF)
  else if n = 0xED then some (2, 0xD, 0x80, 0x9F)
  else if 0xE1 ≤ n ∧ n < 0xF0 then some (2, n - 0xE0, 0x80, 0xBF)
  else if n = 0xF0 then some (3, 0, 0x90, 0xBF)
  else if n = 0xF4 then some (3, 4, 0x80, 0x8F)
  else if 0xF1 ≤ n ∧ n < 0xF4 then some (3, n - 0xF0, 0x80, 0xBF)
  else none

/-- Reads the bytes that follow a first byte: the code point if all of them are there, and
how many are. -/
def follow : Nat → Nat → Nat → Nat → Bytes → Option Nat × Nat
  | 0, code, _, _, _ => (some code, 0)
  | _ + 1, _, _, _, [] => (none, 0)
  | more + 1, code, low, high, b :: bs =>
    if low ≤ b.toNat ∧ b.toNat ≤ high then
      let (found, count) := follow more (code * 64 + b.toNat % 64) 0x80 0xBF bs
      (found, count + 1)
    else (none, 0)

/-- Reads bytes as UTF-8, with replacements; as many steps as bytes are enough. -/
def lenientChars : Nat → Bytes → List Char
  | 0, _ => []
  | _, [] => []
  | steps + 1, b :: bs =>
    if b < 0x80 then Char.ofNat b.toNat :: lenientChars steps bs
    else match leadOf b with
      | none => replacement :: lenientChars steps bs
      | some (more, code, low, high) =>
        let (found, count) := follow more code low high bs
        (found.map Char.ofNat).getD replacement :: lenientChars steps (bs.drop count)

/-- Reads bytes as UTF-8, with replacements. -/
def lenient (bs : Bytes) : String := ofChars (lenientChars bs.length bs)

/-- The UTF-8 bytes of a text without halves. -/
def utf8Bytes (s : String) : Bytes := (plainChars s).flatMap String.utf8EncodeChar

/-! ## Wider units -/

/-- Cuts bytes into numbers of a width; nothing if the last one is incomplete. -/
def units? (isBigEndian : Bool) (width : Nat) : Nat → Bytes → Option (List Nat)
  | 0, bs => if bs.isEmpty then some [] else none
  | steps + 1, bs =>
    if bs.isEmpty then some []
    else if bs.length < width then none
    else
      let unit := if isBigEndian then bs.take width else (bs.take width).reverse
      (units? isBigEndian width steps (bs.drop width)).map (Bytes.toNat unit :: ·)

/-- The greatest code point. -/
def maxCode : Nat := 0x10FFFF

namespace Encoding

/-- Reads bytes as a text; lone halves of pairs are kept.  Here UTF-8 is read with
replacements. -/
def decode? : Encoding → Bytes → Option String
  | .utf8, bs => some (lenient bs)
  | .utf16 isBigEndian, bs =>
    (units? isBigEndian 2 bs.length bs).map fun units => String.ofList (ofUnits units)
  | .utf32 isBigEndian, bs =>
    match units? isBigEndian 4 bs.length bs with
    | some codes =>
      if codes.all (· ≤ maxCode) then some (ofCodes (codes.map (Fin.ofNat 0x110000))) else none
    | none => none

/-- The encoding of JSON, from a byte order mark or the zeros among its first bytes. -/
def ofJson : Bytes → Encoding
  | 0x00 :: 0x00 :: 0xFE :: 0xFF :: _ => .utf32 true
  | 0xFF :: 0xFE :: 0x00 :: 0x00 :: _ => .utf32 false
  | 0xFE :: 0xFF :: _ => .utf16 true
  | 0xFF :: 0xFE :: _ => .utf16 false
  | a :: b :: c :: d :: _ =>
    if a = 0 then (if b = 0 then .utf32 true else .utf16 true)
    else if b = 0 then (if c = 0 ∧ d = 0 then .utf32 false else .utf16 false)
    else .utf8
  | [a, b] => if a = 0 then .utf16 true else if b = 0 then .utf16 false else .utf8
  | _ => .utf8

end Encoding

end SwapRouter.Text
