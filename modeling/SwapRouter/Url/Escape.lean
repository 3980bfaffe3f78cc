import SwapRouter.Text.Encoding

/-!
# Escapes in addresses

A character that may not stand in a part of an address is written as its UTF-8 bytes, each
behind a percent sign in two digits of base 16.  A percent sign itself stays, so that
what is escaped already is not escaped again.
-/

namespace SwapRouter.Url

/-- A hexadecimal digit in upper case. -/
def escapeDigit (n : Nat) : Char :=
  if n < 10 then Char.ofNat (48 + n) else Char.ofNat (55 + n)

/-- A byte as an escape. -/
def escapeByte (b : UInt8) : List Char :=
  ['%', escapeDigit (b.toNat / 16), escapeDigit (b.toNat % 16)]

/-- Escapes the characters that are not allowed. -/
def escape (isAllowed : Char → Bool) (cs : List Char) : List Char :=
  cs.flatMap fun c =>
    if isAllowed c then [c] else (Text.utf8Bytes (String.singleton c)).flatMap escapeByte

/-- The bytes of an escaped text. -/
def unescapedBytes : List Char → Bytes
  | '%' :: a :: b :: rest => match Bytes.hexValue? a, Bytes.hexValue? b with
    | some x, some y => UInt8.ofNat (16 * x + y) :: unescapedBytes rest
    | _, _ => '%'.toNat.toUInt8 :: unescapedBytes (a :: b :: rest)
  | c :: rest => Text.utf8Bytes (String.singleton c) ++ unescapedBytes rest
  | [] => []

/-- The text behind the escapes; bytes that are no text are replaced. -/
def unescape (s : String) : String := Text.lenient (unescapedBytes s.toList)

/-! ## What may stand where -/

/-- A letter or digit of ASCII, or a mark that never needs an escape. -/
def isUnreserved (c : Char) : Bool := c.isAlphanum || c = '-' || c = '.' || c = '_' || c = '~'

/-- What may stand in a part of an address: the visible characters of ASCII without
those listed. -/
def isVisibleBut (excluded : List Char) (c : Char) : Bool :=
  ' ' < c && c ≤ '~' && !excluded.contains c

/-- What may not stand in a query. -/
def notInQuery : List Char := ['\x22', '#', '<', '>']

/-- What may not stand in a path. -/
def notInPath : List Char := notInQuery ++ ['?', '`', '\x7b', '\x7d']

/-- What may not stand in a fragment. -/
def notInFragment : List Char := ['\x22', '<', '>', '`']

/-- What may not stand in front of a host. -/
def notInUser : List Char := notInPath ++ ['/', ';', '=', '@', '[', '\\', ']', '^', '|']

/-- What may stand in a host that is written in ASCII. -/
def isHostChar (c : Char) : Bool :=
  isUnreserved c || "!$&'()*+,;=\"`\x7b\x7d%|\\".toList.contains c

end SwapRouter.Url
