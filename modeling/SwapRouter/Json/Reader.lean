import SwapRouter.Json.Basic
import SwapRouter.Binary64.Numeral
import SwapRouter.Text.Encoding

/-!
# Reading JSON

A reader of one JSON value that makes up the whole of a text.  Beyond the standard it
knows the numbers `NaN`, `Infinity` and `-Infinity`; a field that is written twice keeps
its first position and its last value.

Three things can go wrong in a text: it is no JSON, a whole number has more digits than are
converted, or its lists and objects are nested deeper than there is room for, which is so
where calls may only be nested so deep.  The first of them met from the left is reported.
Bytes that are sent may be no text at all.

The mutual recursion runs on an allowance of steps.  Every step reads a character, so an
allowance above the length of the text is never used up.
-/

namespace SwapRouter.Json

/-- Why a text cannot be read. -/
inductive ReadFault where
  | malformed
  | longInteger
  /-- There is no room for the values inside a value. -/
  | tooDeep
  /-- The bytes are no text. -/
  | undecodable
  deriving DecidableEq

/-- A blank between tokens. -/
def isGap (c : Char) : Bool := c = ' ' || c = '\t' || c = '\n' || c = '\r'

/-- Drops leading blanks. -/
def skipGaps (cs : List Char) : List Char := cs.dropWhile isGap

/-! ## Texts -/

/-- The number that four hexadecimal digits write. -/
def unit? (a b c d : Char) : Option Nat := do
  let a ← Bytes.hexValue? a
  let b ← Bytes.hexValue? b
  let c ← Bytes.hexValue? c
  let d ← Bytes.hexValue? d
  return 4096 * a + 256 * b + 16 * c + d

/-- What a backslash and one letter stand for. -/
def escaped? : Char → Option Char
  | '\x22' => some '\x22'
  | '\\' => some '\\'
  | '/' => some '/'
  | 'b' => some '\x08'
  | 'f' => some '\x0c'
  | 'n' => some '\n'
  | 'r' => some '\r'
  | 't' => some '\t'
  | _ => none

/-- Reads the rest of a text up to its closing quote: the units that are escaped, and the
characters that are not.  Those read so far are kept in reverse. -/
def units? : List Char → List Nat → Option (List Nat × List Char)
  | [], _ => none
  | '\x22' :: rest, found => some (found.reverse, rest)
  | '\\' :: 'u' :: a :: b :: c :: d :: rest, found =>
    match unit? a b c d with
    | some code => units? rest (code :: found)
    | none => none
  | '\\' :: c :: rest, found =>
    match escaped? c with
    | some c => units? rest (c.toNat :: found)
    | none => none
  | c :: rest, found => if c.toNat < 32 then none else units? rest (c.toNat :: found)

/-- Reads a text behind its opening quote. -/
def text (cs : List Char) : Except ReadFault (String × List Char) :=
  match units? cs [] with
  | some (units, rest) => .ok (String.ofList (Text.ofUnits units), rest)
  | none => .error .malformed

/-! ## Numbers -/

/-- Splits off the digits of a whole number, which are `0` or start with another digit. -/
def wholeDigits : List Char → List Char × List Char
  | '0' :: rest => (['0'], rest)
  | cs => (cs.takeWhile Numeral.isAsciiDigit, cs.dropWhile Numeral.isAsciiDigit)

/-- Splits off a point with at least one digit behind it. -/
def fraction : List Char → List Char × List Char
  | '.' :: rest =>
    let digits := rest.takeWhile Numeral.isAsciiDigit
    if digits.isEmpty then ([], '.' :: rest)
    else ('.' :: digits, rest.dropWhile Numeral.isAsciiDigit)
  | cs => ([], cs)

/-- Splits off an exponent with at least one digit. -/
def exponent (cs : List Char) : List Char × List Char :=
  match cs with
  | e :: rest =>
    if e = 'e' || e = 'E' then
      let sign := rest.take 1 |>.filter fun c => c = '+' || c = '-'
      let rest := rest.drop sign.length
      let digits := rest.takeWhile Numeral.isAsciiDigit
      if digits.isEmpty then ([], cs)
      else (e :: (sign ++ digits), rest.dropWhile Numeral.isAsciiDigit)
    else ([], cs)
  | [] => ([], [])

/-- Reads a number without its sign. -/
def number (negative : Bool) (cs : List Char) : Except ReadFault (Json × List Char) :=
  let (whole, rest) := wholeDigits cs
  let (part, rest) := fraction rest
  let (power, rest) := exponent rest
  if whole.isEmpty then .error .malformed
  else if part.isEmpty && power.isEmpty then
    if whole.length ≤ Text.maxDigits then
      .ok (.int (Text.signed negative (Numeral.ofAsciiDigits whole)), rest)
    else .error .longInteger
  else match Numeral.unsigned? negative (whole ++ part ++ power) with
    | some numeral => .ok (.float numeral.toBinary64, rest)
    | none => .error .malformed

/-! ## Values -/

/-- Words that stand for a value. -/
def words : List (List Char × Json) := [
  ("null".toList, .null), ("true".toList, .bool true), ("false".toList, .bool false),
  ("NaN".toList, .float .nan), ("Infinity".toList, .float (.infinite false)),
  ("-Infinity".toList, .float (.infinite true))]

/-- Reads a value that holds no other one. -/
def scalar (cs : List Char) : Except ReadFault (Json × List Char) :=
  match words.find? fun word => word.1.isPrefixOf cs with
  | some (word, value) => .ok (value, cs.drop word.length)
  | none => match cs with
    | '\x22' :: rest => (text rest).map fun (s, rest) => (.str s, rest)
    | '-' :: rest => number true rest
    | cs => number false cs

mutual

/-- Reads a value. -/
def value : Nat → Nat → List Char → Except ReadFault (Json × List Char)
  | 0, _, _ => .error .malformed
  | _ + 1, 0, '[' :: _ => .error .tooDeep
  | _ + 1, 0, '\x7b' :: _ => .error .tooDeep
  | steps + 1, room + 1, '[' :: rest =>
    match skipGaps rest with
    | ']' :: rest => .ok (.arr [], rest)
    | cs => (items steps room cs []).map fun (found, rest) => (.arr found, rest)
  | steps + 1, room + 1, '\x7b' :: rest =>
    match skipGaps rest with
    | '\x7d' :: rest => .ok (.obj [], rest)
    | cs => (fields steps room cs []).map fun (found, rest) => (.obj found, rest)
  | _ + 1, _, cs => scalar cs

/-- Reads the items of a list up to its closing bracket; those found are kept in reverse. -/
def items : Nat → Nat → List Char → List Json → Except ReadFault (List Json × List Char)
  | 0, _, _, _ => .error .malformed
  | steps + 1, room, cs, found =>
    match value steps room cs with
    | .error fault => .error fault
    | .ok (item, rest) => match skipGaps rest with
      | ',' :: rest => items steps room (skipGaps rest) (item :: found)
      | ']' :: rest => .ok ((item :: found).reverse, rest)
      | _ => .error .malformed

/-- Reads the fields of an object up to its closing brace. -/
def fields : Nat → Nat → List Char → List (String × Json) →
    Except ReadFault (List (String × Json) × List Char)
  | 0, _, _, _ => .error .malformed
  | steps + 1, room, '\x22' :: rest, found =>
    match text rest with
    | .error fault => .error fault
    | .ok (name, rest) => match skipGaps rest with
      | ':' :: rest => match value steps room (skipGaps rest) with
        | .error fault => .error fault
        | .ok (item, rest) => match skipGaps rest with
          | ',' :: rest => fields steps room (skipGaps rest) (put found name item)
          | '\x7d' :: rest => .ok (put found name item, rest)
          | _ => .error .malformed
      | _ => .error .malformed
  | _, _, _, _ => .error .malformed

end

/-- The mark that some writers put in front of a text. -/
def byteOrderMark : Char := '\uFEFF'

/-- Reads a text that holds one value; a byte order mark is not skipped.  There may be room for
a number of levels only. -/
def read (s : String) (room : Option Nat := none) : Except ReadFault Json :=
  let cs := Text.chars s
  match value (cs.length + 1) (room.getD cs.length) (skipGaps cs) with
  | .error fault => .error fault
  | .ok (found, rest) => if (skipGaps rest).isEmpty then .ok found else .error .malformed

/-- Reads a value from the bytes in which it was sent, in the encoding that they show; a
byte order mark is skipped. -/
def readSent (bs : Bytes) (room : Option Nat := none) : Except ReadFault Json :=
  match (Text.Encoding.ofJson bs).decode? bs with
  | none => .error .undecodable
  | some s => match s.toList with
    | c :: rest => if c = byteOrderMark then read (String.ofList rest) room else read s room
    | [] => read s room

end SwapRouter.Json
