import SwapRouter.Json.Basic

/-!
# Writing JSON

A value is written in ASCII: every other character is escaped by its UTF-16 units.  The
layout is either one line or one item a line, each level indented by a fixed width.
-/

namespace SwapRouter.Json

/-- How values are laid out: on one line, or indented by a number of spaces for each level. -/
inductive Layout where
  | inline
  | indented (width : Nat)

/-- A UTF-16 unit as an escape. -/
def unitEscape (code : Nat) : List Char := '\\' :: 'u' :: Text.hexField 4 code

/-- A character that is no half. -/
def writeChar (c : Char) : List Char :=
  if c = '\x22' || c = '\\' then ['\\', c]
  else if c = '\n' then ['\\', 'n']
  else if c = '\r' then ['\\', 'r']
  else if c = '\t' then ['\\', 't']
  else if c = '\x0c' then ['\\', 'f']
  else if c = '\x08' then ['\\', 'b']
  else if ' ' ≤ c && c ≤ '~' then [c]
  else if c.toNat < 0x10000 then unitEscape c.toNat
  else
    let code := c.toNat - 0x10000
    unitEscape (0xD800 + code / 1024) ++ unitEscape (0xDC00 + code % 1024)

/-- A letter of a text. -/
def writeLetter (l : Text.Letter) : List Char :=
  match l.half? with
  | some code => unitEscape code
  | none => writeChar l.char

/-- A text between quotes. -/
def writeText (s : String) : List Char :=
  '\x22' :: (Text.letters s).flatMap writeLetter ++ ['\x22']

/-- A binary64 number. -/
def writeFloat : Binary64 → List Char
  | .nan => "NaN".toList
  | .infinite negative => (if negative then "-Infinity" else "Infinity").toList
  | x => x.toText.toList

/-- What stands in front of an item at a level. -/
def Layout.lineStart (layout : Layout) (level : Nat) : List Char :=
  match layout with
  | .inline => []
  | .indented width => '\n' :: List.replicate (width * level) ' '

/-- What stands between two items at a level. -/
def Layout.separator (layout : Layout) (level : Nat) : List Char :=
  match layout with
  | .inline => [',', ' ']
  | .indented _ => ',' :: layout.lineStart level

mutual

/-- Writes a value at a level. -/
def write (layout : Layout) (level : Nat) : Json → List Char
  | .null => "null".toList
  | .bool value => (if value then "true" else "false").toList
  | .int value => (toString value).toList
  | .float value => writeFloat value
  | .str text => writeText text
  | .arr [] => ['[', ']']
  | .arr (item :: items) =>
    '[' :: layout.lineStart (level + 1) ++ write layout (level + 1) item
      ++ writeItems layout (level + 1) items ++ layout.lineStart level ++ [']']
  | .obj [] => ['\x7b', '\x7d']
  | .obj ((name, value) :: fields) =>
    '\x7b' :: layout.lineStart (level + 1) ++ writeText name ++ [':', ' ']
      ++ write layout (level + 1) value
      ++ writeFields layout (level + 1) fields ++ layout.lineStart level ++ ['\x7d']

/-- Writes the items of a list behind the first one. -/
def writeItems (layout : Layout) (level : Nat) : List Json → List Char
  | [] => []
  | item :: items =>
    layout.separator level ++ write layout level item ++ writeItems layout level items

/-- Writes the fields of an object behind the first one. -/
def writeFields (layout : Layout) (level : Nat) : List (String × Json) → List Char
  | [] => []
  | (name, value) :: fields =>
    layout.separator level ++ writeText name ++ [':', ' '] ++ write layout level value
      ++ writeFields layout level fields

end

/-- The text of a value. -/
def toText (layout : Layout) (j : Json) : String := String.ofList (write layout 0 j)

end SwapRouter.Json
