import SwapRouter.Text.Label
import SwapRouter.Text.Script
import SwapRouter.Url.Punycode

/-!
# Domain names in many scripts

A host may be named in any script.  Its name is carried in ASCII: every label with other
characters is written in letters of ASCII behind `xn--`.  `DomainName.encode?` does so for
a name in lower case, and knows no form for a name that breaks one of the rules:

* a label is composed, does not start with a mark, and has no hyphen at its ends or at its
  third and fourth place;
* every character may stand in a label, some of them only in certain company;
* a label that runs from right to left has no letters of the other direction, ends with a
  letter or a digit, and has digits of one kind;
* a label has at most 63 characters in ASCII and the whole name at most 253.
-/

namespace SwapRouter.Url.DomainName

open Text

/-! ## Characters in company -/

/-- Whether the nearest character that is no plain mark lies in some ranges. -/
def reaches (ranges : List (Nat × Nat)) (cs : List Char) : Bool :=
  match cs.dropWhile fun c => direction c = .mark with
  | c :: _ => isWithin ranges c
  | [] => false

/-- Whether the character in front, if there is one, leaves a vowel out. -/
def isBehindVirama (before : List Char) : Bool :=
  before.head?.any fun c => combiningClass c = viramaClass

/-- Whether a character may stand where it does; `before` is what stands in front of it in
reverse. -/
def isAllowedIn (label before : List Char) (c : Char) (after : List Char) : Bool :=
  if isLabelChar c then true
  else match c.toNat with
    | 0x200C =>
      isBehindVirama before || (reaches joiningRanges before && reaches joinedRanges after)
    | 0x200D => isBehindVirama before
    | 0xB7 => before.head? = some 'l' && after.head? = some 'l'
    | 0x375 => after.head?.any (isWithin greekRanges)
    | 0x5F3 | 0x5F4 => before.head?.any (isWithin hebrewRanges)
    | 0x30FB => label.any (isWithin japaneseRanges)
    | _ =>
      if isWithin [(0x660, 0x669)] c then !label.any (isWithin [(0x6F0, 0x6F9)])
      else if isWithin [(0x6F0, 0x6F9)] c then !label.any (isWithin [(0x660, 0x669)])
      else false

/-- Whether every character of a label may stand where it does. -/
def areAllowedIn (label : List Char) : List Char → List Char → Bool
  | _, [] => true
  | before, c :: after => isAllowedIn label before c after && areAllowedIn label (c :: before) after

/-! ## Directions -/

/-- Whether characters end with one of some directions, plain marks aside. -/
def endsWith (directions : List Direction) (ds : List Direction) : Bool :=
  match ds.reverse.dropWhile (· = .mark) with
  | d :: _ => directions.contains d
  | [] => false

/-- Whether the directions of a label agree.  A label without characters that run from
right to left is free. -/
def isDirected (label : List Char) : Bool :=
  let ds := label.map direction
  if ds.all fun d => d ≠ .rightToLeft && d ≠ .arabicNumber then true
  else ds.head? = some .rightToLeft && !ds.contains .leftToRight
    && endsWith [.rightToLeft, .europeanNumber, .arabicNumber] ds
    && !(ds.contains .arabicNumber && ds.contains .europeanNumber)

/-! ## Labels and names -/

/-- Whether a label keeps the rules. -/
def isLabel (label : List Char) : Bool :=
  match label with
  | [] => false
  | first :: _ =>
    isComposed label && first ≠ '-' && label.getLast? ≠ some '-'
      && (label.drop 2).take 2 ≠ ['-', '-'] && (mark? first).isNone
      && areAllowedIn label [] label && isDirected label

/-- What stands in front of a label that is written in letters of ASCII. -/
def mark : List Char := "xn--".toList

/-- The greatest length of a label. -/
def maxLabel : Nat := 63

/-- The greatest length of a name, not counting a dot at its end. -/
def maxName : Nat := 253

/-- A label in ASCII. -/
def encodeLabel? (label : List Char) : Option (List Char) :=
  if label.all fun c => c.toNat < 0x80 then
    let isKept := match mark.isPrefixOf label, label.drop mark.length with
      | true, written =>
        written ≠ [] && written.getLast? ≠ some '-' && (Punycode.decode? written).any isLabel
      | false, _ => isLabel label
    if isKept && label.length ≤ maxLabel then some label else none
  else if isLabel label then
    let written := mark ++ Punycode.encode label
    if written.length ≤ maxLabel then some written else none
  else none

/-- The dots between labels. -/
def isDot (c : Char) : Bool :=
  c = '.' || c = '\u3002' || c = '\uFF0E' || c = '\uFF61'

/-- A name in ASCII; a dot at its end is kept. -/
def encode? (name : List Char) : Option (List Char) := do
  let labels := name.splitOnP isDot
  let isEnded := labels.getLast? = some [] && labels.length ≠ 1
  let labels := if isEnded then labels.dropLast else labels
  let written ← labels.mapM encodeLabel?
  let joined := (written.intersperse ['.']).flatten
  if joined.length ≤ maxName then some (if isEnded then joined ++ ['.'] else joined) else none

end SwapRouter.Url.DomainName
