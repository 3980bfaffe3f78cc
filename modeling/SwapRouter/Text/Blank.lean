/-!
# Blanks

Three readers disagree on what a blank is, so there are three sets.  Around a numeral
stand the six blanks of ASCII and every space outside ASCII; trimming a text also
drops the four information separators of ASCII; and a decimal number is trimmed of
the characters that Unicode calls white space, which leaves those separators alone.
-/

namespace SwapRouter.Text

/-- The blanks of ASCII: tab, line feed, vertical tab, form feed, carriage return, space. -/
def isAsciiBlank (c : Char) : Bool :=
  c = ' ' || (9 ≤ c.toNat && c.toNat ≤ 13)

/-- The spaces outside ASCII. -/
def isWideBlank (c : Char) : Bool :=
  [0x85, 0xA0, 0x1680, 0x2028, 0x2029, 0x202F, 0x205F, 0x3000].contains c.toNat
    || (0x2000 ≤ c.toNat && c.toNat ≤ 0x200A)

/-- White space: what may stand around a numeral. -/
def isBlank (c : Char) : Bool :=
  isAsciiBlank c || isWideBlank c

/-- White space and the four information separators: what trimming a text drops. -/
def isTrimmed (c : Char) : Bool :=
  isBlank c || (28 ≤ c.toNat && c.toNat ≤ 31)

/-- Drops the characters of a class from both ends. -/
def trimBoth (isDropped : Char → Bool) (cs : List Char) : List Char :=
  ((cs.dropWhile isDropped).reverse.dropWhile isDropped).reverse

end SwapRouter.Text
