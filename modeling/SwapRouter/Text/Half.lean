import SwapRouter.Text.Ascii

/-!
# Halves of surrogate pairs

JSON may name a half of a surrogate pair alone.  It is no character, but a text that
holds one is kept and written back as it was.  A half is therefore kept as the character
that lies `halfOffset` above it, deep in a private area.  Where such a character stands for
itself it has a `mark` in front, and so has the mark where it stands for itself.

The *letters* of a text are its characters with the marks taken off, halves among them.  A
text with a half has no UTF-8 form, so whatever needs the bytes of a text has to ask
`hasHalf` first.
-/

namespace SwapRouter.Text

/-- Whether a code point is the first half of a pair. -/
def isHighHalf (code : Nat) : Bool := 0xD800 ≤ code && code < 0xDC00

/-- Whether a code point is the second half of a pair. -/
def isLowHalf (code : Nat) : Bool := 0xDC00 ≤ code && code < 0xE000

/-- The code point that a pair of halves stands for. -/
def joinHalves (high low : Nat) : Nat := 0x10000 + (high - 0xD800) * 1024 + (low - 0xDC00)

/-- How far above a half the character lies as which it is kept. -/
def halfOffset : Nat := 0x100000

/-- The half as which a character is kept, if it is one. -/
def half? (c : Char) : Option Nat :=
  if isHighHalf (c.toNat - halfOffset) || isLowHalf (c.toNat - halfOffset) then
    some (c.toNat - halfOffset)
  else none

/-! ## What is kept -/

/-- Says of the character behind it that it stands for itself: the last character of all. -/
def mark : Char := Char.ofNat 0x10FFFF

/-- A character that stands for itself. -/
def ofChar (c : Char) : List Char := if c = mark || (half? c).isSome then [mark, c] else [c]

/-- The text of characters that stand for themselves. -/
def ofChars (cs : List Char) : String := String.ofList (cs.flatMap ofChar)

/-- The character as which a UTF-16 unit is kept that is not joined with a neighbour. -/
def ofUnit (code : Nat) : Char :=
  if isHighHalf code || isLowHalf code then Char.ofNat (halfOffset + code) else Char.ofNat code

/-- The zero is the one that `Fin.ofNat` is stated with. -/
instance neZeroCodes : @NeZero Nat Zero.ofOfNat0 0x110000 := ⟨Nat.succ_ne_zero 0x10FFFF⟩

/-- A code point: of a character, or of a half. -/
abbrev CodePoint := Fin 0x110000

/-- What is kept of a code point. -/
def ofCode (code : CodePoint) : List Char :=
  if isHighHalf code || isLowHalf code then [ofUnit code] else ofChar (Char.ofNat code)

/-- The text of code points.  Halves that stand side by side are not joined. -/
def ofCodes (codes : List CodePoint) : String := String.ofList (codes.flatMap ofCode)

/-- What is kept of UTF-16 units, of which pairs of halves are joined.  Characters that are
kept already may stand among them. -/
def ofUnits : List Nat → List Char
  | high :: low :: rest =>
    if isHighHalf high && isLowHalf low then
      ofChar (Char.ofNat (joinHalves high low)) ++ ofUnits rest
    else ofUnit high :: ofUnits (low :: rest)
  | [code] => [ofUnit code]
  | [] => []

/-! ## Letters -/

/-- A letter of a text: a character, which may have a mark in front. -/
structure Letter where
  isMarked : Bool := false
  char : Char
  deriving DecidableEq

namespace Letter

/-- The half that a letter is, if it is one. -/
def half? (l : Letter) : Option Nat := if l.isMarked then none else Text.half? l.char

/-- The code point of a letter. -/
def code (l : Letter) : CodePoint := Fin.ofNat 0x110000 (l.half?.getD l.char.toNat)

/-- The characters as which a letter is kept. -/
def chars (l : Letter) : List Char := if l.isMarked then [mark, l.char] else [l.char]

end Letter

/-- The letters of what is kept. -/
def lettersOf : List Char → List Letter
  | [] => []
  | [c] => [{ char := c }]
  | c :: d :: rest =>
    if c = mark then { isMarked := true, char := d } :: lettersOf rest
    else { char := c } :: lettersOf (d :: rest)

/-- The letters of a text. -/
def letters (s : String) : List Letter := lettersOf (chars s)

/-- The code points of a text. -/
def codes (s : String) : List CodePoint := (letters s).map Letter.code

/-- The characters of a text without halves. -/
def plainChars (s : String) : List Char := (letters s).map Letter.char

/-- Whether a text holds a half without its partner. -/
def hasHalf (s : String) : Bool := (letters s).any fun l => l.half?.isSome

/-- A letter, or a replacement for every byte that a half would take. -/
def Letter.replaced (l : Letter) : List Char :=
  if l.half?.isSome then List.replicate 3 '\uFFFD' else l.chars

/-- A text with replacements for its halves. -/
def withoutHalves (s : String) : String := String.ofList ((letters s).flatMap Letter.replaced)

/-- Whether a text stands in front of another one in the order of code points, or is the same. -/
def isInFront (a b : String) : Bool := !(codes b).lex (codes a)

/-- Texts in the order of their code points. -/
def sorted (texts : List String) : List String := texts.mergeSort isInFront

/-- A character other than the mark is a letter. -/
theorem lettersOf_cons {c : Char} (h : c ≠ mark) (cs : List Char) :
    lettersOf (c :: cs) = { char := c } :: lettersOf cs := by
  cases cs with
  | nil => rfl
  | cons d rest => rw [lettersOf, if_neg h]

/-- A mark makes a letter of the character behind it. -/
theorem lettersOf_mark (c : Char) (cs : List Char) :
    lettersOf (mark :: c :: cs) = { isMarked := true, char := c } :: lettersOf cs := by
  rw [lettersOf, if_pos rfl]

/-- Without marks, every character is a letter. -/
theorem lettersOf_eq_map {cs : List Char} (h : mark ∉ cs) :
    lettersOf cs = cs.map fun c => { char := c } := by
  induction cs with
  | nil => rfl
  | cons c cs ih =>
    have hc : c ≠ mark := fun e => h (e ▸ List.mem_cons_self)
    rw [lettersOf_cons hc, ih fun hmem => h (List.mem_cons_of_mem c hmem), List.map_cons]

theorem length_letters {s : String} (h : mark ∉ s.toList) :
    (letters s).length = s.toList.length := by
  rw [letters, chars_eq, lettersOf_eq_map h, List.length_map]

/-- The letters hold all that is kept. -/
theorem flatMap_chars_lettersOf (cs : List Char) : (lettersOf cs).flatMap Letter.chars = cs := by
  fun_induction lettersOf cs with
  | case1 => rfl
  | case2 c => rfl
  | case3 d rest ih => rw [List.flatMap_cons, ih]; rfl
  | case4 c d rest _ ih => rw [List.flatMap_cons, ih]; rfl

/-- A character that stands for itself is one letter. -/
theorem lettersOf_ofChar_append (c : Char) (cs : List Char) :
    ∃ l : Letter, lettersOf (ofChar c ++ cs) = l :: lettersOf cs ∧ l.char = c ∧ l.half? = none ∧
      l.chars = ofChar c := by
  rw [ofChar]
  split
  next => exact ⟨_, lettersOf_mark c cs, rfl, rfl, rfl⟩
  next h =>
    rw [Bool.or_eq_true, decide_eq_true_eq, not_or] at h
    exact ⟨_, lettersOf_cons h.1 cs, rfl, by simpa [Letter.half?] using h.2, rfl⟩

/-- A character other than the mark, in front of what is kept of characters, is the first of them. -/
theorem exists_cons_of_flatMap_ofChar {cs rest : List Char} {c : Char} (hc : c ≠ mark)
    (h : cs.flatMap ofChar = c :: rest) : ∃ cs', cs = c :: cs' ∧ cs'.flatMap ofChar = rest := by
  obtain _ | ⟨d, cs'⟩ := cs
  · cases h
  · rw [List.flatMap_cons, ofChar] at h
    split at h
    next => exact absurd (List.cons.inj h).1.symm hc
    next =>
      obtain ⟨rfl, hrest⟩ := List.cons.inj h
      exact ⟨cs', rfl, hrest⟩

/-- **Characters that stand for themselves are the letters**, and none of them is a half. -/
theorem plainChars_ofChars (cs : List Char) :
    plainChars (ofChars cs) = cs ∧ hasHalf (ofChars cs) = false := by
  have hletters : (lettersOf (cs.flatMap ofChar)).map Letter.char = cs ∧
      ((lettersOf (cs.flatMap ofChar)).any fun l => l.half?.isSome) = false := by
    induction cs with
    | nil => exact ⟨rfl, rfl⟩
    | cons c cs ih =>
      obtain ⟨l, hl, hchar, hhalf, -⟩ := lettersOf_ofChar_append c (cs.flatMap ofChar)
      rw [List.flatMap_cons, hl, List.map_cons, List.any_cons, hchar, hhalf, ih.1, ih.2]
      exact ⟨rfl, rfl⟩
  rw [plainChars, hasHalf, letters, ofChars, chars_eq, String.toList_ofList]
  exact hletters

theorem isHalf_iff {code : Nat} :
    (isHighHalf code || isLowHalf code) = true ↔ 0xD800 ≤ code ∧ code < 0xE000 := by
  simp only [isHighHalf, isLowHalf, Bool.or_eq_true, Bool.and_eq_true, decide_eq_true_eq]
  omega

/-- A character below those that halves are kept as needs no mark. -/
theorem ofChar_eq_singleton {c : Char} (h : c.toNat < halfOffset) : ofChar c = [c] := by
  have hmark : c ≠ mark := by
    rintro rfl
    exact absurd h (by decide)
  have hhalf : half? c = none := by
    rw [half?, Nat.sub_eq_zero_of_le (Nat.le_of_lt h)]
    rfl
  rw [ofChar, hhalf, decide_eq_false hmark]
  rfl

/-- A text of such characters is kept as it is. -/
theorem ofChars_toList {s : String} (h : ∀ c ∈ s.toList, c.toNat < halfOffset) :
    ofChars s.toList = s := by
  have hkept : ∀ cs : List Char, (∀ c ∈ cs, c.toNat < halfOffset) → cs.flatMap ofChar = cs := by
    intro cs hcs
    induction cs with
    | nil => rfl
    | cons c cs ih =>
      obtain ⟨hc, hcs⟩ := List.forall_mem_cons.1 hcs
      rw [List.flatMap_cons, ofChar_eq_singleton hc, ih hcs, List.singleton_append]
  rw [ofChars, hkept _ h, String.ofList_toList]

/-- The character of a code point of no half has this code point. -/
theorem toNat_ofNat {code : Nat} (h : code < 0x110000)
    (hhalf : ¬(isHighHalf code || isLowHalf code) = true) : (Char.ofNat code).toNat = code := by
  have hvalid : code.isValidChar := by
    rw [isHalf_iff] at hhalf
    rw [Nat.isValidChar]
    omega
  rw [Char.ofNat, dif_pos hvalid]
  rfl

/-- A half is found again in the character as which it is kept. -/
theorem half?_ofUnit {code : Nat} (h : (isHighHalf code || isLowHalf code) = true) :
    ofUnit code ≠ mark ∧ half? (ofUnit code) = some code := by
  have hrange : 0xD800 ≤ code ∧ code < 0xE000 := isHalf_iff.1 h
  have hkept : (ofUnit code).toNat = halfOffset + code := by
    rw [ofUnit, if_pos h]
    rw [halfOffset]
    exact toNat_ofNat (by omega) fun hfar => by
      have := isHalf_iff.1 hfar
      omega
  refine ⟨fun e => ?_, by rw [half?, hkept, Nat.add_sub_cancel_left, if_pos h]⟩
  have : halfOffset + code = 0x10FFFF := hkept.symm.trans (congrArg Char.toNat e)
  rw [halfOffset] at this
  omega

/-- A code point is one letter. -/
theorem lettersOf_ofCode_append (code : CodePoint) (cs : List Char) :
    ∃ l : Letter, lettersOf (ofCode code ++ cs) = l :: lettersOf cs ∧ l.code = code := by
  rw [ofCode]
  split
  next h =>
    obtain ⟨hmark, hhalf⟩ := half?_ofUnit h
    refine ⟨_, lettersOf_cons hmark cs, ?_⟩
    rw [Letter.code, Letter.half?, if_neg Bool.false_ne_true, hhalf, Option.getD_some,
      Fin.ofNat_val_eq_self]
  next h =>
    obtain ⟨l, hl, hchar, hhalf, -⟩ := lettersOf_ofChar_append (Char.ofNat code) cs
    refine ⟨l, hl, ?_⟩
    rw [Letter.code, hhalf, Option.getD_none, hchar, toNat_ofNat code.isLt h,
      Fin.ofNat_val_eq_self]

/-- **Code points are found again** in the text that is made of them. -/
theorem codes_ofCodes (codes : List CodePoint) : Text.codes (ofCodes codes) = codes := by
  rw [Text.codes, letters, ofCodes, chars_eq, String.toList_ofList]
  induction codes with
  | nil => rfl
  | cons code codes ih =>
    obtain ⟨l, hl, hcode⟩ := lettersOf_ofCode_append code (codes.flatMap ofCode)
    rw [List.flatMap_cons, hl, List.map_cons, hcode, ih]

end SwapRouter.Text
