import SwapRouter.Json.Printer
import SwapRouter.Proofs.FrontEnd.Utf8
import SwapRouter.Proofs.JsonRoom
import SwapRouter.Proofs.Order.Spelling

/-!
# Reading what is printed

A value that is printed as JSON is read back.  The text of a value tells where it ends: a text ends at
its closing quote, a list and an object at their closing brackets, and a number where no character of a
number follows.  So a reader that stands in front of a printed value takes exactly this value, whatever
follows it.

What is printed in ASCII has to come back as it was: a character outside of ASCII is escaped by its
UTF-16 units, of which those of a pair are joined again.  So are two halves that stand side by side, which
makes them another text.

* `Json.IsPlain`: values without fractions, long numbers, halves that can be joined, and names that come
  twice.
* `Json.IsPlain.isRead`: **a printed value is read in front of any rest** that does not go on with a
  number, by induction on the value.
* `Json.IsPlain.read_toText`: the text of a value is read as the value.
-/

namespace SwapRouter

/-! ## Characters -/

namespace Text

/-- The UTF-16 units of a character. -/
def charUnits (c : Char) : List ℕ :=
  if c.toNat < 0x10000 then [c.toNat]
  else [0xD800 + (c.toNat - 0x10000) / 1024, 0xDC00 + (c.toNat - 0x10000) % 1024]

/-- The UTF-16 units of a letter; a half of a pair is a unit. -/
def unitsOf (l : Letter) : List ℕ := l.half?.elim (charUnits l.char) ([·])

theorem unitsOf_of_half {l : Letter} {code : ℕ} (h : l.half? = some code) : unitsOf l = [code] := by
  rw [unitsOf, h, Option.elim_some]

theorem unitsOf_of_none {l : Letter} (h : l.half? = none) : unitsOf l = charUnits l.char := by
  rw [unitsOf, h, Option.elim_none]

/-- The units of a text are joined to its letters again: no half stands in front of its partner. -/
def IsJoined (s : String) : Prop := ofUnits ((letters s).flatMap unitsOf) = s.toList

instance (s : String) : Decidable (IsJoined s) := inferInstanceAs (Decidable (_ = _))

theorem not_isHalf_toNat (c : Char) : isHighHalf c.toNat = false ∧ isLowHalf c.toNat = false := by
  have hcases := toNat_cases c
  simp only [isHighHalf, isLowHalf, Bool.and_eq_false_iff, decide_eq_false_iff_not]
  omega

theorem ofUnits_cons {code : ℕ} {units : List ℕ} (h : isHighHalf code = false) :
    ofUnits (code :: units) = ofUnit code :: ofUnits units := by
  cases units with
  | nil => rfl
  | cons next units => rw [ofUnits, h, Bool.false_and, if_neg Bool.false_ne_true]

theorem ofUnit_toNat (c : Char) : ofUnit c.toNat = c := by
  rw [ofUnit, (not_isHalf_toNat c).1, (not_isHalf_toNat c).2]
  exact Char.ofNat_toNat c

/-- The units of a character are joined to the character again. -/
theorem ofUnits_charUnits_append (c : Char) (units : List ℕ) :
    ofUnits (charUnits c ++ units) = ofChar c ++ ofUnits units := by
  have hcases := toNat_cases c
  rw [charUnits]
  split
  next hlow =>
    rw [List.singleton_append, ofUnits_cons (not_isHalf_toNat c).1, ofUnit_toNat,
      ofChar_eq_singleton (hlow.trans (by decide)), List.singleton_append]
  next hwide =>
    have hhigh : isHighHalf (0xD800 + (c.toNat - 0x10000) / 1024) = true := by
      simp only [isHighHalf, Bool.and_eq_true, decide_eq_true_eq]
      omega
    have hlow : isLowHalf (0xDC00 + (c.toNat - 0x10000) % 1024) = true := by
      simp only [isLowHalf, Bool.and_eq_true, decide_eq_true_eq]
      omega
    have hjoin : joinHalves (0xD800 + (c.toNat - 0x10000) / 1024)
        (0xDC00 + (c.toNat - 0x10000) % 1024) = c.toNat := by
      unfold joinHalves
      omega
    rw [List.cons_append, List.singleton_append, ofUnits, hhigh, hlow, Bool.true_and, if_pos rfl,
      hjoin, Char.ofNat_toNat]

/-- **The units of a text of characters are joined to the text again.** -/
theorem isJoined_ofChars (cs : List Char) : IsJoined (ofChars cs) := by
  rw [IsJoined, letters, chars_eq, ofChars, String.toList_ofList]
  induction cs with
  | nil => rfl
  | cons c cs ih =>
    obtain ⟨l, hl, hchar, hhalf, -⟩ := lettersOf_ofChar_append c (cs.flatMap ofChar)
    rw [List.flatMap_cons, hl, List.flatMap_cons, unitsOf_of_none hhalf, hchar,
      ofUnits_charUnits_append, ih]

theorem isJoined_of_lt {s : String} (h : ∀ c ∈ s.toList, c.toNat < halfOffset) : IsJoined s := by
  rw [← ofChars_toList h]
  exact isJoined_ofChars _

/-- A half is a unit. -/
theorem of_half? {l : Letter} {code : ℕ} (h : l.half? = some code) : code < 0x10000 := by
  rw [Letter.half?] at h
  split at h
  next => cases h
  next =>
    rw [half?, Option.ite_none_right_eq_some, Option.some_inj] at h
    obtain ⟨hhalf, rfl⟩ := h
    have hbound := isHalf_iff.1 hhalf
    omega

end Text

namespace Json

variable {c : Char} {cs rest : List Char} {found : List ℕ} {n : ℕ} {s : String}

/-! ## Texts -/

theorem exists_hexField (h : n < 0x10000) :
    ∃ a b c d, Text.hexField 4 n = [a, b, c, d] ∧ unit? a b c d = some n := by
  refine ⟨_, _, _, _, rfl, ?_⟩
  have hvalue (k : ℕ) : Bytes.hexValue? (Text.hexDigitChar (k % 16)) = some (k % 16) :=
    Bytes.hexValue?_hexDigit _ (Nat.mod_lt _ (by decide))
  simp only [unit?, hvalue, Option.bind_eq_bind, Option.bind_some, Option.pure_def, Option.some_inj]
  change 4096 * (n / 4096 % 16) + 256 * (n / 256 % 16) + 16 * (n / 16 % 16) + n / 1 % 16 = n
  omega

theorem units?_unitEscape (h : n < 0x10000) :
    units? (unitEscape n ++ rest) found = units? rest (n :: found) := by
  obtain ⟨a, b, c, d, hfield, hunit⟩ := exists_hexField h
  rw [unitEscape, hfield]
  change units? ('\\' :: 'u' :: a :: b :: c :: d :: rest) found = _
  rw [units?, hunit]

/-- A character that stands for itself. -/
theorem units?_cons (hquote : c ≠ '\x22') (hback : c ≠ '\\') (hshown : 32 ≤ c.toNat) :
    units? (c :: rest) found = units? rest (c.toNat :: found) := by
  rw [units?, if_neg (Nat.not_lt.2 hshown)]
  · exact hquote
  · exact fun _ _ _ _ _ h => absurd h hback
  · exact fun _ _ h => absurd h hback

/-- A character that is escaped by one letter. -/
theorem units?_escaped {letter : Char} (hletter : letter ≠ 'u') (h : escaped? letter = some c) :
    units? ('\\' :: letter :: rest) found = units? rest (c.toNat :: found) := by
  rw [units?, h]
  exact fun _ _ _ _ _ hu => absurd hu hletter

/-- How a character of ASCII is written: as itself, by a letter, or by its unit. -/
theorem writeChar_cases (h : c.toNat < 0x80) :
    (writeChar c = [c] ∧ c ≠ '\x22' ∧ c ≠ '\\' ∧ 32 ≤ c.toNat) ∨
      (∃ letter, writeChar c = ['\\', letter] ∧ letter ≠ 'u' ∧ escaped? letter = some c) ∨
      writeChar c = unitEscape c.toNat := by
  have hrun : ∀ n < 0x80, (writeChar (Char.ofNat n) = [Char.ofNat n] ∧ Char.ofNat n ≠ '\x22' ∧
      Char.ofNat n ≠ '\\' ∧ 32 ≤ (Char.ofNat n).toNat) ∨
        (['\x22', '\\', 'n', 'r', 't', 'f', 'b'].any fun letter =>
          decide (writeChar (Char.ofNat n) = ['\\', letter] ∧ letter ≠ 'u' ∧
            escaped? letter = some (Char.ofNat n))) = true ∨
        writeChar (Char.ofNat n) = unitEscape (Char.ofNat n).toNat := by decide +kernel
  have hc := hrun c.toNat h
  rw [Char.ofNat_toNat] at hc
  obtain hself | hletter | hunit := hc
  · exact Or.inl hself
  · obtain ⟨letter, -, hletter⟩ := List.any_eq_true.1 hletter
    exact Or.inr (Or.inl ⟨letter, of_decide_eq_true hletter⟩)
  · exact Or.inr (Or.inr hunit)

/-- A character outside of ASCII is written by its units. -/
theorem writeChar_of_le (h : 0x80 ≤ c.toNat) :
    writeChar c = (Text.charUnits c).flatMap unitEscape := by
  have hne {d : Char} (hd : d.toNat < 0x80) : c ≠ d := fun hcd => by
    rw [hcd] at h
    omega
  have hspecial : c ≠ '\x22' ∧ c ≠ '\\' ∧ c ≠ '\n' ∧ c ≠ '\r' ∧ c ≠ '\t' ∧ c ≠ '\x0c' ∧
      c ≠ '\x08' :=
    ⟨hne (by decide), hne (by decide), hne (by decide), hne (by decide), hne (by decide),
      hne (by decide), hne (by decide)⟩
  have hshown : ¬ c ≤ '~' := fun hle => absurd (Nat.le_trans h hle) (by decide)
  have hself : writeChar c = if c.toNat < 0x10000 then unitEscape c.toNat else
      unitEscape (0xD800 + (c.toNat - 0x10000) / 1024)
        ++ unitEscape (0xDC00 + (c.toNat - 0x10000) % 1024) := by
    simp [writeChar, hspecial, hshown]
  rw [hself, Text.charUnits]
  split <;> simp

/-- A character that is printed is read as its units. -/
theorem units?_writeChar :
    units? (writeChar c ++ rest) found = units? rest ((Text.charUnits c).reverse ++ found) := by
  by_cases hascii : c.toNat < 0x80
  · have hlt : c.toNat < 0x10000 := hascii.trans (by decide)
    have hunits : (Text.charUnits c).reverse ++ found = c.toNat :: found := by
      rw [Text.charUnits, if_pos hlt]
      rfl
    rw [hunits]
    obtain ⟨hc, hquote, hback, hshown⟩ | ⟨letter, hc, hletter, hescaped⟩ | hc :=
      writeChar_cases hascii
    · rw [hc, List.singleton_append, units?_cons hquote hback hshown]
    · rw [hc]
      exact units?_escaped hletter hescaped
    · rw [hc, units?_unitEscape hlt]
  · rw [writeChar_of_le (Nat.le_of_not_lt hascii), Text.charUnits]
    split
    next hlt => rw [List.flatMap_singleton, units?_unitEscape hlt]; rfl
    next =>
      have hcases := Text.toNat_cases c
      rw [List.flatMap_cons, List.flatMap_singleton, List.append_assoc,
        units?_unitEscape (by omega), units?_unitEscape (by omega)]
      rfl

/-- A letter that is printed is read as its units. -/
theorem units?_writeLetter (l : Text.Letter) :
    units? (writeLetter l ++ rest) found = units? rest ((Text.unitsOf l).reverse ++ found) := by
  rw [writeLetter]
  cases hhalf : l.half? with
  | some code =>
    rw [Text.unitsOf_of_half hhalf, units?_unitEscape (Text.of_half? hhalf)]
    rfl
  | none => rw [Text.unitsOf_of_none hhalf, units?_writeChar]

theorem units?_flatMap_writeLetter {ls : List Text.Letter} :
    units? (ls.flatMap writeLetter ++ '\x22' :: rest) found =
      some (found.reverse ++ ls.flatMap Text.unitsOf, rest) := by
  induction ls generalizing found with
  | nil => rw [List.flatMap_nil, List.flatMap_nil, List.append_nil]; rfl
  | cons l ls ih =>
    rw [List.flatMap_cons, List.append_assoc, units?_writeLetter, ih, List.reverse_append,
      List.reverse_reverse, List.flatMap_cons, List.append_assoc]

/-- **A text that is printed is read as the text.** -/
theorem text_writeText (h : Text.IsJoined s) :
    text ((Text.letters s).flatMap writeLetter ++ '\x22' :: rest) = .ok (s, rest) := by
  rw [text, units?_flatMap_writeLetter]
  dsimp only
  rw [List.reverse_nil, List.nil_append, h, String.ofList_toList]

/-! ## Numbers -/

/-- What follows does not go on with a number. -/
def EndsNumber (cs : List Char) : Prop :=
  ∀ c ∈ cs.head?, Numeral.isAsciiDigit c = false ∧ c ≠ '.' ∧ c ≠ 'e' ∧ c ≠ 'E'

theorem endsNumber_cons (h : Numeral.isAsciiDigit c = false ∧ c ≠ '.' ∧ c ≠ 'e' ∧ c ≠ 'E') :
    EndsNumber (c :: cs) := fun d hd => by
  obtain rfl : c = d := Option.some_inj.1 hd
  exact h

theorem toList_toString (n : ℕ) : (toString (n : ℤ)).toList = Nat.toDigits 10 n :=
  (congrArg String.toList Nat.repr_eq_ofList_toDigits).trans String.toList_ofList

theorem isAsciiDigit_of_mem_toDigits (h : c ∈ Nat.toDigits 10 n) : Numeral.isAsciiDigit c = true :=
  Nat.isDigit_of_mem_toDigits (by decide) (by decide) h

/-- Only zero starts with the digit zero. -/
theorem exists_toDigits_eq_cons (h : 0 < n) : ∃ c cs, Nat.toDigits 10 n = c :: cs ∧ c ≠ '0' := by
  induction n using Nat.strong_induction_on with
  | _ n ih =>
    by_cases hlt : n < 10
    · refine ⟨_, [], Nat.toDigits_of_lt_base hlt, ?_⟩
      exact (by decide : ∀ n < 10, 0 < n → Nat.digitChar n ≠ '0') n hlt h
    · obtain ⟨c, cs, hdigits, hc⟩ := ih (n / 10) (by omega) (by omega)
      refine ⟨c, cs ++ [Nat.digitChar (n % 10)], ?_, hc⟩
      rw [Nat.toDigits_of_base_le (by decide) (by omega), hdigits, List.cons_append]

theorem wholeDigits_toDigits (hrest : EndsNumber rest) :
    wholeDigits (Nat.toDigits 10 n ++ rest) = (Nat.toDigits 10 n, rest) := by
  rcases Nat.eq_zero_or_pos n with rfl | hpos
  · rfl
  · have hdigits : ∀ c ∈ Nat.toDigits 10 n, Numeral.isAsciiDigit c = true :=
      fun c hc => isAsciiDigit_of_mem_toDigits hc
    have hstop : rest.takeWhile Numeral.isAsciiDigit = [] ∧
        rest.dropWhile Numeral.isAsciiDigit = rest := by
      cases rest with
      | nil => exact ⟨rfl, rfl⟩
      | cons d rest =>
        have hd : Numeral.isAsciiDigit d = false := (hrest d rfl).1
        simp [hd]
    have hwhole : wholeDigits (Nat.toDigits 10 n ++ rest) =
        ((Nat.toDigits 10 n ++ rest).takeWhile Numeral.isAsciiDigit,
          (Nat.toDigits 10 n ++ rest).dropWhile Numeral.isAsciiDigit) := by
      obtain ⟨c, cs, hcons, hc⟩ := exists_toDigits_eq_cons hpos
      rw [hcons, List.cons_append, wholeDigits]
      exact fun _ hzero => hc (List.cons.inj hzero).1
    rw [hwhole, List.takeWhile_append_of_pos hdigits, List.dropWhile_append_of_pos hdigits, hstop.1,
      hstop.2, List.append_nil]

/-- **A number that is printed is read as the number.** -/
theorem number_toDigits (hlen : (Nat.toDigits 10 n).length ≤ Text.maxDigits)
    (hrest : EndsNumber rest) :
    number false (Nat.toDigits 10 n ++ rest) = .ok (.int n, rest) := by
  have hfraction : fraction rest = ([], rest) := by
    unfold fraction
    split
    · exact absurd rfl (hrest '.' rfl).2.1
    · rfl
  have hexponent : exponent rest = ([], rest) := by
    cases rest with
    | nil => rfl
    | cons d rest =>
      have hd := (hrest d rfl).2.2
      simp [exponent, hd.1, hd.2]
  have hne : (Nat.toDigits 10 n).isEmpty = false := by
    simp [Nat.toDigits_ne_nil]
  have hvalue : Numeral.ofAsciiDigits (Nat.toDigits 10 n) = n := Text.ofDigits_toDigits n
  rw [number, wholeDigits_toDigits hrest]
  dsimp only
  rw [hfraction]
  dsimp only
  rw [hexponent]
  dsimp only
  rw [hne, if_neg Bool.false_ne_true, List.isEmpty_nil, Bool.and_self, if_pos rfl, if_pos hlen, hvalue]
  rfl

/-! ## Values without other values -/

/-- A value that comes back as it was printed: its numbers are whole, not negative and short enough to
be read, no half in its texts stands in front of its partner, and no name comes twice. -/
inductive IsPlain : Json → Prop
  | null : IsPlain .null
  | bool (b : Bool) : IsPlain (.bool b)
  | nat (n : ℕ) (h : (Nat.toDigits 10 n).length ≤ Text.maxDigits) : IsPlain (.int n)
  | str {s : String} (h : Text.IsJoined s) : IsPlain (.str s)
  | arr {items : List Json} (h : ∀ item ∈ items, IsPlain item) : IsPlain (.arr items)
  | obj {fields : List (String × Json)} (hnames : (names fields).Nodup)
    (htexts : ∀ field ∈ fields, Text.IsJoined field.1)
    (hfields : ∀ field ∈ fields, IsPlain field.2) : IsPlain (.obj fields)

@[simp] theorem isPlain_str_iff : (Json.str s).IsPlain ↔ Text.IsJoined s :=
  ⟨fun | .str h => h, .str⟩

@[simp] theorem isPlain_arr_iff {items : List Json} :
    (Json.arr items).IsPlain ↔ ∀ item ∈ items, item.IsPlain :=
  ⟨fun | .arr h => h, .arr⟩

@[simp] theorem isPlain_obj_iff {fields : List (String × Json)} :
    (Json.obj fields).IsPlain ↔
      (names fields).Nodup ∧ ∀ field ∈ fields, Text.IsJoined field.1 ∧ field.2.IsPlain :=
  ⟨fun | .obj hnames htexts hfields => ⟨hnames, fun field h => ⟨htexts field h, hfields field h⟩⟩,
    fun h => .obj h.1 (fun field hf => (h.2 field hf).1) fun field hf => (h.2 field hf).2⟩

/-- A character with which no word starts that stands for a value. -/
theorem find?_words (h : c ∉ ['n', 't', 'f', 'N', 'I', '-']) :
    words.find? (fun word => word.1.isPrefixOf (c :: cs)) = none := by
  refine List.find?_eq_none.2 fun word hword => ?_
  simp only [words, List.mem_cons, List.not_mem_nil, or_false] at hword
  simp only [List.mem_cons, List.not_mem_nil, or_false, not_or] at h
  obtain ⟨hn, ht, hf, hN, hI, hminus⟩ := h
  rcases hword with rfl | rfl | rfl | rfl | rfl | rfl <;> simp [List.isPrefixOf] <;> intro hc <;>
    exact absurd hc.symm ‹_›

theorem scalar_writeText (h : Text.IsJoined s) :
    scalar (writeText s ++ rest) = .ok (.str s, rest) := by
  have htext : writeText s ++ rest = '\x22' :: ((Text.letters s).flatMap writeLetter ++ '\x22' :: rest) := by
    simp [writeText]
  rw [htext, scalar, find?_words (by decide)]
  dsimp only
  rw [text_writeText h]
  rfl

theorem scalar_toDigits (hlen : (Nat.toDigits 10 n).length ≤ Text.maxDigits)
    (hrest : EndsNumber rest) :
    scalar (Nat.toDigits 10 n ++ rest) = .ok (.int n, rest) := by
  rw [← number_toDigits hlen hrest]
  cases hdigits : Nat.toDigits 10 n with
  | nil => exact absurd hdigits Nat.toDigits_ne_nil
  | cons c cs =>
    have hdigit : Numeral.isAsciiDigit c = true :=
      isAsciiDigit_of_mem_toDigits (hdigits ▸ List.mem_cons_self)
    have hne {d : Char} (hd : Numeral.isAsciiDigit d = false) : c ≠ d := fun hcd => by
      rw [hcd, hd] at hdigit
      cases hdigit
    have hwords : c ∉ ['n', 't', 'f', 'N', 'I', '-'] := by
      simp only [List.mem_cons, List.not_mem_nil, or_false, not_or]
      exact ⟨hne (by decide), hne (by decide), hne (by decide), hne (by decide), hne (by decide),
        hne (by decide)⟩
    rw [List.cons_append, scalar, find?_words hwords]
    · exact fun _ hquote => hne (by decide) (List.cons.inj hquote).1
    · exact fun _ hminus => hne (by decide) (List.cons.inj hminus).1

/-! ## Layouts -/

/-- Blanks between tokens. -/
def AreGaps (cs : List Char) : Prop := ∀ c ∈ cs, isGap c = true

variable {layout : Layout} {level steps room : ℕ} {gaps : List Char} {j : Json}

theorem skipGaps_append (h : AreGaps gaps) : skipGaps (gaps ++ cs) = skipGaps cs :=
  List.dropWhile_append_of_pos h

theorem skipGaps_cons (h : isGap c = false) : skipGaps (c :: cs) = c :: cs :=
  List.dropWhile_cons_of_neg (by rw [h]; exact Bool.false_ne_true)

theorem areGaps_lineStart (layout : Layout) (level : ℕ) : AreGaps (layout.lineStart level) := by
  cases layout with
  | inline => exact fun c hc => absurd hc List.not_mem_nil
  | indented width =>
    refine List.forall_mem_cons.2 ⟨by decide, fun c hc => ?_⟩
    rw [List.eq_of_mem_replicate hc]
    decide

theorem exists_separator (layout : Layout) (level : ℕ) :
    ∃ gaps, layout.separator level = ',' :: gaps ∧ AreGaps gaps := by
  cases layout with
  | inline => exact ⟨[' '], rfl, by simp [AreGaps, isGap]⟩
  | indented width => exact ⟨_, rfl, areGaps_lineStart (.indented width) level⟩

/-- No number goes on with a blank. -/
theorem endsNumber_of_isGap (h : isGap c = true) : EndsNumber (c :: cs) := by
  refine endsNumber_cons ?_
  simp only [isGap, Bool.or_eq_true, decide_eq_true_eq] at h
  rcases h with ((rfl | rfl) | rfl) | rfl <;> decide

/-- No number goes on with what stands behind an item. -/
theorem endsNumber_append (h : AreGaps gaps) (hc : c ∈ [',', ']', '\x7d']) :
    EndsNumber (gaps ++ c :: cs) := by
  cases gaps with
  | nil =>
    refine endsNumber_cons ?_
    simp only [List.mem_cons, List.not_mem_nil, or_false] at hc
    rcases hc with rfl | rfl | rfl <;> decide
  | cons d gaps => exact endsNumber_of_isGap (h d List.mem_cons_self)

/-- The text of a value starts with no blank, and does not close a list. -/
def StartsValue (cs : List Char) : Prop := ∃ c cs', cs = c :: cs' ∧ isGap c = false ∧ c ≠ ']'

theorem StartsValue.append (h : StartsValue cs) : StartsValue (cs ++ rest) := by
  obtain ⟨c, cs', rfl, hc⟩ := h
  exact ⟨c, cs' ++ rest, rfl, hc⟩

theorem StartsValue.length_pos (h : StartsValue cs) : 0 < cs.length := by
  obtain ⟨c, cs', rfl, -⟩ := h
  exact Nat.succ_pos _

theorem StartsValue.skipGaps (h : StartsValue cs) : skipGaps cs = cs := by
  obtain ⟨c, cs', rfl, hc, -⟩ := h
  exact skipGaps_cons hc

theorem isGap_eq_false_of_isAsciiDigit (h : Numeral.isAsciiDigit c = true) :
    isGap c = false ∧ c ≠ ']' ∧ c ≠ '[' ∧ c ≠ '\x7b' := by
  have hne {d : Char} (hd : Numeral.isAsciiDigit d = false) : c ≠ d := fun hcd => by
    rw [hcd, hd] at h
    cases h
  refine ⟨?_, hne (by decide), hne (by decide), hne (by decide)⟩
  simp [isGap, hne (d := ' ') (by decide), hne (d := '\t') (by decide), hne (d := '\n') (by decide),
    hne (d := '\r') (by decide)]

theorem startsValue_arr (items : List Json) : StartsValue (write layout level (.arr items)) := by
  cases items <;> exact ⟨'[', _, rfl, by decide, by decide⟩

theorem startsValue_obj (fields : List (String × Json)) :
    StartsValue (write layout level (.obj fields)) := by
  cases fields <;> exact ⟨'\x7b', _, rfl, by decide, by decide⟩

/-! ## Lists and objects -/

/-- A field whose name is new is put at the end. -/
theorem put_of_nodup {name : String} {fields found : List (String × Json)}
    (h : (names (found ++ (name, j) :: fields)).Nodup) : put found name j = found ++ [(name, j)] := by
  refine put_of_notMem fun hmem => ?_
  rw [names, List.map_append, List.map_cons, List.nodup_append] at h
  exact h.2.2 name hmem name List.mem_cons_self rfl

/-- A printed value is read, in front of any rest that does not go on with a number. -/
structure IsRead (layout : Layout) (j : Json) : Prop where
  start : ∀ level, StartsValue (write layout level j)
  value : ∀ {level steps room rest}, (write layout level j).length < steps →
    (write layout level j).length ≤ room → EndsNumber rest →
    value steps room (write layout level j ++ rest) = .ok (j, rest)

/-- Behind the first item of a list a number ends. -/
theorem endsNumber_writeItems (items : List Json) (hgaps : AreGaps gaps) :
    EndsNumber (writeItems layout level items ++ (gaps ++ ']' :: rest)) := by
  cases items with
  | nil => exact endsNumber_append hgaps (by decide)
  | cons item items =>
    obtain ⟨between, hseparator, -⟩ := exists_separator layout level
    rw [writeItems, hseparator]
    exact endsNumber_cons (by decide)

/-- Behind the first field of an object a number ends. -/
theorem endsNumber_writeFields (fields : List (String × Json)) (hgaps : AreGaps gaps) :
    EndsNumber (writeFields layout level fields ++ (gaps ++ '\x7d' :: rest)) := by
  cases fields with
  | nil => exact endsNumber_append hgaps (by decide)
  | cons field fields =>
    obtain ⟨between, hseparator, -⟩ := exists_separator layout level
    rw [writeFields, hseparator]
    exact endsNumber_cons (by decide)

/-- **The items of a list are read**, by induction on the items behind the first one. -/
theorem items_write {item : Json} {items found : List Json}
    (hread : ∀ j ∈ item :: items, IsRead layout j) (hgaps : AreGaps gaps)
    (hlen : (write layout level item ++ writeItems layout level items).length + 1 < steps)
    (hroom : (write layout level item ++ writeItems layout level items).length ≤ room) :
    Json.items steps room
      (write layout level item ++ (writeItems layout level items ++ (gaps ++ ']' :: rest))) found =
      .ok (found.reverse ++ item :: items, rest) := by
  induction items generalizing item found steps with
  | nil =>
    obtain ⟨steps, rfl⟩ : ∃ n, steps = n + 1 := ⟨steps - 1, by omega⟩
    rw [List.length_append] at hlen hroom
    rw [Json.items, (hread item List.mem_cons_self).value (by omega) (by omega)
      (endsNumber_writeItems [] hgaps)]
    dsimp only
    rw [writeItems, List.nil_append, skipGaps_append hgaps, skipGaps_cons (by decide),
      List.reverse_cons]
    rfl
  | cons next items ih =>
    obtain ⟨steps, rfl⟩ : ∃ n, steps = n + 1 := ⟨steps - 1, by omega⟩
    obtain ⟨hitem, hitems⟩ := List.forall_mem_cons.1 hread
    obtain ⟨between, hseparator, hbetween⟩ := exists_separator layout level
    rw [List.length_append, writeItems, hseparator, List.cons_append, List.cons_append,
      List.length_cons, List.append_assoc, List.length_append] at hlen hroom
    rw [Json.items, hitem.value (by omega) (by omega) (endsNumber_writeItems (next :: items) hgaps)]
    dsimp only
    rw [writeItems, hseparator, List.cons_append, List.cons_append, List.cons_append,
      skipGaps_cons (by decide), List.append_assoc, List.append_assoc]
    change Json.items steps room (skipGaps _) (item :: found) = _
    rw [skipGaps_append hbetween,
      ((hitems next List.mem_cons_self).start level).append.skipGaps, ih hitems (by omega) (by omega),
      List.reverse_cons, List.append_assoc, List.singleton_append]

/-- What is read behind the value of a field. -/
def fieldsBehind (steps room : ℕ) (found : List (String × Json)) (rest : List Char) :
    Except ReadFault (List (String × Json) × List Char) :=
  match skipGaps rest with
  | ',' :: rest => Json.fields steps room (skipGaps rest) found
  | '\x7d' :: rest => .ok (found, rest)
  | _ => .error .malformed

/-- A field is read up to what stands behind its value. -/
theorem fields_write {name : String} {found : List (String × Json)}
    (hname : Text.IsJoined name) (hread : IsRead layout j)
    (hlen : (write layout level j).length < steps) (hroom : (write layout level j).length ≤ room)
    (hrest : EndsNumber rest) :
    Json.fields (steps + 1) room (writeText name ++ [':', ' '] ++ write layout level j ++ rest) found =
      fieldsBehind steps room (put found name j) rest := by
  have htext : writeText name ++ [':', ' '] ++ write layout level j ++ rest =
      '\x22' :: ((Text.letters name).flatMap writeLetter ++ '\x22' ::
        (':' :: ' ' :: (write layout level j ++ rest))) := by
    simp [writeText]
  have hgap : skipGaps (' ' :: (write layout level j ++ rest)) = write layout level j ++ rest := by
    have hspace : AreGaps [' '] := fun c hc => by rw [List.mem_singleton.1 hc]; rfl
    exact (skipGaps_append hspace).trans ((hread.start level).append.skipGaps)
  rw [htext, Json.fields, text_writeText hname]
  dsimp only
  rw [skipGaps_cons (by decide)]
  split
  next hcolon =>
    obtain ⟨-, rfl⟩ := List.cons.inj hcolon
    rw [hgap, hread.value hlen hroom hrest]
    rfl
  next hcolon => exact absurd rfl (hcolon _)

/-- **The fields of an object are read**, by induction on the fields behind the first one. -/
theorem fields_writeFields {name : String} {fields found : List (String × Json)}
    (hread : ∀ field ∈ (name, j) :: fields, Text.IsJoined field.1 ∧ IsRead layout field.2)
    (hnames : (names (found ++ (name, j) :: fields)).Nodup) (hgaps : AreGaps gaps)
    (hlen : (write layout level j ++ writeFields layout level fields).length + 1 < steps)
    (hroom : (write layout level j ++ writeFields layout level fields).length ≤ room) :
    Json.fields steps room (writeText name ++ [':', ' '] ++ write layout level j
      ++ (writeFields layout level fields ++ (gaps ++ '\x7d' :: rest))) found =
      .ok (found ++ (name, j) :: fields, rest) := by
  induction fields generalizing name j found steps with
  | nil =>
    obtain ⟨steps, rfl⟩ : ∃ n, steps = n + 1 := ⟨steps - 1, by omega⟩
    obtain ⟨hname, hj⟩ : Text.IsJoined name ∧ IsRead layout j :=
      hread (name, j) List.mem_cons_self
    rw [List.length_append] at hlen hroom
    rw [fields_write hname hj (by omega) (by omega) (endsNumber_writeFields [] hgaps),
      put_of_nodup hnames, fieldsBehind, writeFields, List.nil_append, skipGaps_append hgaps, skipGaps_cons (by decide)]
    rfl
  | cons next fields ih =>
    obtain ⟨steps, rfl⟩ : ∃ n, steps = n + 1 := ⟨steps - 1, by omega⟩
    obtain ⟨hname, hj⟩ : Text.IsJoined name ∧ IsRead layout j :=
      hread (name, j) List.mem_cons_self
    obtain ⟨next, value⟩ := next
    obtain ⟨between, hseparator, hbetween⟩ := exists_separator layout level
    have htail : writeFields layout level ((next, value) :: fields) = ',' :: (between ++
        (writeText next ++ [':', ' '] ++ write layout level value ++ writeFields layout level fields)) := by
      rw [writeFields, hseparator]
      simp
    have hskip : skipGaps (between ++ (writeText next ++ [':', ' '] ++ write layout level value
        ++ writeFields layout level fields) ++ (gaps ++ '\x7d' :: rest)) =
        writeText next ++ [':', ' '] ++ write layout level value
          ++ (writeFields layout level fields ++ (gaps ++ '\x7d' :: rest)) := by
      rw [List.append_assoc, skipGaps_append hbetween, List.append_assoc _ (writeFields _ _ _)]
      exact skipGaps_cons (c := '\x22') rfl
    have hmore : (names ((found ++ [(name, j)]) ++ (next, value) :: fields)).Nodup := by
      rwa [List.append_assoc, List.singleton_append]
    have hends : EndsNumber (writeFields layout level ((next, value) :: fields) ++
        (gaps ++ '\x7d' :: rest)) := endsNumber_writeFields _ hgaps
    simp only [htail, List.length_append, List.length_cons] at hlen hroom
    rw [fields_write hname hj (by omega) (by omega) hends, put_of_nodup hnames, fieldsBehind, htail, List.cons_append,
      skipGaps_cons (by decide)]
    change Json.fields steps room (skipGaps _) (found ++ [(name, j)]) = _
    rw [hskip, ih (fun field hfield => hread field (List.mem_cons_of_mem _ hfield)) hmore
      (by rw [List.length_append]; omega) (by rw [List.length_append]; omega), List.append_assoc,
      List.singleton_append]

/-! ## Values -/

theorem value_of_items {ds : List Char} {found : List Json} (hstart : StartsValue ds)
    (hskip : skipGaps cs = ds) (h : Json.items steps room ds [] = .ok (found, rest)) :
    Json.value (steps + 1) (room + 1) ('[' :: cs) = .ok (.arr found, rest) := by
  obtain ⟨c, ds', rfl, -, hclose⟩ := hstart
  rw [Json.value, hskip]
  split
  next hc => exact absurd (List.cons.inj hc).1 hclose
  next =>
    rw [h]
    rfl

theorem value_of_fields {ds : List Char} {found : List (String × Json)}
    (hskip : skipGaps cs = '\x22' :: ds)
    (h : Json.fields steps room ('\x22' :: ds) [] = .ok (found, rest)) :
    Json.value (steps + 1) (room + 1) ('\x7b' :: cs) = .ok (.obj found, rest) := by
  rw [Json.value, hskip]
  change (Json.fields steps room ('\x22' :: ds) []).map _ = _
  rw [h]
  rfl

theorem scalar_null : scalar ("null".toList ++ rest) = .ok (.null, rest) := rfl

theorem scalar_bool (b : Bool) :
    scalar ((if b then "true" else "false").toList ++ rest) = .ok (.bool b, rest) := by
  cases b <;> rfl

/-- A list is read where its items are. -/
theorem isRead_arr {items : List Json} (h : ∀ item ∈ items, IsRead layout item) :
    IsRead layout (.arr items) := by
  refine ⟨fun level => startsValue_arr items, fun {level steps room rest} hlen hroom _ => ?_⟩
  obtain ⟨steps, rfl⟩ : ∃ n, steps = n + 1 := ⟨steps - 1, by omega⟩
  obtain ⟨room, rfl⟩ : ∃ n, room = n + 1 := ⟨room - 1, by
    have hstart : StartsValue (write layout level (.arr items)) := startsValue_arr items
    have := hstart.length_pos
    omega⟩
  cases items with
  | nil => rfl
  | cons item items =>
    have hstart : StartsValue (write layout (level + 1) item ++
        (writeItems layout (level + 1) items ++ (layout.lineStart level ++ ']' :: rest))) :=
      ((h item List.mem_cons_self).start _).append
    have htext : write layout level (.arr (item :: items)) ++ rest =
        '[' :: (layout.lineStart (level + 1) ++ (write layout (level + 1) item ++
          (writeItems layout (level + 1) items ++ (layout.lineStart level ++ ']' :: rest)))) := by
      simp [write]
    rw [write] at hlen hroom
    simp only [List.length_append, List.length_cons] at hlen hroom
    rw [htext]
    exact value_of_items hstart ((skipGaps_append (areGaps_lineStart layout _)).trans hstart.skipGaps)
      (items_write h (areGaps_lineStart layout _) (by rw [List.length_append]; omega)
        (by rw [List.length_append]; omega))

/-- An object is read where its names and values are. -/
theorem isRead_obj {fields : List (String × Json)} (hnames : (names fields).Nodup)
    (h : ∀ field ∈ fields, Text.IsJoined field.1 ∧ IsRead layout field.2) :
    IsRead layout (.obj fields) := by
  refine ⟨fun level => startsValue_obj fields, fun {level steps room rest} hlen hroom _ => ?_⟩
  obtain ⟨steps, rfl⟩ : ∃ n, steps = n + 1 := ⟨steps - 1, by omega⟩
  obtain ⟨room, rfl⟩ : ∃ n, room = n + 1 := ⟨room - 1, by
    have hstart : StartsValue (write layout level (.obj fields)) := startsValue_obj fields
    have := hstart.length_pos
    omega⟩
  cases fields with
  | nil => rfl
  | cons field fields =>
    obtain ⟨name, value⟩ := field
    have htext : write layout level (.obj ((name, value) :: fields)) ++ rest =
        '\x7b' :: (layout.lineStart (level + 1) ++ (writeText name ++ [':', ' '] ++
          write layout (level + 1) value ++
            (writeFields layout (level + 1) fields ++ (layout.lineStart level ++ '\x7d' :: rest)))) := by
      simp [write]
    rw [write] at hlen hroom
    simp only [List.length_append, List.length_cons] at hlen hroom
    rw [htext]
    exact value_of_fields ((skipGaps_append (areGaps_lineStart layout _)).trans (skipGaps_cons rfl))
      (fields_writeFields h (show (names ([] ++ (name, value) :: fields)).Nodup from hnames)
        (areGaps_lineStart layout _) (by rw [List.length_append]; omega)
        (by rw [List.length_append]; omega))

/-- A value without other values is read by its first character. -/
theorem isRead_scalar
    (hstart : ∀ level, ∃ c cs, write layout level j = c :: cs ∧
      isGap c = false ∧ c ≠ ']' ∧ c ≠ '[' ∧ c ≠ '\x7b')
    (hscalar : ∀ {level rest}, EndsNumber rest → scalar (write layout level j ++ rest) = .ok (j, rest)) :
    IsRead layout j := by
  refine ⟨fun level => ?_, fun {level steps room rest} hlen _ hrest => ?_⟩
  · obtain ⟨c, cs, htext, hgap, hclose, -⟩ := hstart level
    exact ⟨c, cs, htext, hgap, hclose⟩
  · obtain ⟨steps, rfl⟩ : ∃ n, steps = n + 1 := ⟨steps - 1, by omega⟩
    obtain ⟨c, cs, htext, -, -, hlist, hobject⟩ := hstart level
    rw [← hscalar hrest, htext]
    exact value_eq_scalar hlist hobject

/-- **A printed value is read in front of any rest** that does not go on with a number. -/
theorem IsPlain.isRead (h : j.IsPlain) : IsRead layout j := by
  induction h with
  | null =>
    refine isRead_scalar (fun _ => ?_) fun _ => scalar_null
    exact ⟨'n', _, rfl, by decide, by decide, by decide, by decide⟩
  | bool b =>
    refine isRead_scalar (fun _ => ?_) fun _ => scalar_bool b
    cases b <;> exact ⟨_, _, rfl, by decide, by decide, by decide, by decide⟩
  | nat n hshort =>
    have hwrite (level : ℕ) : write layout level (.int n) = Nat.toDigits 10 n := by
      rw [write, toList_toString]
    refine isRead_scalar (fun level => ?_) fun {level rest} hrest => ?_
    · rw [hwrite]
      cases hdigits : Nat.toDigits 10 n with
      | nil => exact absurd hdigits Nat.toDigits_ne_nil
      | cons c cs =>
        have hdigit := isAsciiDigit_of_mem_toDigits
          (hdigits ▸ List.mem_cons_self : c ∈ Nat.toDigits 10 n)
        exact ⟨c, cs, rfl, isGap_eq_false_of_isAsciiDigit hdigit⟩
    · rw [hwrite]
      exact scalar_toDigits hshort hrest
  | str hs =>
    refine isRead_scalar (fun _ => ?_) fun _ => scalar_writeText hs
    exact ⟨'\x22', _, rfl, by decide, by decide, by decide, by decide⟩
  | arr _ ih => exact isRead_arr ih
  | obj hnames htexts _ ih =>
    exact isRead_obj hnames fun field hfield => ⟨htexts field hfield, ih field hfield⟩

/-- **The text of a value is read as the value.** -/
theorem IsPlain.read_toText (h : j.IsPlain) (layout : Layout) (hgaps : AreGaps gaps) :
    Json.read (j.toText layout ++ String.ofList gaps) = .ok j := by
  have hends : EndsNumber gaps := by
    cases gaps with
    | nil => exact fun c hc => by cases hc
    | cons c gaps => exact endsNumber_of_isGap (hgaps c List.mem_cons_self)
  have hempty : skipGaps gaps = [] := List.dropWhile_eq_nil_iff.2 hgaps
  have hread : IsRead layout j := h.isRead
  have hchars : (j.toText layout ++ String.ofList gaps).toList = write layout 0 j ++ gaps := by
    rw [String.toList_append, toText, String.toList_ofList, String.toList_ofList]
  rw [Json.read, Text.chars_eq, hchars, (hread.start 0).append.skipGaps,
    hread.value (by rw [List.length_append]; omega) (by simp) hends]
  simp only [hempty, List.isEmpty_nil, if_true]

end Json

end SwapRouter
