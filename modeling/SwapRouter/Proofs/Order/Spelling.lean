import SwapRouter.Proofs.LookUp.NormalForm
import SwapRouter.Uint256

/-!
# Spellings of one value

An amount may be sent as a number or as its decimal text, and the hexadecimal digits of an address or a
byte string may be written in either case.  The readers of these values do not see the difference.

For an amount, the decimal text of a number is made of the ten digits of ASCII alone, at most 78 of them
for a number of 256 bits, and the digits are read back one by one.  For an address and a byte string, a
text and its lower case form are read alike, so two texts with the same lower case form are.

* `Text.decimalInteger?_toString`: **a decimal text is read as its number.**
* `Uint256.ofText_toString`: **the decimal text of an amount is read as the amount.**
* `Text.SameButCase`: two texts that differ in the case of letters of ASCII alone.
* `Address.checked_congr`, `Bytes.ofHex?_congr`: **addresses and byte strings are read alike in either
  case.**
* `Address.checked_of_checked`, `Bytes.ofHex?_toHex`: what has been read is read again as it is.
-/

namespace SwapRouter

/-! ## Decimal texts -/

namespace Text

variable {c : Char} {cs : List Char} {n : ℕ}

/-- What a numeral needs to know of a decimal digit of ASCII. -/
theorem of_isDigit (h : c.isDigit = true) :
    decimalDigit? c = some (c.toNat - '0'.toNat) ∧ isBlank c = false ∧ c ≠ '_' ∧ c ≠ '-' ∧ c ≠ '+' := by
  have hrun : ∀ n < 128, (Char.ofNat n).isDigit = true →
      decimalDigit? (Char.ofNat n) = some ((Char.ofNat n).toNat - '0'.toNat) ∧
        isBlank (Char.ofNat n) = false ∧ Char.ofNat n ≠ '_' ∧ Char.ofNat n ≠ '-' ∧ Char.ofNat n ≠ '+' := by
    decide +kernel
  have hascii : c.toNat < 128 := by
    rw [Char.isDigit, Bool.and_eq_true, decide_eq_true_eq, decide_eq_true_eq] at h
    exact Nat.lt_of_le_of_lt (UInt32.le_iff_toNat_le.1 h.2) (by decide)
  have hc := hrun c.toNat hascii
  rw [Char.ofNat_toNat] at hc
  exact hc h

/-- Digits alone are read one by one. -/
theorem separatedDigits?_of_isDigit (hne : cs ≠ []) (h : ∀ c ∈ cs, c.isDigit = true) :
    separatedDigits? decimalDigit? cs = some (cs.map fun c => c.toNat - '0'.toNat) := by
  induction cs with
  | nil => exact absurd rfl hne
  | cons c cs ih =>
    obtain ⟨hc, hcs⟩ := List.forall_mem_cons.1 h
    cases cs with
    | nil => rw [separatedDigits?, (of_isDigit hc).1]; rfl
    | cons next cs =>
      rw [separatedDigits?, (of_isDigit hc).1, ih (List.cons_ne_nil _ _) hcs]
      · rfl
      · exact List.cons_ne_nil _ _
      · rintro rest hrest
        exact (of_isDigit (hcs next List.mem_cons_self)).2.2.1 (List.cons.inj hrest).1

theorem ofDigits_toDigits (n : ℕ) :
    ofDigits 10 ((Nat.toDigits 10 n).map fun c => c.toNat - '0'.toNat) = n := by
  rw [ofDigits, List.foldl_map, ← Nat.ofDigitChars_eq_foldl]
  exact Nat.ofDigitChars_ten_toDigits

/-- A text of digits has no sign. -/
theorem takeSign_of_isDigit (h : ∀ c ∈ cs, c.isDigit = true) : takeSign cs = (false, cs) := by
  unfold takeSign
  split
  next rest => exact absurd rfl (of_isDigit (h '-' List.mem_cons_self)).2.2.2.1
  next rest => exact absurd rfl (of_isDigit (h '+' List.mem_cons_self)).2.2.2.2
  next => rfl

/-- **A decimal text is read as its number**, if it is short enough to be read at all. -/
theorem decimalInteger?_toString (h : (Nat.toDigits 10 n).length ≤ maxDigits) :
    decimalInteger? (String.ofList (Nat.toDigits 10 n)) = some (n : ℤ) := by
  have hdigits : ∀ c ∈ Nat.toDigits 10 n, c.isDigit = true := fun c hc =>
    Nat.isDigit_of_mem_toDigits (by decide) (by decide) hc
  have htrim := trimBoth_eq_self fun c hc => (of_isDigit (hdigits c hc)).2.1
  rw [decimalInteger?, String.toList_ofList, htrim, takeSign_of_isDigit hdigits]
  dsimp only
  rw [separatedDigits?_of_isDigit Nat.toDigits_ne_nil hdigits]
  simp only [Option.bind_eq_bind, Option.bind_some, List.length_map, if_pos h, ofDigits_toDigits]
  rfl

end Text

namespace Uint256

variable {n : ℤ} {a : Uint256}

/-- **The decimal text of an amount is read as the amount.** -/
theorem ofText_toString (h : ofInt n = .ok a) : ofText (toString n) = .ok a := by
  obtain rfl := ofInt_eq_ok_iff.1 h
  have htext : toString (a.toNat : ℤ) = String.ofList (Nat.toDigits 10 a.toNat) :=
    Nat.repr_eq_ofList_toDigits
  have hplain : (Nat.toDigits 10 a.toNat).filter (· ≠ '_') = Nat.toDigits 10 a.toNat := by
    refine List.filter_eq_self.2 fun c hc => decide_eq_true ?_
    exact (Text.of_isDigit (Nat.isDigit_of_mem_toDigits (by decide) (by decide) hc)).2.2.1
  have hshort : (Nat.toDigits 10 a.toNat).length ≤ 78 :=
    (Nat.length_toDigits_le_iff (by decide) (by decide)).2 (a.isLt.trans (by decide))
  rw [ofText, htext, String.toList_ofList, hplain,
    Text.decimalInteger?_toString (hshort.trans (by decide))]
  exact h

end Uint256

/-! ## Letter case -/

/-- Two texts that differ in the case of letters of ASCII alone. -/
def Text.SameButCase (s s' : String) : Prop :=
  s.toList.map Text.lowerAscii = s'.toList.map Text.lowerAscii

namespace Address

variable {a b : Address}

/-- The case of its letters does not decide whether an address is well formed. -/
theorem isWellFormed_lowered (a : Address) :
    isWellFormed ⟨String.ofList (a.text.toList.map Text.lowerAscii)⟩ = a.isWellFormed := by
  rw [isWellFormed, isWellFormed, Text.chars_eq, Text.chars_eq, String.toList_ofList, List.length_map,
    Text.hexNumeral?_map_lowerAscii]
  obtain _ | ⟨c, _ | ⟨x, rest⟩⟩ := a.text.toList
  · rfl
  · rw [List.map_singleton]
    split
    next h => exact absurd (List.cons.inj h).2 (List.cons_ne_nil _ _).symm
    next =>
      split
      next h => exact absurd (List.cons.inj h).2 (List.cons_ne_nil _ _).symm
      next => rfl
  · have hmark : (Text.lowerAscii x = 'x' || Text.lowerAscii x = 'X') = (x = 'x' || x = 'X') := by
      rw [← Bool.decide_or, ← Bool.decide_or]
      exact decide_eq_decide.2 (Text.readsAs_lowerAscii x).mark
    rw [List.map_cons, List.map_cons]
    split
    next y ys h =>
      obtain ⟨hzero, hrest⟩ := List.cons.inj h
      obtain rfl := (Text.readsAs_lowerAscii c).zero.1 hzero
      obtain ⟨rfl, -⟩ := List.cons.inj hrest
      exact congrArg (fun b => b && _ && _) hmark
    next hnot =>
      split
      next y ys h =>
        obtain ⟨rfl, -⟩ := List.cons.inj h
        exact absurd (by rw [(Text.readsAs_lowerAscii '0').zero.2 rfl]) (hnot _ _)
      next => rfl

/-- **An address is read alike in either case**, to the same normal form. -/
theorem checked_congr (h : Text.SameButCase a.text b.text) (ha : a.isWellFormed = true) :
    b.checked = a.checked := by
  have hlowered : (⟨String.ofList (b.text.toList.map Text.lowerAscii)⟩ : Address) =
      ⟨String.ofList (a.text.toList.map Text.lowerAscii)⟩ := by rw [h]
  have hb : b.isWellFormed = true := by
    rw [← isWellFormed_lowered b, hlowered, isWellFormed_lowered, ha]
  rw [checked, checked, if_pos ha, if_pos hb, normal_of_isWellFormed ha, normal_of_isWellFormed hb,
    hlowered]

/-- An address that has been read. -/
theorem checked_eq_ok_iff : a.checked = .ok b ↔ a.isWellFormed = true ∧ a.normal = b := by
  rw [checked]
  split
  next h => simp [h]
  next h => simp [h]

/-- **An address that has been read is read again as it is.** -/
theorem checked_of_checked (h : a.checked = .ok b) : b.checked = .ok b := by
  obtain ⟨ha, rfl⟩ := checked_eq_ok_iff.1 h
  exact checked_eq_ok_iff.2 ⟨isWellFormed_normal ha, normal_normal ha⟩

end Address

namespace Bytes

variable {s s' : String}

/-- A text without a mark is left as it is. -/
theorem dropMark_eq_self {cs : List Char}
    (h : ∀ x rest, cs = '0' :: x :: rest → ¬ (x = 'x' ∨ x = 'X')) : dropMark cs = cs := by
  unfold dropMark
  split
  next rest => exact absurd (Or.inl rfl) (h _ _ rfl)
  next rest => exact absurd (Or.inr rfl) (h _ _ rfl)
  next => rfl

theorem dropMark_map_lowerAscii (cs : List Char) :
    dropMark (cs.map Text.lowerAscii) = (dropMark cs).map Text.lowerAscii := by
  by_cases hmark : ∃ x rest, cs = '0' :: x :: rest ∧ (x = 'x' ∨ x = 'X')
  · obtain ⟨x, rest, rfl, hx⟩ := hmark
    have hzero : Text.lowerAscii '0' = '0' := by decide
    have hlower : Text.lowerAscii x = 'x' := by rcases hx with rfl | rfl <;> decide
    rw [List.map_cons, List.map_cons, hzero, hlower]
    rcases hx with rfl | rfl <;> rfl
  · rw [dropMark_eq_self fun x rest hcs hx => hmark ⟨x, rest, hcs, hx⟩, dropMark_eq_self]
    rintro y ys hys hy
    obtain ⟨c, tail, rfl, hc, htail⟩ := List.map_eq_cons_iff.1 hys
    obtain ⟨x, rest, rfl, rfl, -⟩ := List.map_eq_cons_iff.1 htail
    obtain rfl := (Text.readsAs_lowerAscii c).zero.1 hc
    exact hmark ⟨x, rest, rfl, (Text.readsAs_lowerAscii x).mark.1 hy⟩

theorem ofHex?_lowered (s : String) :
    ofHex? (String.ofList (s.toList.map Text.lowerAscii)) = ofHex? s := by
  have hzero : '0' :: (dropMark s.toList).map Text.lowerAscii =
      ('0' :: dropMark s.toList).map Text.lowerAscii := by
    rw [List.map_cons, (Text.readsAs_lowerAscii '0').zero.2 rfl]
  rw [ofHex?, ofHex?, String.toList_ofList, dropMark_map_lowerAscii,
    List.length_map, hzero, ← apply_ite (List.map Text.lowerAscii), spacedPairs?_map_lowerAscii]

/-- **A byte string is read alike in either case.** -/
theorem ofHex?_congr (h : Text.SameButCase s s') : ofHex? s' = ofHex? s := by
  rw [← ofHex?_lowered s, ← ofHex?_lowered s', h]

/-- **The text of a byte string is read as the byte string.** -/
theorem ofHex?_toHex (bs : Bytes) : ofHex? bs.toHex = some bs := by
  have hbody : dropMark bs.toHex.toList = digits bs := by
    rw [toHex, String.toList_ofList]
    rfl
  have heven : ¬ (digits bs).length % 2 = 1 := by
    rw [length_digits]
    omega
  rw [ofHex?, hbody, if_neg heven,
    spacedPairs?_eq_pairs? fun c hc => isHexDigit_of_mem_digits hc, pairs?_digits]

end Bytes

end SwapRouter
