import SwapRouter.Proofs.JsonNames

/-!
# Texts sent in UTF-8

A text that is sent in UTF-8 is read back character by character: the first byte of a character tells
how many bytes follow it, each of those carries six bits of its code, and the bounds on the second byte
hold because a character is no half of a pair and no longer than it has to be.

JSON may be sent in other encodings, too.  The bytes of a text that holds an object tell that they are
UTF-8, for they start with two characters of ASCII other than zero.

* `Text.lenient_utf8Bytes`: **the bytes of a text of characters are read as the text.**
* `Json.readSent_utf8Bytes`: **an object that is sent in UTF-8 is read as its text.**
-/

namespace SwapRouter

namespace Text

variable {b : UInt8} {bs : Bytes} {c : Char} {n steps : ℕ}

/-! ## The bytes of a text -/

theorem utf8Bytes_ofChars (cs : List Char) :
    utf8Bytes (ofChars cs) = cs.flatMap String.utf8EncodeChar := by
  rw [utf8Bytes, (plainChars_ofChars cs).1]

/-- A character of ASCII takes one byte. -/
theorem length_flatMap_utf8EncodeChar {cs : List Char} (h : ∀ c ∈ cs, c.toNat < 0x80) :
    (cs.flatMap String.utf8EncodeChar).length = cs.length := by
  induction cs with
  | nil => rfl
  | cons c cs ih =>
    obtain ⟨hc, hcs⟩ := List.forall_mem_cons.1 h
    have hsize : c.utf8Size = 1 :=
      Char.utf8Size_eq_one_iff.2 (UInt32.le_iff_toNat_le.2 (Nat.le_of_lt_succ hc))
    rw [List.flatMap_cons, List.length_append, String.length_utf8EncodeChar, hsize, ih hcs,
      List.length_cons, Nat.add_comm]

/-! ## Reading a character -/

/-- The last byte of a character carries its last six bits. -/
theorem follow_last {code low high : ℕ} (hlow : low ≤ b.toNat) (hhigh : b.toNat ≤ high)
    (hcode : code * 64 + b.toNat % 64 = n) : follow 1 code low high (b :: bs) = (some n, 1) := by
  rw [follow, if_pos ⟨hlow, hhigh⟩, follow, hcode]

/-- A byte in front of others carries six bits, too. -/
theorem follow_succ {more code low high count : ℕ} (hlow : low ≤ b.toNat) (hhigh : b.toNat ≤ high)
    (hmore : follow more (code * 64 + b.toNat % 64) 0x80 0xBF bs = (some n, count)) :
    follow (more + 1) code low high (b :: bs) = (some n, count + 1) := by
  rw [follow, if_pos ⟨hlow, hhigh⟩, hmore]

/-- A character of more than one byte is read from its first byte on. -/
theorem lenientChars_of_leadOf {more code low high count : ℕ} (hb : 0x80 ≤ b.toNat)
    (hlead : leadOf b = some (more, code, low, high))
    (hfollow : follow more code low high bs = (some n, count)) :
    lenientChars (steps + 1) (b :: bs) = Char.ofNat n :: lenientChars steps (bs.drop count) := by
  have hhigh : ¬ b < 0x80 := fun h => absurd (UInt8.lt_iff_toNat_lt.1 h) (Nat.not_lt.2 hb)
  rw [lenientChars, if_neg hhigh, hlead]
  dsimp only
  rw [hfollow]
  rfl

theorem leadOf_of_two (hlow : 0xC2 ≤ b.toNat) (hhigh : b.toNat < 0xE0) :
    leadOf b = some (1, b.toNat - 0xC0, 0x80, 0xBF) := if_pos ⟨hlow, hhigh⟩

/-- Behind the first byte of three, the second one is bounded below if the character could be shorter,
and above if it could be a half. -/
theorem leadOf_of_three (hlow : 0xE0 ≤ b.toNat) (hhigh : b.toNat < 0xF0) :
    leadOf b = some (2, b.toNat - 0xE0, if b.toNat = 0xE0 then 0xA0 else 0x80,
      if b.toNat = 0xED then 0x9F else 0xBF) := by
  unfold leadOf
  dsimp only
  rw [if_neg (by omega)]
  split_ifs <;> first | omega | simp [*]

/-- Behind the first byte of four, the second one is bounded below if the character could be shorter,
and above by the greatest code. -/
theorem leadOf_of_four (hlow : 0xF0 ≤ b.toNat) (hhigh : b.toNat ≤ 0xF4) :
    leadOf b = some (3, b.toNat - 0xF0, if b.toNat = 0xF0 then 0x90 else 0x80,
      if b.toNat = 0xF4 then 0x8F else 0xBF) := by
  unfold leadOf
  dsimp only
  rw [if_neg (by omega), if_neg (by omega), if_neg (by omega), if_neg (by omega)]
  split_ifs <;> first | omega | simp [*]

theorem toNat_ofNat_of_lt (h : n < 256) : (UInt8.ofNat n).toNat = n := UInt8.toNat_ofNat_of_lt' h

/-- Which codes a character may have. -/
theorem toNat_cases (c : Char) : c.toNat < 0xD800 ∨ 0xE000 ≤ c.toNat ∧ c.toNat < 0x110000 := by
  rcases c.valid with h | ⟨h, h'⟩
  · exact Or.inl h
  · exact Or.inr ⟨h, h'⟩

theorem lenientChars_one (h : c.toNat ≤ 127) :
    lenientChars (steps + 1) ([UInt8.ofNat c.toNat] ++ bs) = c :: lenientChars steps bs := by
  have hbyte := toNat_ofNat_of_lt (n := c.toNat) (by omega)
  have hlow : UInt8.ofNat c.toNat < 0x80 :=
    UInt8.lt_iff_toNat_lt.2 (Nat.lt_of_le_of_lt (Nat.le_of_eq hbyte) (Nat.lt_succ_of_le h))
  rw [List.singleton_append, lenientChars, if_pos hlow, hbyte, Char.ofNat_toNat]

theorem lenientChars_two (hlow : 127 < c.toNat) (hhigh : c.toNat ≤ 2047) :
    lenientChars (steps + 1)
      ([UInt8.ofNat (c.toNat / 64 % 32 + 192), UInt8.ofNat (c.toNat % 64 + 128)] ++ bs) =
      c :: lenientChars steps bs := by
  have hfirst := toNat_ofNat_of_lt (n := c.toNat / 64 % 32 + 192) (by omega)
  have hsecond := toNat_ofNat_of_lt (n := c.toNat % 64 + 128) (by omega)
  refine (lenientChars_of_leadOf (by omega) (leadOf_of_two (by omega) (by omega))
    (follow_last (n := c.toNat) (by omega) (by omega) (by omega))).trans ?_
  rw [Char.ofNat_toNat]
  rfl

theorem lenientChars_three (hlow : 2047 < c.toNat) (hhigh : c.toNat ≤ 65535) :
    lenientChars (steps + 1)
      ([UInt8.ofNat (c.toNat / 4096 % 16 + 224), UInt8.ofNat (c.toNat / 64 % 64 + 128),
        UInt8.ofNat (c.toNat % 64 + 128)] ++ bs) = c :: lenientChars steps bs := by
  have hfirst := toNat_ofNat_of_lt (n := c.toNat / 4096 % 16 + 224) (by omega)
  have hsecond := toNat_ofNat_of_lt (n := c.toNat / 64 % 64 + 128) (by omega)
  have hthird := toNat_ofNat_of_lt (n := c.toNat % 64 + 128) (by omega)
  have hcases := toNat_cases c
  refine (lenientChars_of_leadOf (by omega) (leadOf_of_three (by omega) (by omega))
    (follow_succ ?_ ?_ (follow_last (n := c.toNat) (by omega) (by omega) (by omega)))).trans ?_
  · split <;> omega
  · split <;> omega
  · rw [Char.ofNat_toNat]
    rfl

theorem lenientChars_four (hlow : 65535 < c.toNat) :
    lenientChars (steps + 1)
      ([UInt8.ofNat (c.toNat / 262144 % 8 + 240), UInt8.ofNat (c.toNat / 4096 % 64 + 128),
        UInt8.ofNat (c.toNat / 64 % 64 + 128), UInt8.ofNat (c.toNat % 64 + 128)] ++ bs) =
      c :: lenientChars steps bs := by
  have hfirst := toNat_ofNat_of_lt (n := c.toNat / 262144 % 8 + 240) (by omega)
  have hsecond := toNat_ofNat_of_lt (n := c.toNat / 4096 % 64 + 128) (by omega)
  have hthird := toNat_ofNat_of_lt (n := c.toNat / 64 % 64 + 128) (by omega)
  have hfourth := toNat_ofNat_of_lt (n := c.toNat % 64 + 128) (by omega)
  have hcases := toNat_cases c
  refine (lenientChars_of_leadOf (by omega) (leadOf_of_four (by omega) (by omega))
    (follow_succ ?_ ?_ (follow_succ (by omega) (by omega)
      (follow_last (n := c.toNat) (by omega) (by omega) (by omega))))).trans ?_
  · split <;> omega
  · split <;> omega
  · rw [Char.ofNat_toNat]
    rfl

/-- **A character is read back from its bytes.** -/
theorem lenientChars_utf8EncodeChar (c : Char) (bs : Bytes) :
    lenientChars (steps + 1) (String.utf8EncodeChar c ++ bs) = c :: lenientChars steps bs := by
  unfold String.utf8EncodeChar
  dsimp only
  split
  next h => exact lenientChars_one h
  next h =>
    split
    next h' => exact lenientChars_two (Nat.lt_of_not_le h) h'
    next h' =>
      split
      next h'' => exact lenientChars_three (Nat.lt_of_not_le h') h''
      next h'' => exact lenientChars_four (Nat.lt_of_not_le h'')

theorem lenientChars_flatMap {cs : List Char}
    (h : (cs.flatMap String.utf8EncodeChar).length ≤ steps) :
    lenientChars steps (cs.flatMap String.utf8EncodeChar) = cs := by
  induction cs generalizing steps with
  | nil => cases steps <;> rfl
  | cons c cs ih =>
    have hpos : 0 < (String.utf8EncodeChar c).length := String.length_utf8EncodeChar c ▸ c.utf8Size_pos
    rw [List.flatMap_cons, List.length_append] at h
    obtain ⟨steps, rfl⟩ : ∃ n, steps = n + 1 := ⟨steps - 1, by omega⟩
    rw [List.flatMap_cons, lenientChars_utf8EncodeChar, ih (by omega)]

/-- **The bytes of a text of characters are read as the text.** -/
theorem lenient_utf8Bytes (cs : List Char) : lenient (utf8Bytes (ofChars cs)) = ofChars cs := by
  rw [lenient, utf8Bytes_ofChars, lenientChars_flatMap (Nat.le_refl _)]

end Text

namespace Json

variable {cs rest : List Char} {found : List (String × Json)} {steps room : ℕ} {s : String}

/-! ## Objects that are sent -/

/-- The characters with which an object starts: blanks, its brace, and what may stand behind it. -/
def IsMark (c : Char) : Prop := isGap c = true ∨ c = '\x7b' ∨ c = '\x7d' ∨ c = '\x22'

theorem IsMark.bounds {c : Char} (h : IsMark c) : 0 < c.toNat ∧ c.toNat ≤ 127 := by
  rcases h with h | rfl | rfl | rfl
  · simp only [isGap, Bool.or_eq_true, decide_eq_true_eq] at h
    rcases h with ((rfl | rfl) | rfl) | rfl <;> decide
  all_goals decide

theorem IsMark.ne_mark {c : Char} (h : IsMark c) : c ≠ Text.mark := by
  rintro rfl
  exact absurd h.bounds.2 (by decide)

/-- Behind blanks stands what is read. -/
theorem isMark_of_skipGaps {c : Char} (hc : IsMark c) (h : skipGaps cs = c :: rest) :
    ∃ d ds, cs = d :: ds ∧ IsMark d := by
  cases cs with
  | nil => cases h
  | cons d ds =>
    refine ⟨d, ds, rfl, ?_⟩
    by_cases hd : isGap d = true
    · exact Or.inl hd
    · rw [skipGaps, List.dropWhile_cons_of_neg hd] at h
      obtain ⟨rfl, -⟩ := List.cons.inj h
      exact hc

theorem exists_quote_of_fields {fields : List (String × Json)}
    (h : Json.fields steps room cs found = .ok (fields, rest)) : ∃ cs', cs = '\x22' :: cs' := by
  unfold Json.fields at h
  split at h
  · cases h
  · exact ⟨_, rfl⟩
  · cases h

/-- An object is read from a brace and what may stand behind it. -/
theorem exists_brace_of_value {fields : List (String × Json)}
    (h : Json.value steps room cs = .ok (.obj fields, rest)) :
    ∃ c cs', cs = '\x7b' :: c :: cs' ∧ IsMark c := by
  unfold Json.value at h
  split at h
  · cases h
  · cases h
  · cases h
  · split at h
    · cases h
    · obtain ⟨⟨items, rest⟩, -, hj⟩ := map_eq_ok_iff.1 h
      cases hj
  next steps room rest' =>
    have hmark : ∃ c rest'', skipGaps rest' = c :: rest'' ∧ IsMark c := by
      split at h
      next rest'' hskip => exact ⟨_, rest'', hskip, Or.inr (Or.inr (Or.inl rfl))⟩
      next hskip =>
        obtain ⟨⟨items, rest⟩, hfields, -⟩ := map_eq_ok_iff.1 h
        obtain ⟨cs', hcs'⟩ := exists_quote_of_fields hfields
        exact ⟨_, cs', hcs', Or.inr (Or.inr (Or.inr rfl))⟩
    obtain ⟨c, rest'', hskip, hc⟩ := hmark
    obtain ⟨d, ds, rfl, hd⟩ := isMark_of_skipGaps hc hskip
    exact ⟨d, ds, rfl, hd⟩
  · exact (isFlat_of_scalar h).elim

/-- Where a brace and a mark stand behind blanks, there are two marks in front. -/
theorem exists_marks_of_skipGaps {c d : Char} (hc : IsMark c) (hd : IsMark d)
    (h : skipGaps cs = c :: d :: rest) :
    ∃ c' d' rest', cs = c' :: d' :: rest' ∧ IsMark c' ∧ IsMark d' := by
  obtain ⟨c', cs, rfl, hc'⟩ := isMark_of_skipGaps hc h
  by_cases hgap : isGap c' = true
  · rw [skipGaps, List.dropWhile_cons_of_pos hgap] at h
    obtain ⟨d', rest', rfl, hd'⟩ := isMark_of_skipGaps hc h
    exact ⟨c', d', rest', rfl, hc', hd'⟩
  · rw [skipGaps, List.dropWhile_cons_of_neg hgap] at h
    obtain ⟨rfl, rfl⟩ := List.cons.inj h
    exact ⟨c', d, rest, rfl, hc', hd⟩

/-- A text that holds an object starts with two marks. -/
theorem exists_marks_of_read {fields : List (String × Json)} (h : read s = .ok (.obj fields)) :
    ∃ c d rest, s.toList = c :: d :: rest ∧ IsMark c ∧ IsMark d := by
  unfold read at h
  rw [Text.chars_eq] at h
  dsimp only at h
  split at h
  · cases h
  next found rest hvalue =>
    split at h
    · cases h
      obtain ⟨d, ds, hskip, hd⟩ := exists_brace_of_value hvalue
      exact exists_marks_of_skipGaps (Or.inr (Or.inl rfl)) hd hskip
    · cases h

/-- Two bytes of ASCII other than zero tell that bytes are UTF-8. -/
theorem ofJson_eq_utf8 {a b : UInt8} {bs : Bytes} (ha : 0 < a.toNat ∧ a.toNat ≤ 127)
    (hb : 0 < b.toNat) : Text.Encoding.ofJson (a :: b :: bs) = .utf8 := by
  have hzero : a ≠ 0 := fun h => by rw [h] at ha; exact absurd ha.1 (by decide)
  have hzero' : b ≠ 0 := fun h => by rw [h] at hb; exact absurd hb (by decide)
  unfold Text.Encoding.ofJson
  split
  next h => exact absurd (List.cons.inj h).1 hzero
  next h => rw [(List.cons.inj h).1] at ha; exact absurd ha.2 (by decide)
  next h => rw [(List.cons.inj h).1] at ha; exact absurd ha.2 (by decide)
  next h => rw [(List.cons.inj h).1] at ha; exact absurd ha.2 (by decide)
  next h =>
    cases h
    rw [if_neg hzero, if_neg hzero']
  next h =>
    cases h
    rw [if_neg hzero, if_neg hzero']
  next => rfl

/-- **An object that is sent in UTF-8 is read as its text.** -/
theorem readSent_utf8Bytes {chars : List Char} {fields : List (String × Json)}
    (h : read (Text.ofChars chars) = .ok (.obj fields)) (room : Option ℕ) :
    readSent (Text.utf8Bytes (Text.ofChars chars)) room = read (Text.ofChars chars) room := by
  obtain ⟨c, d, rest, hs, hc, hd⟩ := exists_marks_of_read h
  have hbytes : ∃ bs, Text.utf8Bytes (Text.ofChars chars) =
      UInt8.ofNat c.toNat :: UInt8.ofNat d.toNat :: bs := by
    have hone {c : Char} (hc : IsMark c) : String.utf8EncodeChar c = [UInt8.ofNat c.toNat] :=
      if_pos hc.bounds.2
    have hfirst := hs
    rw [Text.ofChars, String.toList_ofList] at hfirst
    obtain ⟨cs, rfl, hcs⟩ := Text.exists_cons_of_flatMap_ofChar hc.ne_mark hfirst
    obtain ⟨cs, rfl, -⟩ := Text.exists_cons_of_flatMap_ofChar hd.ne_mark hcs
    rw [Text.utf8Bytes_ofChars, List.flatMap_cons, List.flatMap_cons, hone hc, hone hd]
    exact ⟨_, rfl⟩
  obtain ⟨bs, hbytes⟩ := hbytes
  have hbyte {c : Char} (hc : IsMark c) : (UInt8.ofNat c.toNat).toNat = c.toNat :=
    Text.toNat_ofNat_of_lt (Nat.lt_of_le_of_lt hc.bounds.2 (by decide))
  have hencoding : Text.Encoding.ofJson (Text.utf8Bytes (Text.ofChars chars)) = .utf8 := by
    rw [hbytes]
    exact ofJson_eq_utf8 ((hbyte hc).symm ▸ hc.bounds) ((hbyte hd).symm ▸ hd.bounds.1)
  have hmark : c ≠ byteOrderMark := by
    rintro rfl
    exact absurd hc.bounds.2 (by decide)
  rw [readSent, hencoding, Text.Encoding.decode?, Text.lenient_utf8Bytes]
  dsimp only
  rw [hs]
  dsimp only
  rw [if_neg hmark]

end Json

end SwapRouter
