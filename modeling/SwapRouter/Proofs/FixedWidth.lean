import Mathlib.Data.List.Basic
import SwapRouter.Proofs.Outcome
import SwapRouter.Venue.BalancerV2

/-!
# Texts that stand for a fixed number of bytes

An address and the id of a pool are accepted by their length and by a reading of their digits, and
the bytes are read by another one, which skips the blanks between two bytes.  A text that is accepted
therefore stands for as many bytes as it should exactly if every character behind its mark is a
hexadecimal digit.  Blanks make it stand for fewer bytes; an underscore or a digit of another script,
which a numeral may hold, makes an accepted address stand for none at all.

The normal form of an address is compared where its bytes are meant.  With digits alone it is the
text of the bytes, so two addresses have the same bytes exactly if they have the same normal form.

* `Bytes.length_of_spacedPairs?`: how many characters are read for a number of bytes.
* `Address.normal_eq_ofBytes`: the normal form of an address with hexadecimal digits.
* `fixedWidth`: **when addresses and ids of pools are read as what they should be.**
-/

namespace SwapRouter

namespace Bytes

variable {c : Char} {cs : List Char} {bs : Bytes}

/-! ## Hexadecimal digits -/

/-- Whether a character is a hexadecimal digit. -/
def isHexDigit (c : Char) : Bool := (hexValue? c).isSome

/-- What is known of a digit with a value: it is below sixteen, written in lower case as that value,
and no blank. -/
theorem of_hexValue? {v : Nat} (h : hexValue? c = some v) :
    c.toNat < 128 ∧ v < 16 ∧ hexDigit v = c.toLower ∧ Text.isAsciiBlank c = false := by
  have hrun : ∀ n < 128, (hexValue? (Char.ofNat n)).all fun v => v < 16 &&
      hexDigit v = (Char.ofNat n).toLower && !Text.isAsciiBlank (Char.ofNat n) := by decide
  have hascii : c.toNat < 128 := by
    have hle (d : Char) (hd : d.toNat < 128) (hc : c ≤ d) : c.toNat < 128 :=
      Nat.lt_of_le_of_lt (UInt32.le_iff_toNat_le.1 (Char.le_def.1 hc)) hd
    simp only [hexValue?, Bool.and_eq_true, decide_eq_true_eq] at h
    split at h
    next hdigit => exact hle '9' (by decide) hdigit.2
    split at h
    next hsmall => exact hle 'f' (by decide) hsmall.2
    split at h
    next hcapital => exact hle 'F' (by decide) hcapital.2
    next => cases h
  have hc := hrun c.toNat hascii
  rw [Char.ofNat_toNat, h] at hc
  simpa [hascii, and_assoc] using hc

theorem isAsciiBlank_eq_false (h : isHexDigit c = true) : Text.isAsciiBlank c = false := by
  obtain ⟨v, hv⟩ := Option.isSome_iff_exists.1 h
  exact (of_hexValue? hv).2.2.2

/-- The halves of a byte are found again. -/
theorem halves_ofNat {high low : Nat} (hhigh : high < 16) (hlow : low < 16) :
    (UInt8.ofNat (16 * high + low)).toNat / 16 = high ∧
      (UInt8.ofNat (16 * high + low)).toNat % 16 = low := by
  rw [UInt8.toNat_ofNat']
  omega

/-- **The digits of the bytes that are read** are those of the text, in lower case. -/
theorem digits_of_pairs? (h : pairs? cs = some bs) : digits bs = cs.map Char.toLower := by
  induction cs using pairs?.induct generalizing bs with
  | case1 =>
    cases h
    rfl
  | case2 high low rest ih =>
    rw [pairs?] at h
    obtain ⟨hv, hhigh, h⟩ := Option.bind_eq_some_iff.1 h
    obtain ⟨lv, hlow, h⟩ := Option.bind_eq_some_iff.1 h
    obtain ⟨bs', hrest, h⟩ := Option.bind_eq_some_iff.1 h
    cases h
    obtain ⟨-, hlt, hhex, -⟩ := of_hexValue? hhigh
    obtain ⟨-, hlt', hhex', -⟩ := of_hexValue? hlow
    obtain ⟨hdiv, hmod⟩ := halves_ofNat hlt hlt'
    rw [digits, List.flatMap_cons, hdiv, hmod, hhex, hhex', ← digits, ih hrest]
    rfl
  | case3 cs hnil hcons =>
    rw [pairs?] at h
    · cases h
    · exact hnil
    · exact hcons

/-- Digits alone are read as pairs, half as many as there are digits. -/
theorem exists_pairs? (hdigits : ∀ c ∈ cs, isHexDigit c = true) {n : Nat}
    (hlen : cs.length = 2 * n) : ∃ bs, pairs? cs = some bs ∧ bs.length = n := by
  induction n generalizing cs with
  | zero =>
    obtain rfl := List.length_eq_zero_iff.1 hlen
    exact ⟨[], rfl, rfl⟩
  | succ n ih =>
    obtain _ | ⟨high, _ | ⟨low, rest⟩⟩ := cs
    · cases hlen
    · rw [List.length_singleton] at hlen
      omega
    · obtain ⟨hhigh, hothers⟩ := List.forall_mem_cons.1 hdigits
      obtain ⟨hlow, hrest⟩ := List.forall_mem_cons.1 hothers
      obtain ⟨hv, hhv⟩ := Option.isSome_iff_exists.1 hhigh
      obtain ⟨lv, hlv⟩ := Option.isSome_iff_exists.1 hlow
      rw [List.length_cons, List.length_cons] at hlen
      obtain ⟨bs, hbs, hcount⟩ := ih hrest (by omega)
      refine ⟨UInt8.ofNat (16 * hv + lv) :: bs, ?_, by rw [List.length_cons, hcount]⟩
      rw [pairs?, hhv, hlv, hbs]
      rfl

/-- Digits alone are read without looking for blanks. -/
theorem spacedPairs?_eq_pairs? (hdigits : ∀ c ∈ cs, isHexDigit c = true) :
    spacedPairs? cs = pairs? cs := by
  induction cs using pairs?.induct with
  | case1 => rfl
  | case2 high low rest ih =>
    obtain ⟨hhigh, hothers⟩ := List.forall_mem_cons.1 hdigits
    rw [spacedPairs?, isAsciiBlank_eq_false hhigh, if_neg Bool.false_ne_true,
      ih (List.forall_mem_cons.1 hothers).2, pairs?]
  | case3 cs hnil hcons =>
    obtain _ | ⟨c, _ | ⟨d, rest⟩⟩ := cs
    · exact absurd rfl hnil
    · rw [spacedPairs?, isAsciiBlank_eq_false (hdigits c List.mem_cons_self),
        if_neg Bool.false_ne_true, pairs?]
      · exact hnil
      · exact hcons
    · exact absurd rfl (hcons c d rest)

/-- **How many characters are read for a number of bytes**: two for each of them, and the blanks. -/
theorem length_of_spacedPairs? (h : spacedPairs? cs = some bs) :
    cs.length = 2 * bs.length + cs.countP Text.isAsciiBlank ∧
      ∀ c ∈ cs, Text.isAsciiBlank c = false → isHexDigit c = true := by
  induction cs using spacedPairs?.induct generalizing bs with
  | case1 =>
    cases h
    exact ⟨rfl, List.forall_mem_nil _⟩
  | case2 c hblank =>
    rw [spacedPairs?, if_pos hblank] at h
    cases h
    refine ⟨by rw [List.countP_cons, if_pos hblank]; rfl, List.forall_mem_cons.2 ⟨?_, ?_⟩⟩
    · exact fun hno => absurd hblank (Bool.eq_false_iff.1 hno)
    · exact List.forall_mem_nil _
  | case3 c hblank =>
    rw [spacedPairs?, if_neg hblank] at h
    cases h
  | case4 high low rest hblank ih =>
    rw [spacedPairs?, if_pos hblank] at h
    obtain ⟨hlen, hdigits⟩ := ih h
    refine ⟨?_, List.forall_mem_cons.2 ⟨?_, hdigits⟩⟩
    · rw [List.countP_cons, if_pos hblank, List.length_cons, hlen, Nat.add_assoc]
    · exact fun hno => absurd hblank (Bool.eq_false_iff.1 hno)
  | case5 high low rest hblank ih =>
    rw [spacedPairs?, if_neg hblank] at h
    obtain ⟨hv, hhigh, h⟩ := Option.bind_eq_some_iff.1 h
    obtain ⟨lv, hlow, h⟩ := Option.bind_eq_some_iff.1 h
    obtain ⟨bs', hrest, h⟩ := Option.bind_eq_some_iff.1 h
    cases h
    have hhigh' : isHexDigit high = true := Option.isSome_of_eq_some hhigh
    have hlow' : isHexDigit low = true := Option.isSome_of_eq_some hlow
    obtain ⟨hlen, hdigits⟩ := ih hrest
    refine ⟨?_, List.forall_mem_cons.2 ⟨fun _ => hhigh', List.forall_mem_cons.2
      ⟨fun _ => hlow', hdigits⟩⟩⟩
    rw [List.countP_cons, List.countP_cons, isAsciiBlank_eq_false hhigh',
      isAsciiBlank_eq_false hlow', List.length_cons, List.length_cons, List.length_cons, hlen]
    simp only [Bool.false_eq_true, if_false]
    omega

/-- A text of two characters for each of a number of bytes is read as that many exactly if it has
digits alone. -/
theorem exists_spacedPairs?_iff {n : Nat} (hlen : cs.length = 2 * n) :
    (∃ bs, spacedPairs? cs = some bs ∧ bs.length = n) ↔ ∀ c ∈ cs, isHexDigit c = true := by
  constructor
  · rintro ⟨bs, hbs, rfl⟩
    obtain ⟨hread, hdigits⟩ := length_of_spacedPairs? hbs
    have hnone : cs.countP Text.isAsciiBlank = 0 := by omega
    exact fun c hc => hdigits c hc (Bool.eq_false_iff.2 (List.countP_eq_zero.1 hnone c hc))
  · intro hdigits
    rw [spacedPairs?_eq_pairs? hdigits]
    exact exists_pairs? hdigits hlen

end Bytes

/-- A text of ASCII is mapped to lower case character by character. -/
theorem Text.lowercase_of_ascii {s : String} (h : ∀ c ∈ s.toList, c.toNat < 128) :
    Text.lowercase s = String.ofList (s.toList.map Char.toLower) := by
  have hsigma : 'Σ' ∉ s.toList := fun hmem => absurd (h _ hmem) (by decide)
  have hchars : s.toList.flatMap Text.lowerChar = s.toList.map Char.toLower := by
    rw [List.map_eq_flatMap]
    exact List.flatMap_congr fun c hc => by rw [Text.lowerChar, if_pos (h c hc)]
  rw [Text.lowercase, Text.chars_eq, Text.lowerBehind_eq_flatMap _ _ hsigma, hchars]

/-! ## Addresses -/

namespace Address

variable {a b : Address} {bs : Bytes}

/-- Whether everything behind the mark of an address is a hexadecimal digit. -/
def hasHexDigits (a : Address) : Bool := (a.text.toList.drop 2).all Bytes.isHexDigit

/-- A well-formed address starts with its mark and has forty characters behind it. -/
theorem exists_of_isWellFormed (h : a.isWellFormed = true) :
    ∃ x cs, a.text.toList = '0' :: x :: cs ∧ (x = 'x' ∨ x = 'X') ∧ cs.length = 40 := by
  rw [isWellFormed, Text.chars_eq] at h
  split at h
  next x cs hcs =>
    rw [hcs] at h
    simp only [Bool.and_eq_true, Bool.or_eq_true, decide_eq_true_eq, List.length_cons] at h
    exact ⟨x, cs, hcs, h.1.1, by omega⟩
  next => cases h

/-- A well-formed address stands for twenty bytes exactly if it has digits alone. -/
theorem exists_wellFormedBytes_iff (h : a.isWellFormed = true) :
    (∃ bs, a.wellFormedBytes = .ok bs ∧ bs.length = 20) ↔ a.hasHexDigits = true := by
  obtain ⟨x, cs, hcs, -, hlen⟩ := exists_of_isWellFormed h
  have hdrop : a.text.toList.drop 2 = cs := by rw [hcs]; rfl
  rw [hasHexDigits, List.all_eq_true, wellFormedBytes, Text.chars_eq, hdrop,
    ← Bytes.exists_spacedPairs?_iff (n := 20) hlen]
  cases Bytes.spacedPairs? cs <;> simp

/-- **The normal form of an address with hexadecimal digits** is the text of its bytes. -/
theorem normal_eq_ofBytes (h : a.isWellFormed = true) (hdigits : a.hasHexDigits = true)
    (hbs : a.wellFormedBytes = .ok bs) : a.normal = ofBytes bs := by
  obtain ⟨x, cs, hcs, hx, -⟩ := exists_of_isWellFormed h
  have hdrop : a.text.toList.drop 2 = cs := by rw [hcs]; rfl
  rw [hasHexDigits, hdrop, List.all_eq_true] at hdigits
  have hpairs : Bytes.pairs? cs = some bs := by
    rw [wellFormedBytes, Text.chars_eq, hdrop, Bytes.spacedPairs?_eq_pairs? hdigits] at hbs
    split at hbs
    next bs' hbs' =>
      cases hbs
      exact hbs'
    next => cases hbs
  have hlower : Text.lowercase a.text = bs.toHex := by
    have hascii : ∀ c ∈ a.text.toList, c.toNat < 128 := by
      rw [hcs]
      refine List.forall_mem_cons.2 ⟨by decide, List.forall_mem_cons.2 ⟨?_, fun c hc => ?_⟩⟩
      · rcases hx with rfl | rfl <;> decide
      · obtain ⟨v, hv⟩ := Option.isSome_iff_exists.1 (hdigits c hc)
        exact (Bytes.of_hexValue? hv).1
    have hmark : x.toLower = 'x' := by rcases hx with rfl | rfl <;> rfl
    rw [Text.lowercase_of_ascii hascii, hcs, List.map_cons, List.map_cons, hmark, Bytes.toHex,
      Bytes.digits_of_pairs? hpairs]
    rfl
  have hmark : "0x".toList.isPrefixOf bs.toHex.toList = true := by
    simp [Bytes.toHex]
  rw [normal, hlower, Text.chars_eq]
  simp only [hmark, if_true, ofBytes]

theorem ofBytes_injective {bs bs' : Bytes} (h : ofBytes bs = ofBytes bs') : bs = bs' := by
  have hdigits : Bytes.digits bs = Bytes.digits bs' := by
    simpa [ofBytes, Bytes.toHex, String.ofList_inj] using h
  have hpairs := Bytes.pairs?_digits bs
  rw [hdigits, Bytes.pairs?_digits] at hpairs
  exact (Option.some.inj hpairs).symm

/-- An address stands for twenty bytes. -/
def StandsFor (a : Address) (bs : Bytes) : Prop := a.toBytes = .ok bs ∧ bs.length = 20

theorem exists_standsFor_iff (h : a.isWellFormed = true) :
    (∃ bs, a.StandsFor bs) ↔ a.hasHexDigits = true := by
  rw [← exists_wellFormedBytes_iff h]
  simp only [StandsFor, toBytes, if_pos h]

theorem StandsFor.normal_eq (h : a.isWellFormed = true) (hbs : a.StandsFor bs) :
    a.normal = ofBytes bs := by
  refine normal_eq_ofBytes h ((exists_standsFor_iff h).1 ⟨bs, hbs⟩) ?_
  rw [← hbs.1, toBytes, if_pos h]

/-- Accepted addresses stand for the same twenty bytes as soon as they have the same normal form,
exactly if those with the same normal form have digits alone. -/
theorem same_bytes_iff (ha : a.isWellFormed = true) (hb : b.isWellFormed = true) :
    ((∃ bs, a.StandsFor bs ∧ b.StandsFor bs) ↔ a.normal = b.normal) ↔
      (a.normal = b.normal → a.hasHexDigits = true ∧ b.hasHexDigits = true) := by
  constructor
  · intro hiff heq
    obtain ⟨bs, hbs, hbs'⟩ := hiff.2 heq
    exact ⟨(exists_standsFor_iff ha).1 ⟨bs, hbs⟩, (exists_standsFor_iff hb).1 ⟨bs, hbs'⟩⟩
  · intro hdigits
    constructor
    · rintro ⟨bs, hbs, hbs'⟩
      rw [hbs.normal_eq ha, hbs'.normal_eq hb]
    · intro heq
      obtain ⟨hda, hdb⟩ := hdigits heq
      obtain ⟨bs, hbs⟩ := (exists_standsFor_iff ha).2 hda
      obtain ⟨bs', hbs'⟩ := (exists_standsFor_iff hb).2 hdb
      obtain rfl : bs = bs' := by
        rw [hbs.normal_eq ha, hbs'.normal_eq hb] at heq
        exact ofBytes_injective heq
      exact ⟨bs, hbs, hbs'⟩

end Address

/-! ## Readings of a fixed width -/

/-- A reading comes to as many bytes as it should, or refuses the input as invalid. -/
def IsFixed (size : Nat) : Except Failure Bytes → Prop
  | .ok bs => bs.length = size
  | .error (.encoding e) => e.kind = .invalidInput
  | .error _ => False

/-- **An address in a field is read as twenty bytes or refused** exactly if it is refused or has
digits alone. -/
theorem Address.isFixed_fieldBytes_iff {a : Address} {field : String} :
    IsFixed 20 (a.fieldBytes field) ↔ (a.isWellFormed = true → a.hasHexDigits = true) := by
  rw [fieldBytes]
  split
  next h =>
    rw [imp_iff_right h, ← exists_wellFormedBytes_iff h, wellFormedBytes, Text.chars_eq]
    cases Bytes.spacedPairs? (a.text.toList.drop 2) <;> simp [IsFixed]
  next h => exact iff_of_true rfl fun hformed => absurd hformed h

/-- A text that is read as pairs of digits holds nothing that would have to be marked. -/
theorem Bytes.mark_notMem_of_spacedPairs? {cs : List Char} {bs : Bytes}
    (h : spacedPairs? cs = some bs) : Text.mark ∉ cs := fun hmem =>
  absurd ((length_of_spacedPairs? h).2 Text.mark hmem (by decide)) (by decide)

/-- **An id of a pool that is read** has 64 characters behind its mark, and they are read as pairs of
digits. -/
theorem BalancerV2.poolId_eq_ok_iff {id : String} {bs : Bytes} :
    poolId id = .ok bs ↔ ∃ x rest, id.toList = '0' :: x :: rest ∧ (x = 'x' ∨ x = 'X') ∧
      rest.length = 64 ∧ Bytes.spacedPairs? rest = some bs := by
  have hread {x : Char} {rest : List Char} (hid : id.toList = '0' :: x :: rest)
      (hx : x = 'x' ∨ x = 'X') : Bytes.ofHex? id =
        Bytes.spacedPairs? (if rest.length % 2 = 1 then '0' :: rest else rest) := by
    rw [Bytes.ofHex?, hid]
    rcases hx with rfl | rfl <;> rfl
  have hlength {x : Char} {rest : List Char} (hid : id.toList = '0' :: x :: rest)
      (hx : x = 'x' ∨ x = 'X') (hmark : Text.mark ∉ rest) :
      (Text.letters id).length = rest.length + 2 := by
    have hnot : Text.mark ∉ id.toList := by
      rw [hid, List.mem_cons, List.mem_cons, not_or, not_or]
      refine ⟨by decide, ?_, hmark⟩
      rcases hx with rfl | rfl <;> decide
    rw [Text.length_letters hnot, hid, List.length_cons, List.length_cons]
  constructor
  · intro h
    rw [poolId, Text.chars_eq] at h
    split at h
    next x rest hid =>
      split at h
      next hshape =>
        simp only [Bool.and_eq_true, Bool.or_eq_true, decide_eq_true_eq] at hshape
        obtain ⟨hx, hletters⟩ := hshape
        split at h
        next bs' hbs =>
          cases h
          rw [hread hid hx] at hbs
          have hmark : Text.mark ∉ rest := fun hmem => by
            refine Bytes.mark_notMem_of_spacedPairs? hbs ?_
            split
            next => exact List.mem_cons_of_mem _ hmem
            next => exact hmem
          have hlen : rest.length = 64 := by
            have := hlength hid hx hmark
            omega
          rw [hlen, if_neg (by decide)] at hbs
          exact ⟨x, rest, hid, hx, hlen, hbs⟩
        next => cases h
      next => cases h
    next => cases h
  · rintro ⟨x, rest, hid, hx, hlen, hbs⟩
    have hletters := hlength hid hx (Bytes.mark_notMem_of_spacedPairs? hbs)
    have hbytes : Bytes.ofHex? id = some bs := by
      rw [hread hid hx, hlen, if_neg (by decide), hbs]
    simp [poolId, hid, hx, hletters, hlen, hbytes]

/-- An id that is not read is refused as invalid. -/
theorem BalancerV2.kind_of_poolId {id : String} {e : EncodingError} (h : poolId id = .error e) :
    e.kind = .invalidInput := by
  rw [poolId] at h
  split at h
  next =>
    split at h
    next =>
      split at h
      next => cases h
      next => cases h; rfl
    next => cases h; rfl
  next => cases h; rfl

/-- Whether everything behind the mark of an id is a hexadecimal digit. -/
def BalancerV2.hasHexDigits (id : String) : Bool := (id.toList.drop 2).all Bytes.isHexDigit

/-- **The id of a pool is read as 32 bytes or refused** exactly if it is refused or has digits
alone. -/
theorem BalancerV2.isFixed_poolId_iff {id : String} :
    IsFixed 32 ((poolId id).mapError .encoding) ↔
      ((poolId id).toOption.isSome = true → hasHexDigits id = true) := by
  cases h : poolId id with
  | error e => exact iff_of_true (kind_of_poolId h) fun hsome => by cases hsome
  | ok bs =>
    obtain ⟨x, rest, hid, -, hlen, hbs⟩ := poolId_eq_ok_iff.1 h
    have hdrop : id.toList.drop 2 = rest := by rw [hid]; rfl
    rw [hasHexDigits, hdrop, List.all_eq_true, ← Bytes.exists_spacedPairs?_iff (n := 32) hlen, hbs]
    simp [IsFixed, Except.mapError, Except.toOption]

/-- **When texts stand for a fixed number of bytes.**  An address in a field is read as twenty bytes
or refused, and the id of a pool as 32 bytes or refused, exactly if a text that is accepted has digits
alone behind its mark.  Two addresses that are accepted stand for the same twenty bytes as soon as
they are stored in the same form, and only then, exactly if those in the same form have digits
alone. -/
theorem fixedWidth (a b stored stored' : Address) (field id : String) :
    (IsFixed 20 (a.fieldBytes field) ↔ (a.isWellFormed = true → a.hasHexDigits = true)) ∧
    (IsFixed 32 ((BalancerV2.poolId id).mapError .encoding) ↔
      ((BalancerV2.poolId id).toOption.isSome = true → BalancerV2.hasHexDigits id = true)) ∧
    (a.checked = .ok stored → b.checked = .ok stored' →
      (((∃ bs, a.StandsFor bs ∧ b.StandsFor bs) ↔ stored = stored') ↔
        (stored = stored' → a.hasHexDigits = true ∧ b.hasHexDigits = true))) := by
  refine ⟨Address.isFixed_fieldBytes_iff, BalancerV2.isFixed_poolId_iff, fun ha hb => ?_⟩
  have hchecked (a stored : Address) (h : a.checked = .ok stored) :
      a.isWellFormed = true ∧ a.normal = stored := by
    rw [Address.checked] at h
    split at h
    next hformed => exact ⟨hformed, Except.ok.inj h⟩
    next => cases h
  obtain ⟨hformed, rfl⟩ := hchecked a stored ha
  obtain ⟨hformed', rfl⟩ := hchecked b stored' hb
  exact Address.same_bytes_iff hformed hformed'

namespace Sample

/-- Two blanks stand where the last byte should. -/
def blanked : Address := ⟨"0x11111111111111111111111111111111111111  "⟩

/-- An underscore stands between two digits. -/
def separated : Address := ⟨"0x1111222233334444555566667777888899990_00"⟩

/-- An id of a pool with two blanks at its end. -/
def blankedId : String := "0x0b09dea16768f0799065c475be02919503cb2a350002000000000000000000  "

/-- These texts are accepted.  The first one is read as 19 bytes and the last one as 31, and reading
the second one is a defect; the first one is stored as itself and stands for no twenty bytes. -/
theorem not_isFixed_blanked :
    (blanked.fieldBytes "address").map List.length = .ok 19 ∧
      separated.fieldBytes "address" = .error .defect ∧
      (BalancerV2.poolId blankedId).map List.length = .ok 31 ∧
      blanked.checked = .ok blanked ∧ separated.checked = .ok separated ∧
      ¬ ∃ bs, blanked.StandsFor bs ∧ blanked.StandsFor bs := by
  have hformed : blanked.isWellFormed = true := by decide +kernel
  refine ⟨by decide +kernel, by decide +kernel, by decide +kernel, by decide +kernel,
    by decide +kernel, ?_⟩
  rintro ⟨bs, hbs, -⟩
  have hdigits := (Address.exists_standsFor_iff hformed).1 ⟨bs, hbs⟩
  exact absurd hdigits (by decide +kernel)

end Sample

end SwapRouter
