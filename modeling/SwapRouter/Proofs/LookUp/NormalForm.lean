import Mathlib.Data.List.TakeWhile
import SwapRouter.Approval
import SwapRouter.Proofs.Reason.Address

/-!
# The normal form of a well-formed address

A well-formed address is a hexadecimal numeral with blanks around it, and a numeral may hold digits of
every script.  None of these characters has a lower case form of its own outside ASCII: the digits and
the blanks of Unicode stand apart from its letters.  Hence the lower case form of such a text is made
character by character, it reads as the same numeral, and it is its own lower case form.

So the normal form of a well-formed address is well formed and normal, and an approval that is asked
for with the addresses of its key is the approval of that key.

Other texts have lower case forms that are not their own, such as a letter that becomes two.  Yet a lower
case form has no capitals of ASCII, so if it is well formed it is normal.

* `Address.isWellFormed_normal`, `Address.normal_normal`: **the normal form of a well-formed address.**
* `Address.normal_of_isWellFormed_normal`: a normal form that is well formed.
* `ApprovalKey.ofAddresses_self`: the key of the addresses of a key.
-/

namespace SwapRouter

namespace Text

variable {c : Char} {cs : List Char}

/-- The lower case form of a letter of ASCII; another character stays as it is. -/
def lowerAscii (c : Char) : Char := if c.toNat < 128 then c.toLower else c

theorem lowerAscii_of_ascii (h : c.toNat < 128) : lowerAscii c = c.toLower := if_pos h

theorem lowerAscii_of_wide (h : ¬ c.toNat < 128) : lowerAscii c = c := if_neg h

/-- What a numeral is made of, and what may stand around it. -/
inductive StandsInNumeral (c : Char) : Prop
  | digit (h : (hexDigit? c).isSome = true)
  | blank (h : isBlank c = true)
  | separator (h : c = '_')
  | mark (h : c = 'x' ∨ c = 'X')

/-! ## Characters of a numeral in lower case -/

/-- A character is what another one is to a reader of numerals. -/
structure ReadsAs (c d : Char) : Prop where
  hexDigit : hexDigit? c = hexDigit? d
  isBlank : isBlank c = isBlank d
  separator : c = '_' ↔ d = '_'
  zero : c = '0' ↔ d = '0'
  mark : c = 'x' ∨ c = 'X' ↔ d = 'x' ∨ d = 'X'
  lower : lowerAscii c = lowerAscii d

/-- A character stays as it is unless it is a capital letter of ASCII. -/
theorem lowerAscii_eq_self_or (c : Char) : lowerAscii c = c ∨ ∃ n < 26, c = Char.ofNat (65 + n) := by
  by_cases h : 'A'.val ≤ c.val ∧ c.val ≤ 'Z'.val
  · obtain ⟨hfirst, hlast⟩ : 65 ≤ c.toNat ∧ c.toNat ≤ 90 :=
      ⟨UInt32.le_iff_toNat_le.1 h.1, UInt32.le_iff_toNat_le.1 h.2⟩
    refine Or.inr ⟨c.toNat - 65, by omega, ?_⟩
    rw [Nat.add_sub_cancel' hfirst, Char.ofNat_toNat]
  · left
    rw [lowerAscii]
    split
    · exact dif_neg h
    · rfl

/-- **A reader of numerals does not see the case of a letter.** -/
theorem readsAs_lowerAscii (c : Char) : ReadsAs (lowerAscii c) c := by
  rcases lowerAscii_eq_self_or c with h | ⟨n, hn, rfl⟩
  · rw [h]
    exact ⟨rfl, rfl, Iff.rfl, Iff.rfl, Iff.rfl, rfl⟩
  · have hrun : ∀ n < 26,
        hexDigit? (lowerAscii (Char.ofNat (65 + n))) = hexDigit? (Char.ofNat (65 + n)) ∧
        isBlank (lowerAscii (Char.ofNat (65 + n))) = isBlank (Char.ofNat (65 + n)) ∧
        (lowerAscii (Char.ofNat (65 + n)) = '_' ↔ Char.ofNat (65 + n) = '_') ∧
        (lowerAscii (Char.ofNat (65 + n)) = '0' ↔ Char.ofNat (65 + n) = '0') ∧
        (lowerAscii (Char.ofNat (65 + n)) = 'x' ∨ lowerAscii (Char.ofNat (65 + n)) = 'X' ↔
          Char.ofNat (65 + n) = 'x' ∨ Char.ofNat (65 + n) = 'X') ∧
        lowerAscii (lowerAscii (Char.ofNat (65 + n))) = lowerAscii (Char.ofNat (65 + n)) := by decide
    obtain ⟨hdigit, hblank, hsep, hzero, hmark, hlower⟩ := hrun n hn
    exact ⟨hdigit, hblank, hsep, hzero, hmark, hlower⟩

/-- The tables of lower case forms list no code point of a range. -/
def isLetterFree (first last : ℕ) : Bool :=
  (lowerExpansions.all fun (n, _) => n < first || last < n) &&
    lowerRanges.all fun (low, high, _, _) => high < first || last < low

/-- The decimal digits of all scripts are no letters. -/
theorem isLetterFree_digits : (digitZeros.all fun first => isLetterFree first (first + 9)) = true := by
  decide +kernel

/-- The blanks are no letters. -/
theorem isLetterFree_blanks :
    ([0x85, 0xA0, 0x1680, 0x2028, 0x2029, 0x202F, 0x205F, 0x3000].all fun n => isLetterFree n n) = true ∧
      isLetterFree 0x2000 0x200A = true := by decide

theorem lookup_eq_none_of_forall_ne {β : Type} {l : List (ℕ × β)} {n : ℕ}
    (h : ∀ entry ∈ l, entry.1 ≠ n) : l.lookup n = none := by
  rw [List.lookup_eq_none_iff]
  intro entry hentry
  exact bne_iff_ne.2 (h entry hentry).symm

/-- A character that no table of lower case forms lists is its own lower case form. -/
theorem lowerChar_of_isLetterFree {first last : ℕ} (hwide : ¬ c.toNat < 128)
    (h : isLetterFree first last = true) (hfirst : first ≤ c.toNat) (hlast : c.toNat ≤ last) :
    lowerChar c = [c] := by
  rw [isLetterFree, Bool.and_eq_true, List.all_eq_true, List.all_eq_true] at h
  have hexpansion : lowerExpansions.lookup c.toNat = none := by
    refine lookup_eq_none_of_forall_ne fun entry hentry heq => ?_
    have hout := h.1 entry hentry
    rw [Bool.or_eq_true, decide_eq_true_eq, decide_eq_true_eq] at hout
    omega
  have hrange : (lowerRanges.find? fun (first, last, stride, _) =>
      first ≤ c.toNat && c.toNat ≤ last && (c.toNat - first) % stride == 0) = none := by
    rw [List.find?_eq_none]
    rintro ⟨low, high, stride, distance⟩ hentry hin
    have hout := h.2 _ hentry
    simp only [Bool.or_eq_true, Bool.and_eq_true, decide_eq_true_eq] at hout hin
    omega
  rw [lowerChar, if_neg hwide, mapCase, hexpansion, shiftCase]
  dsimp only
  rw [hrange]

theorem lowerChar_of_decimalDigit? (hwide : ¬ c.toNat < 128) {d : ℕ} (h : decimalDigit? c = some d) :
    lowerChar c = [c] := by
  obtain ⟨first, hfound, -⟩ := Option.map_eq_some_iff.1 h
  have hfree := List.all_eq_true.1 isLetterFree_digits first (List.mem_of_find?_eq_some hfound)
  have hrange := List.find?_some hfound
  rw [Bool.and_eq_true, decide_eq_true_eq, decide_eq_true_eq] at hrange
  exact lowerChar_of_isLetterFree hwide hfree hrange.1 hrange.2

theorem lowerChar_of_isWideBlank (hwide : ¬ c.toNat < 128) (h : isWideBlank c = true) :
    lowerChar c = [c] := by
  rw [isWideBlank, Bool.or_eq_true, List.contains_iff_mem] at h
  rcases h with h | h
  · have hfree := List.all_eq_true.1 isLetterFree_blanks.1 _ h
    exact lowerChar_of_isLetterFree hwide hfree le_rfl le_rfl
  · rw [Bool.and_eq_true, decide_eq_true_eq, decide_eq_true_eq] at h
    exact lowerChar_of_isLetterFree hwide isLetterFree_blanks.2 h.1 h.2

/-- **What a numeral is made of** has a lower case form only in ASCII. -/
theorem StandsInNumeral.lowerChar_eq (h : StandsInNumeral c) : lowerChar c = [lowerAscii c] := by
  by_cases hascii : c.toNat < 128
  · rw [lowerChar, if_pos hascii, lowerAscii_of_ascii hascii]
  · rw [lowerAscii_of_wide hascii]
    cases h with
    | digit h =>
      rw [hexDigit?] at h
      split at h
      next d hd => exact lowerChar_of_decimalDigit? hascii hd
      next =>
        have hletter : ∀ low high : Char, high.toNat < 128 → (low ≤ c && c ≤ high) = false := by
          intro low high hhigh
          rw [Bool.and_eq_false_iff]
          refine Or.inr (decide_eq_false fun hle => hascii ?_)
          exact Nat.lt_of_le_of_lt (UInt32.le_iff_toNat_le.1 hle) hhigh
        rw [hletter 'a' 'f' (by decide), hletter 'A' 'F' (by decide)] at h
        cases h
    | blank h =>
      rw [isBlank, Bool.or_eq_true] at h
      rcases h with h | h
      · rw [isAsciiBlank, Bool.or_eq_true, Bool.and_eq_true, decide_eq_true_eq, decide_eq_true_eq,
          decide_eq_true_eq] at h
        rcases h with rfl | h
        · exact absurd (by decide) hascii
        · omega
      · exact lowerChar_of_isWideBlank hascii h
    | separator h =>
      subst h
      exact absurd (by decide) hascii
    | mark h =>
      rcases h with rfl | rfl
      · exact absurd (by decide) hascii
      · exact absurd (by decide) hascii

/-- The halves of pairs lie above all digits and blanks. -/
theorem StandsInNumeral.toNat_lt (h : StandsInNumeral c) : c.toNat < halfOffset := by
  have hletter : ∀ high : Char, high.toNat < 128 → c ≤ high → c.toNat < halfOffset := by
    intro high hhigh hle
    exact (UInt32.le_iff_toNat_le.1 hle).trans_lt (hhigh.trans (by decide))
  cases h with
  | digit h =>
    rw [hexDigit?] at h
    split at h
    next d hd =>
      obtain ⟨first, hfound, -⟩ := Option.map_eq_some_iff.1 hd
      have hzero : ∀ first ∈ digitZeros, first + 9 < halfOffset := by decide
      have hrange := List.find?_some hfound
      rw [Bool.and_eq_true, decide_eq_true_eq, decide_eq_true_eq] at hrange
      exact hrange.2.trans_lt (hzero first (List.mem_of_find?_eq_some hfound))
    next =>
      split at h
      next hlower =>
        rw [Bool.and_eq_true, decide_eq_true_eq, decide_eq_true_eq] at hlower
        exact hletter 'f' (by decide) hlower.2
      next =>
        split at h
        next hupper =>
          rw [Bool.and_eq_true, decide_eq_true_eq, decide_eq_true_eq] at hupper
          exact hletter 'F' (by decide) hupper.2
        next => cases h
  | blank h =>
    simp only [isBlank, isAsciiBlank, isWideBlank, Bool.or_eq_true, Bool.and_eq_true,
      decide_eq_true_eq, List.contains_iff_mem] at h
    rcases h with (rfl | h) | h | h
    · decide
    · exact h.2.trans_lt (by decide)
    · exact (by decide : ∀ n ∈ [0x85, 0xA0, 0x1680, 0x2028, 0x2029, 0x202F, 0x205F, 0x3000],
        n < halfOffset) _ h
    · exact h.2.trans_lt (by decide)
  | separator h =>
    subst h
    decide
  | mark h => rcases h with rfl | rfl <;> decide

theorem not_standsInNumeral_sigma : ¬ StandsInNumeral 'Σ' := by
  intro h
  have heq := h.lowerChar_eq
  rw [lowerAscii_of_wide (by decide)] at heq
  exact absurd heq (by decide)

/-- **The lower case form of a numeral** is made character by character. -/
theorem lowercase_of_standsInNumeral {s : String} (h : ∀ c ∈ s.toList, StandsInNumeral c) :
    lowercase s = String.ofList (s.toList.map lowerAscii) := by
  have hsigma : 'Σ' ∉ s.toList := fun hmem => not_standsInNumeral_sigma (h _ hmem)
  have hchars : s.toList.flatMap lowerChar = s.toList.map lowerAscii := by
    rw [List.map_eq_flatMap]
    exact List.flatMap_congr fun c hc => (h c hc).lowerChar_eq
  rw [lowercase, chars_eq, lowerBehind_eq_flatMap _ _ hsigma, hchars]

/-! ## Numerals in lower case -/

theorem trimBoth_map_lowerAscii (cs : List Char) :
    trimBoth isBlank (cs.map lowerAscii) = (trimBoth isBlank cs).map lowerAscii := by
  have hdrop : ∀ l : List Char,
      (l.map lowerAscii).dropWhile isBlank = (l.dropWhile isBlank).map lowerAscii := by
    intro l
    rw [List.dropWhile_map]
    congr 1
    exact congrArg (List.dropWhile · l) (funext fun c => (readsAs_lowerAscii c).isBlank)
  rw [trimBoth, trimBoth, hdrop, ← List.map_reverse, hdrop, ← List.map_reverse]

theorem separatedDigits?_map_lowerAscii (cs : List Char) :
    separatedDigits? hexDigit? (cs.map lowerAscii) = separatedDigits? hexDigit? cs := by
  have hdigit (c : Char) : hexDigit? (lowerAscii c) = hexDigit? c := (readsAs_lowerAscii c).hexDigit
  induction cs using separatedDigits?.induct with
  | case1 => rfl
  | case2 c => rw [List.map_singleton, separatedDigits?, separatedDigits?, hdigit]
  | case3 c rest ih =>
    rw [List.map_cons, List.map_cons, (readsAs_lowerAscii '_').separator.2 rfl, separatedDigits?,
      separatedDigits?, hdigit, ih]
  | case4 c rest hne hnot ih =>
    rw [List.map_cons, separatedDigits?, separatedDigits?, hdigit, ih]
    · exact hne
    · exact hnot
    · exact fun h => hne (List.map_eq_nil_iff.1 h)
    · intro rest' h
      obtain ⟨next, rest, rfl, hnext, -⟩ := List.map_eq_cons_iff.1 h
      exact hnot rest (by rw [(readsAs_lowerAscii next).separator.1 hnext])

/-- **The lower case form of a numeral reads as the same number.** -/
theorem hexNumeral?_map_lowerAscii (cs : List Char) :
    hexNumeral? (cs.map lowerAscii) = hexNumeral? cs := by
  rw [hexNumeral?, hexNumeral?, trimBoth_map_lowerAscii]
  obtain _ | ⟨c, _ | ⟨x, rest⟩⟩ := trimBoth isBlank cs
  · rfl
  · rw [List.map_singleton]
    split
    next h => exact absurd (List.cons.inj h).2 (List.cons_ne_nil _ _).symm
    next =>
      split
      next h => exact absurd (List.cons.inj h).2 (List.cons_ne_nil _ _).symm
      next => rfl
  · by_cases hzero : c = '0'
    · subst hzero
      have hmark : (lowerAscii x = 'x' || lowerAscii x = 'X') = (x = 'x' || x = 'X') := by
        rw [← Bool.decide_or, ← Bool.decide_or]
        exact decide_eq_decide.2 (readsAs_lowerAscii x).mark
      rw [List.map_cons, List.map_cons, (readsAs_lowerAscii '0').zero.2 rfl]
      refine if_congr (by rw [hmark]) ?_ rfl
      refine congrArg (Option.map (ofDigits 16)) ?_
      -- the underscore behind the mark is left out in both
      obtain _ | ⟨d, body⟩ := rest
      · rfl
      · by_cases hsep : d = '_'
        · subst hsep
          rw [List.map_cons, (readsAs_lowerAscii '_').separator.2 rfl]
          exact separatedDigits?_map_lowerAscii body
        · have hsep' : lowerAscii d ≠ '_' := fun h => hsep ((readsAs_lowerAscii d).separator.1 h)
          have hwhole := separatedDigits?_map_lowerAscii (d :: body)
          rw [List.map_cons] at hwhole ⊢
          split
          next h => exact absurd (List.cons.inj h).1 hsep'
          next =>
            split
            next h => exact absurd (List.cons.inj h).1 hsep
            next => exact hwhole
    · have hzero' : lowerAscii c ≠ '0' := fun h => hzero ((readsAs_lowerAscii c).zero.1 h)
      rw [List.map_cons, List.map_cons]
      split
      next h => exact absurd (List.cons.inj h).1 hzero'
      next =>
        split
        next h => exact absurd (List.cons.inj h).1 hzero
        next => rfl

theorem standsInNumeral_of_separatedDigits? (h : (separatedDigits? hexDigit? cs).isSome = true) :
    ∀ c ∈ cs, StandsInNumeral c := by
  induction cs using separatedDigits?.induct with
  | case1 => cases h
  | case2 c =>
    rw [separatedDigits?, Option.isSome_map] at h
    exact List.forall_mem_singleton.2 (.digit h)
  | case3 c rest ih =>
    obtain ⟨ds, hds⟩ := Option.isSome_iff_exists.1 h
    rw [separatedDigits?] at hds
    obtain ⟨d, hd, hds⟩ := Option.bind_eq_some_iff.1 hds
    obtain ⟨ds', hrest, -⟩ := Option.bind_eq_some_iff.1 hds
    refine List.forall_mem_cons.2 ⟨.digit (Option.isSome_of_eq_some hd), ?_⟩
    exact List.forall_mem_cons.2 ⟨.separator rfl, ih (Option.isSome_of_eq_some hrest)⟩
  | case4 c rest hne hnot ih =>
    obtain ⟨ds, hds⟩ := Option.isSome_iff_exists.1 h
    rw [separatedDigits?] at hds
    · obtain ⟨d, hd, hds⟩ := Option.bind_eq_some_iff.1 hds
      obtain ⟨ds', hrest, -⟩ := Option.bind_eq_some_iff.1 hds
      exact List.forall_mem_cons.2
        ⟨.digit (Option.isSome_of_eq_some hd), ih (Option.isSome_of_eq_some hrest)⟩
    · exact hne
    · exact hnot

theorem mem_trimBoth_or (isDropped : Char → Bool) (h : c ∈ cs) :
    c ∈ trimBoth isDropped cs ∨ isDropped c = true := by
  have hdrop : ∀ l : List Char, ∀ c ∈ l, c ∈ l.dropWhile isDropped ∨ isDropped c = true := by
    intro l c hc
    rw [← List.takeWhile_append_dropWhile (p := isDropped) (l := l), List.mem_append] at hc
    rcases hc with hc | hc
    · exact Or.inr (List.mem_takeWhile_imp hc)
    · exact Or.inl hc
  rw [trimBoth, List.mem_reverse]
  rcases hdrop cs c h with hc | hc
  · exact hdrop _ c (List.mem_reverse.2 hc)
  · exact Or.inr hc

/-- What a text is made of that is a hexadecimal numeral. -/
theorem standsInNumeral_of_hexNumeral? (h : (hexNumeral? cs).isSome = true) :
    ∀ c ∈ cs, StandsInNumeral c := by
  intro c hc
  rcases mem_trimBoth_or isBlank hc with hin | hblank
  · rw [hexNumeral?] at h
    split at h
    next x rest htrim =>
      rw [htrim] at hin
      split at h
      next hmark =>
        rw [Bool.or_eq_true, decide_eq_true_eq, decide_eq_true_eq] at hmark
        rw [Option.isSome_map] at h
        simp only [List.mem_cons] at hin
        rcases hin with rfl | rfl | hin
        · exact .digit (by decide)
        · exact .mark hmark
        · split at h
          next body =>
            rcases List.mem_cons.1 hin with rfl | hin
            · exact .separator rfl
            · exact standsInNumeral_of_separatedDigits? h c hin
          next => exact standsInNumeral_of_separatedDigits? h c hin
      next => cases h
    next => cases h
  · exact .blank hblank

/-! ## Lower case forms -/

section LowerCase

variable {d : Char}

/-- Every distance in the table leads from a letter outside ASCII to another one, or from a single letter
to a small one of ASCII. -/
theorem lowerRanges_lead : (lowerRanges.all fun (low, high, _, distance) =>
    decide (128 ≤ (low : Int) + distance) || (decide (low = high) &&
      decide (lowerAscii (Char.ofNat ((low : Int) + distance).toNat) =
        Char.ofNat ((low : Int) + distance).toNat))) = true := by
  decide +kernel

theorem lowerExpansions_lead : (lowerExpansions.all fun (_, codes) => codes.all fun n =>
    decide (lowerAscii (Char.ofNat n) = Char.ofNat n)) = true := by
  decide

/-- A code point outside ASCII has no letter of ASCII. -/
theorem lowerAscii_ofNat {n : ℕ} (h : 128 ≤ n) : lowerAscii (Char.ofNat n) = Char.ofNat n := by
  by_cases hvalid : n.isValidChar
  · have hsame : (Char.ofNat n).toNat = n := by
      rw [Char.ofNat, dif_pos hvalid]
      rfl
    exact lowerAscii_of_wide (by omega)
  · have hzero : Char.ofNat n = Char.ofNat 0 := by
      rw [Char.ofNat, dif_neg hvalid]
      rfl
    rw [hzero]
    rfl

/-- **The lower case form of a character** has no capitals of ASCII. -/
theorem lowerAscii_of_mem_lowerChar (h : d ∈ lowerChar c) : lowerAscii d = d := by
  rw [lowerChar] at h
  split at h
  next hascii =>
    obtain rfl := List.mem_singleton.1 h
    have hlower := (readsAs_lowerAscii c).lower
    rwa [lowerAscii_of_ascii hascii] at hlower
  next hwide =>
    rw [mapCase] at h
    split at h
    next codes hcodes =>
      obtain ⟨n, hn, rfl⟩ := List.mem_map.1 h
      obtain ⟨l₁, l₂, heq, -⟩ := List.lookup_eq_some_iff.1 hcodes
      have hmem : (c.toNat, codes) ∈ lowerExpansions := heq ▸ List.mem_append_right l₁ List.mem_cons_self
      have hentry := List.all_eq_true.1 lowerExpansions_lead _ hmem
      exact of_decide_eq_true (List.all_eq_true.1 hentry n hn)
    next =>
      obtain rfl := List.mem_singleton.1 h
      rw [shiftCase]
      split
      next low high stride distance hfound =>
        have hentry := List.all_eq_true.1 lowerRanges_lead _ (List.mem_of_find?_eq_some hfound)
        have hin := List.find?_some hfound
        simp only [Bool.and_eq_true, decide_eq_true_eq, Bool.or_eq_true] at hin hentry
        rcases hentry with hfar | ⟨rfl, hsmall⟩
        · exact lowerAscii_ofNat (by omega)
        · have hc : c.toNat = low := by omega
          rwa [hc]
      next => exact lowerAscii_of_wide hwide

/-- **A text in lower case** has no capitals of ASCII. -/
theorem lowerAscii_of_mem_lowerBehind {before : List Char} (h : d ∈ lowerBehind before cs) :
    lowerAscii d = d := by
  induction cs generalizing before with
  | nil => exact absurd h List.not_mem_nil
  | cons c rest ih =>
    rw [lowerBehind, List.mem_append] at h
    rcases h with h | h
    · split at h
      · obtain rfl := List.mem_singleton.1 h
        rw [smallSigma]
        split <;> rfl
      · exact lowerAscii_of_mem_lowerChar h
    · exact ih h

end LowerCase

end Text

/-! ## Bytes in lower case -/

namespace Bytes

/-- A reader of bytes does not see the case of a letter. -/
theorem readsAs_lowerAscii (c : Char) : hexValue? (Text.lowerAscii c) = hexValue? c ∧
    Text.isAsciiBlank (Text.lowerAscii c) = Text.isAsciiBlank c := by
  rcases Text.lowerAscii_eq_self_or c with h | ⟨n, hn, rfl⟩
  · rw [h]
    exact ⟨rfl, rfl⟩
  · have hrun : ∀ n < 26,
        hexValue? (Text.lowerAscii (Char.ofNat (65 + n))) = hexValue? (Char.ofNat (65 + n)) ∧
        Text.isAsciiBlank (Text.lowerAscii (Char.ofNat (65 + n))) =
          Text.isAsciiBlank (Char.ofNat (65 + n)) := by
      decide
    exact hrun n hn

theorem spacedPairs?_map_lowerAscii (cs : List Char) :
    spacedPairs? (cs.map Text.lowerAscii) = spacedPairs? cs := by
  induction cs using spacedPairs?.induct with
  | case1 => rfl
  | case2 c hblank =>
    rw [List.map_singleton, spacedPairs?, spacedPairs?, (readsAs_lowerAscii c).2]
  | case3 c hblank =>
    rw [List.map_singleton, spacedPairs?, spacedPairs?, (readsAs_lowerAscii c).2]
  | case4 high low rest hblank ih =>
    rw [List.map_cons] at ih
    rw [List.map_cons, List.map_cons, spacedPairs?, spacedPairs?, (readsAs_lowerAscii high).2,
      if_pos hblank, if_pos hblank, ih]
  | case5 high low rest hblank ih =>
    rw [List.map_cons, List.map_cons, spacedPairs?, spacedPairs?, (readsAs_lowerAscii high).2,
      if_neg hblank, if_neg hblank, (readsAs_lowerAscii high).1, (readsAs_lowerAscii low).1, ih]

end Bytes

/-! ## Addresses -/

namespace Address

variable {a : Address}

theorem isSome_hexNumeral? (h : a.isWellFormed = true) :
    (Text.hexNumeral? a.text.toList).isSome = true := by
  obtain ⟨x, cs, htext, -⟩ := exists_of_isWellFormed h
  rw [isWellFormed, Text.chars_eq, htext] at h
  simp only [Bool.and_eq_true] at h
  rw [htext]
  exact h.2

/-- A well-formed address is made of characters that need no mark. -/
theorem toNat_lt_of_isWellFormed (h : a.isWellFormed = true) :
    ∀ c ∈ a.text.toList, c.toNat < Text.halfOffset := fun c hc =>
  (Text.standsInNumeral_of_hexNumeral? (isSome_hexNumeral? h) c hc).toNat_lt

/-- **The normal form of a well-formed address** is made character by character. -/
theorem normal_of_isWellFormed (h : a.isWellFormed = true) :
    a.normal = ⟨String.ofList (a.text.toList.map Text.lowerAscii)⟩ := by
  obtain ⟨x, cs, htext, hx, -⟩ := exists_of_isWellFormed h
  have hlower := Text.lowercase_of_standsInNumeral
    (Text.standsInNumeral_of_hexNumeral? (isSome_hexNumeral? h))
  have hmark : Text.lowerAscii x = 'x' := by rcases hx with rfl | rfl <;> decide
  have hprefix : "0x".toList.isPrefixOf (Text.lowercase a.text).toList = true := by
    rw [hlower, String.toList_ofList, htext, List.map_cons, List.map_cons, hmark]
    rw [String.toList_ofList]
    rfl
  rw [normal, Text.chars_eq, if_pos hprefix, hlower]

/-- **The normal form of a well-formed address is well formed.** -/
theorem isWellFormed_normal (h : a.isWellFormed = true) : a.normal.isWellFormed = true := by
  obtain ⟨x, cs, htext, hx, hlen⟩ := exists_of_isWellFormed h
  have hnumeral := isSome_hexNumeral? h
  have hmark : Text.lowerAscii x = 'x' := by rcases hx with rfl | rfl <;> decide
  have hlower : a.text.toList.map Text.lowerAscii = '0' :: 'x' :: cs.map Text.lowerAscii := by
    rw [htext, List.map_cons, List.map_cons, hmark]
    rfl
  rw [← Text.hexNumeral?_map_lowerAscii, hlower] at hnumeral
  rw [normal_of_isWellFormed h, isWellFormed, Text.chars_eq, String.toList_ofList, hlower]
  simp [hnumeral, hlen]

/-- **The normal form of a well-formed address is normal.** -/
theorem normal_normal (h : a.isWellFormed = true) : a.normal.normal = a.normal := by
  rw [normal_of_isWellFormed (isWellFormed_normal h), normal_of_isWellFormed h,
    String.toList_ofList, List.map_map]
  congr 2
  exact List.map_congr_left fun c _ => (Text.readsAs_lowerAscii c).lower

/-- A well-formed address without capitals is normal. -/
theorem normal_eq_self (h : a.isWellFormed = true)
    (hlower : ∀ c ∈ a.text.toList, Text.lowerAscii c = c) : a.normal = a := by
  rw [normal_of_isWellFormed h, List.map_congr_left hlower, List.map_id', String.ofList_toList]

/-- **A normal form that is well formed is normal**, whatever it is the normal form of. -/
theorem normal_of_isWellFormed_normal {a : Address} (h : a.normal.isWellFormed = true) :
    a.normal.normal = a.normal := by
  have hbehind : ∀ d ∈ (Text.lowercase a.text).toList, Text.lowerAscii d = d := by
    intro d hd
    rw [Text.lowercase, String.toList_ofList] at hd
    exact Text.lowerAscii_of_mem_lowerBehind hd
  have hprefix : ∀ d ∈ "0x".toList, Text.lowerAscii d = d :=
    List.forall_mem_cons.2 ⟨rfl, List.forall_mem_singleton.2 rfl⟩
  refine normal_eq_self h fun d hd => ?_
  rw [normal] at hd
  dsimp only at hd
  split at hd
  · exact hbehind d hd
  · rw [String.toList_append, List.mem_append] at hd
    rcases hd with hd | hd
    · exact hprefix d hd
    · exact hbehind d hd

/-- **The normal form of a well-formed address has the same bytes.** -/
theorem wellFormedBytes_normal (h : a.isWellFormed = true) :
    a.normal.wellFormedBytes = a.wellFormedBytes := by
  rw [wellFormedBytes, wellFormedBytes, normal_of_isWellFormed h, Text.chars_eq, Text.chars_eq,
    String.toList_ofList, ← List.map_drop, Bytes.spacedPairs?_map_lowerAscii]

end Address

/-! ## Keys of approvals -/

namespace ApprovalKey

variable {token owner spender : Address} {key : ApprovalKey}

/-- A key has three well-formed addresses. -/
theorem ofAddresses_eq_ok_iff :
    ofAddresses token owner spender = .ok key ↔ token.isWellFormed = true ∧
      owner.isWellFormed = true ∧ spender.isWellFormed = true ∧
      key = ⟨token.normal, owner.normal, spender.normal⟩ := by
  have hcheck (role : String) (a : Address) :
      ofAddresses.check role a = .ok () ↔ a.isWellFormed = true := by
    rw [ofAddresses.check]
    split
    next h => exact iff_of_true rfl h
    next h => exact iff_of_false (fun h => by cases h) h
  rw [ofAddresses]
  constructor
  · intro h
    obtain ⟨⟨⟩, htoken, h⟩ := bind_eq_ok_iff.1 h
    obtain ⟨⟨⟩, howner, h⟩ := bind_eq_ok_iff.1 h
    obtain ⟨⟨⟩, hspender, h⟩ := bind_eq_ok_iff.1 h
    exact ⟨(hcheck _ _).1 htoken, (hcheck _ _).1 howner, (hcheck _ _).1 hspender,
      (Except.ok.inj h).symm⟩
  · rintro ⟨htoken, howner, hspender, rfl⟩
    rw [(hcheck _ _).2 htoken, (hcheck _ _).2 howner, (hcheck _ _).2 hspender]
    rfl

/-- **The key of the addresses of a key** is the key itself. -/
theorem ofAddresses_self (h : ofAddresses token owner spender = .ok key) :
    ofAddresses key.token key.owner key.spender = .ok key := by
  obtain ⟨htoken, howner, hspender, rfl⟩ := ofAddresses_eq_ok_iff.1 h
  refine ofAddresses_eq_ok_iff.2 ⟨Address.isWellFormed_normal htoken,
    Address.isWellFormed_normal howner, Address.isWellFormed_normal hspender, ?_⟩
  rw [Address.normal_normal htoken, Address.normal_normal howner, Address.normal_normal hspender]

end ApprovalKey

end SwapRouter
