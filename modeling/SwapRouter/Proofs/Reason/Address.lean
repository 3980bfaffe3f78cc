import SwapRouter.Proofs.FixedWidth
import SwapRouter.Proofs.Reason.Basic

/-!
# Addresses with digits alone

An address that is well formed and has nothing but hexadecimal digits behind its mark stands for
twenty bytes, under the lenient reading and under the strict one.  Its normal form is the text of these
bytes, which is such an address again.

* `Address.IsExact`: well formed, with digits alone.
* `Address.IsExact.normal`, `Address.isExact_ofBytes`: such addresses stay among themselves.
* `Address.reasoned_fieldBytes`: in a field they are read as twenty bytes.
-/

namespace SwapRouter

namespace Text

variable {cs : List Char}

/-- Nothing is dropped from a text whose ends are no blanks. -/
theorem trimBoth_eq_self {isDropped : Char → Bool} (h : ∀ c ∈ cs, isDropped c = false) :
    trimBoth isDropped cs = cs := by
  have hdrop : ∀ l : List Char, (∀ c ∈ l, isDropped c = false) → l.dropWhile isDropped = l := by
    intro l hl
    cases l with
    | nil => rfl
    | cons c l =>
      rw [List.dropWhile_cons, hl c List.mem_cons_self, if_neg Bool.false_ne_true]
  rw [trimBoth, hdrop cs h, hdrop cs.reverse fun c hc => h c (List.mem_reverse.1 hc),
    List.reverse_reverse]

/-- Digits alone are read one by one. -/
theorem isSome_separatedDigits? {digit? : Char → Option Nat} (hne : cs ≠ [])
    (h : ∀ c ∈ cs, (digit? c).isSome = true ∧ c ≠ '_') :
    (separatedDigits? digit? cs).isSome = true := by
  induction cs with
  | nil => exact absurd rfl hne
  | cons c cs ih =>
    obtain ⟨⟨hc, -⟩, hcs⟩ := List.forall_mem_cons.1 h
    obtain ⟨d, hd⟩ := Option.isSome_iff_exists.1 hc
    cases cs with
    | nil => rw [separatedDigits?, hd]; rfl
    | cons next cs =>
      obtain ⟨ds, hds⟩ := Option.isSome_iff_exists.1 (ih (List.cons_ne_nil _ _) hcs)
      rw [separatedDigits?, hd, hds]
      · rfl
      · exact List.cons_ne_nil _ _
      · rintro rest hrest
        exact (hcs next List.mem_cons_self).2 (List.cons.inj hrest).1

end Text

namespace Bytes

variable {bs : Bytes} {c : Char}

/-- What a numeral needs to know of a hexadecimal digit. -/
theorem of_isHexDigit (h : isHexDigit c = true) :
    (Text.hexDigit? c).isSome = true ∧ c ≠ '_' ∧ Text.isBlank c = false := by
  have hrun : ∀ n < 128, isHexDigit (Char.ofNat n) = true →
      (Text.hexDigit? (Char.ofNat n)).isSome = true ∧ Char.ofNat n ≠ '_' ∧
        Text.isBlank (Char.ofNat n) = false := by decide
  obtain ⟨v, hv⟩ := Option.isSome_iff_exists.1 h
  have hc := hrun c.toNat (of_hexValue? hv).1
  rw [Char.ofNat_toNat] at hc
  exact hc h

/-- The text of bytes has digits alone. -/
theorem isHexDigit_of_mem_digits (h : c ∈ digits bs) : isHexDigit c = true := by
  obtain ⟨b, -, hb⟩ := List.mem_flatMap.1 h
  have hlt := b.toNat_lt
  have hhalf : ∀ n < 16, isHexDigit (hexDigit n) = true := by decide
  rw [List.mem_cons, List.mem_singleton] at hb
  rcases hb with rfl | rfl
  · exact hhalf _ (by omega)
  · exact hhalf _ (by omega)

/-- Pairs are read from digits alone. -/
theorem isHexDigit_of_pairs? {cs : List Char} (h : pairs? cs = some bs) :
    ∀ c ∈ cs, isHexDigit c = true := by
  induction cs using pairs?.induct generalizing bs with
  | case1 => exact fun c hc => absurd hc List.not_mem_nil
  | case2 high low rest ih =>
    rw [pairs?] at h
    obtain ⟨hv, hhigh, h⟩ := Option.bind_eq_some_iff.1 h
    obtain ⟨lv, hlow, h⟩ := Option.bind_eq_some_iff.1 h
    obtain ⟨bs', hrest, -⟩ := Option.bind_eq_some_iff.1 h
    refine List.forall_mem_cons.2 ⟨Option.isSome_of_eq_some hhigh, ?_⟩
    exact List.forall_mem_cons.2 ⟨Option.isSome_of_eq_some hlow, ih hrest⟩
  | case3 cs hnil hcons =>
    rw [pairs?] at h
    · cases h
    · exact hnil
    · exact hcons

theorem length_digits (bs : Bytes) : (digits bs).length = 2 * bs.length := by
  rw [digits, List.length_flatMap]
  simp only [List.length_cons, List.length_nil, List.map_const', List.sum_replicate_nat]
  omega

end Bytes

namespace Address

variable {a : Address} {bs : Bytes}

/-- An address is well formed and has digits alone behind its mark. -/
structure IsExact (a : Address) : Prop where
  wellFormed : a.isWellFormed = true
  digits : a.hasHexDigits = true

/-- Forty digits behind a mark make a well-formed address. -/
theorem isExact_of_digits {x : Char} {cs : List Char} (htext : a.text.toList = '0' :: x :: cs)
    (hx : x = 'x' ∨ x = 'X') (hlen : cs.length = 40)
    (hdigits : ∀ c ∈ cs, Bytes.isHexDigit c = true) : a.IsExact := by
  have hnumeral : (Text.hexNumeral? ('0' :: x :: cs)).isSome = true := by
    have htrim : Text.trimBoth Text.isBlank ('0' :: x :: cs) = '0' :: x :: cs := by
      refine Text.trimBoth_eq_self (List.forall_mem_cons.2 ⟨by decide, List.forall_mem_cons.2 ⟨?_,
        fun c hc => (Bytes.of_isHexDigit (hdigits c hc)).2.2⟩⟩)
      rcases hx with rfl | rfl <;> decide
    have hmark : (x = 'x' || x = 'X') = true := by rcases hx with rfl | rfl <;> rfl
    obtain _ | ⟨c, rest⟩ := cs
    · cases hlen
    have hne : c ≠ '_' := (Bytes.of_isHexDigit (hdigits c List.mem_cons_self)).2.1
    rw [Text.hexNumeral?, htrim]
    simp only [hmark, if_true, Option.isSome_map]
    split
    next body hbody =>
      obtain rfl := (List.cons.inj hbody).1
      exact absurd rfl hne
    next =>
      refine Text.isSome_separatedDigits? (List.cons_ne_nil _ _) fun c hc => ?_
      obtain ⟨hdigit, hsep, -⟩ := Bytes.of_isHexDigit (hdigits c hc)
      exact ⟨hdigit, hsep⟩
  constructor
  · rw [isWellFormed, Text.chars_eq, htext]
    simp [hx, hlen, hnumeral]
  · rw [hasHexDigits, htext, List.all_eq_true]
    exact hdigits

/-- **The address of twenty bytes** has digits alone. -/
theorem isExact_ofBytes (h : bs.length = 20) : (ofBytes bs).IsExact := by
  refine @isExact_of_digits _ 'x' (Bytes.digits bs) ?_ (Or.inl rfl) ?_
    fun c hc => Bytes.isHexDigit_of_mem_digits hc
  · rw [ofBytes, Bytes.toHex, String.toList_ofList]
  · rw [Bytes.length_digits, h]

theorem wellFormedBytes_ofBytes (bs : Bytes) : (ofBytes bs).wellFormedBytes = .ok bs := by
  have hdrop : (ofBytes bs).text.toList.drop 2 = Bytes.digits bs := by
    rw [ofBytes, Bytes.toHex, String.toList_ofList]
    rfl
  have hread : Bytes.spacedPairs? (Bytes.digits bs) = some bs := by
    rw [Bytes.spacedPairs?_eq_pairs? fun c hc => Bytes.isHexDigit_of_mem_digits hc,
      Bytes.pairs?_digits]
  rw [wellFormedBytes, Text.chars_eq, hdrop, hread]

/-- The address of twenty bytes is in its normal form. -/
theorem normal_ofBytes (h : bs.length = 20) : (ofBytes bs).normal = ofBytes bs :=
  normal_eq_ofBytes (isExact_ofBytes h).wellFormed (isExact_ofBytes h).digits
    (wellFormedBytes_ofBytes bs)

theorem IsExact.exists_bytes (h : a.IsExact) :
    ∃ bs, a.wellFormedBytes = .ok bs ∧ bs.length = 20 :=
  (exists_wellFormedBytes_iff h.wellFormed).2 h.digits

/-- **The normal form of such an address** is one, too. -/
theorem IsExact.normal (h : a.IsExact) : a.normal.IsExact := by
  obtain ⟨bs, hbs, hlen⟩ := h.exists_bytes
  rw [normal_eq_ofBytes h.wellFormed h.digits hbs]
  exact isExact_ofBytes hlen

/-- Such an address has twenty bytes under the strict reading, too. -/
theorem IsExact.exists_strictBytes? (h : a.IsExact) :
    ∃ bs, a.strictBytes? = some bs ∧ bs.length = 20 := by
  obtain ⟨x, cs, htext, hx, hlen⟩ := exists_of_isWellFormed h.wellFormed
  have hdigits : ∀ c ∈ cs, Bytes.isHexDigit c = true := by
    have hall := h.digits
    rw [hasHexDigits, htext, List.all_eq_true] at hall
    exact hall
  have hdrop : Bytes.dropMark a.text.toList = cs := by
    rw [htext]
    rcases hx with rfl | rfl <;> rfl
  rw [strictBytes?, Text.chars_eq]
  simp only [hdrop, hlen, if_true]
  exact Bytes.exists_pairs? hdigits hlen

/-- **The strict reading accepts digits alone**, and reads them as the lenient one does. -/
theorem isExact_of_strictBytes? (h : a.isWellFormed = true) (hstrict : a.strictBytes? = some bs) :
    a.IsExact ∧ a.wellFormedBytes = .ok bs ∧ bs.length = 20 := by
  obtain ⟨x, cs, htext, hx, hlen⟩ := exists_of_isWellFormed h
  have hbehind : a.text.toList.drop 2 = cs := by rw [htext]; rfl
  have hdrop : Bytes.dropMark a.text.toList = cs := by
    rw [htext]
    rcases hx with rfl | rfl <;> rfl
  rw [strictBytes?, Text.chars_eq] at hstrict
  simp only [hdrop, hlen, if_true] at hstrict
  have hdigits := Bytes.isHexDigit_of_pairs? hstrict
  have hcount : 2 * bs.length = 40 := by
    rw [← Bytes.length_digits, Bytes.digits_of_pairs? hstrict, List.length_map, hlen]
  refine ⟨⟨h, ?_⟩, ?_, by omega⟩
  · rw [hasHexDigits, hbehind]
    exact List.all_eq_true.2 hdigits
  · rw [wellFormedBytes, Text.chars_eq, hbehind, Bytes.spacedPairs?_eq_pairs? hdigits, hstrict]

/-- The address of twenty bytes has these bytes under the strict reading. -/
theorem strictBytes?_ofBytes (h : bs.length = 20) : (ofBytes bs).strictBytes? = some bs := by
  obtain ⟨bs', hstrict, -⟩ := (isExact_ofBytes h).exists_strictBytes?
  have hread := (isExact_of_strictBytes? (isExact_ofBytes h).wellFormed hstrict).2.1
  rw [wellFormedBytes_ofBytes] at hread
  rw [hstrict, Except.ok.inj hread]

/-- **In a field** an address is refused or read as twenty bytes, if it has digits alone where it is
well formed. -/
theorem reasoned_fieldBytes {field : String}
    (h : a.isWellFormed = true → a.hasHexDigits = true) :
    Reasoned (fun bs => bs.length = 20) (a.fieldBytes field) := by
  have hfixed := (@isFixed_fieldBytes_iff a field).2 h
  cases hread : a.fieldBytes field with
  | ok bs =>
    rw [hread] at hfixed
    exact .ok hfixed
  | error f =>
    rw [hread] at hfixed
    cases f with
    | encoding e => exact .reason e
    | value | record | defect => exact absurd hfixed not_false

theorem IsExact.reasoned_fieldBytes (h : a.IsExact) {field : String} :
    Reasoned (fun bs => bs.length = 20) (a.fieldBytes field) :=
  Address.reasoned_fieldBytes fun _ => h.digits

end Address

end SwapRouter
