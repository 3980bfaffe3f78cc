import SwapRouter.Proofs.Order.Spelling
import SwapRouter.Proofs.Wire

/-!
# Numbers that are written in hexadecimal digits

A number of a pool is one of its attributes: a text of hexadecimal digits, of any length.  The text is
read as bytes, two digits each, with a zero in front where the digits are odd in number, and the bytes
are brought to the width of a field, by zeros in front or by cutting zeros off.

None of these steps changes the number.  Two digits weigh as much as the byte that they are read as,
since 256 is the square of 16, and zeros in front weigh nothing.  So a field holds the number that the
digits denote if there is room for it, and a number without room is refused, because then one of the
bytes that would have to be cut off is no zero.

* `Text.hexNumber`, `Text.Denotes`: the number that hexadecimal digits denote.
* `Bytes.toNat_of_pairs?`: **bytes stand for the number that their digits denote.**
* `Bytes.exists_ofHex?_of_denotes`: a text of digits is read as bytes that stand for its number.
* `Wire.fit_of_denotes`: **a field holds the number that a text denotes.**
-/

namespace SwapRouter

/-! ## Hexadecimal digits -/

namespace Text

/-- The value of a hexadecimal digit in either letter case: its place among all of them. -/
def hexPlace (c : Char) : ℕ := "0123456789abcdef".toList.idxOf c.toLower

/-- The number that hexadecimal digits denote, the first one weighing most. -/
def hexNumber (cs : List Char) : ℕ := ofDigits 16 (cs.map hexPlace)

/-- A zero in front of digits weighs nothing. -/
theorem hexNumber_zero_cons (cs : List Char) : hexNumber ('0' :: cs) = hexNumber cs := rfl

/-- A text denotes a number: it has hexadecimal digits in either letter case, behind a mark or without
one, and the digits denote the number. -/
def Denotes (s : String) (n : ℕ) : Prop :=
  ∃ mark ∈ ["", "0x", "0X"], ∃ cs : List Char,
    (∀ c ∈ cs, c ∈ "0123456789abcdefABCDEF".toList) ∧ s = mark ++ String.ofList cs ∧ hexNumber cs = n

end Text

namespace Bytes

variable {cs : List Char} {bs : Bytes} {c : Char}

theorem isHexDigit_of_mem (h : c ∈ "0123456789abcdefABCDEF".toList) : isHexDigit c = true := by
  have hrun : "0123456789abcdefABCDEF".toList.all isHexDigit = true := by decide +kernel
  exact List.all_eq_true.1 hrun c h

/-- A hexadecimal digit is read as its place among all of them. -/
theorem hexValue?_eq_hexPlace (h : isHexDigit c = true) : hexValue? c = some (Text.hexPlace c) := by
  have hplace : ∀ v < 16, "0123456789abcdef".toList.idxOf (hexDigit v) = v := by decide +kernel
  obtain ⟨v, hv⟩ := Option.isSome_iff_exists.1 h
  obtain ⟨-, hlt, hdigit, -⟩ := of_hexValue? hv
  rw [hv, Text.hexPlace, ← hdigit, hplace v hlt]

/-- Two digits weigh as much as the byte that they are read as, whatever stands in front of them. -/
theorem foldl_of_pairs? (hdigits : ∀ c ∈ cs, isHexDigit c = true) (h : pairs? cs = some bs) (n : ℕ) :
    bs.foldl (fun n b => 256 * n + b.toNat) n =
      (cs.map Text.hexPlace).foldl (fun n d => 16 * n + d) n := by
  induction cs using pairs?.induct generalizing bs n with
  | case1 =>
    cases h
    rfl
  | case2 high low rest ih =>
    obtain ⟨hhigh, hothers⟩ := List.forall_mem_cons.1 hdigits
    obtain ⟨hlow, hrest⟩ := List.forall_mem_cons.1 hothers
    rw [pairs?] at h
    obtain ⟨hv, hhv, h⟩ := Option.bind_eq_some_iff.1 h
    obtain ⟨lv, hlv, h⟩ := Option.bind_eq_some_iff.1 h
    obtain ⟨behind, hbehind, h⟩ := Option.bind_eq_some_iff.1 h
    cases h
    have hhv' : hv < 16 := (of_hexValue? hhv).2.1
    have hlv' : lv < 16 := (of_hexValue? hlv).2.1
    rw [hexValue?_eq_hexPlace hhigh, Option.some_inj] at hhv
    rw [hexValue?_eq_hexPlace hlow, Option.some_inj] at hlv
    have hbyte : 256 * n + (UInt8.ofNat (16 * hv + lv)).toNat = 16 * (16 * n + hv) + lv := by
      rw [UInt8.toNat_ofNat']
      omega
    rw [List.map_cons, List.map_cons, List.foldl_cons, List.foldl_cons, List.foldl_cons, hhv, hlv, hbyte,
      ih hrest hbehind]
  | case3 cs hnil hcons =>
    rw [pairs?] at h
    · cases h
    · exact hnil
    · exact hcons

/-- **Bytes stand for the number that their digits denote.** -/
theorem toNat_of_pairs? (hdigits : ∀ c ∈ cs, isHexDigit c = true) (h : pairs? cs = some bs) :
    toNat bs = Text.hexNumber cs := foldl_of_pairs? hdigits h 0

/-- Digits without a mark have none to drop. -/
theorem dropMark_of_isHexDigit (hdigits : ∀ c ∈ cs, isHexDigit c = true) : dropMark cs = cs := by
  refine dropMark_eq_self fun x rest hcs hx => ?_
  have hdigit : isHexDigit x = true := hdigits x (hcs ▸ List.mem_cons_of_mem _ List.mem_cons_self)
  rcases hx with rfl | rfl
  · exact absurd hdigit (by decide)
  · exact absurd hdigit (by decide)

/-- **A text of digits is read as bytes that stand for the number it denotes.** -/
theorem exists_ofHex?_of_denotes {s : String} {n : ℕ} (h : Text.Denotes s n) :
    ∃ bs, ofHex? s = some bs ∧ toNat bs = n := by
  obtain ⟨mark, hmark, cs, hcs, rfl, rfl⟩ := h
  have hdigits : ∀ c ∈ cs, isHexDigit c = true := fun c hc => isHexDigit_of_mem (hcs c hc)
  have hbody : dropMark (mark ++ String.ofList cs).toList = cs := by
    rw [String.toList_append, String.toList_ofList]
    simp only [List.mem_cons, List.not_mem_nil, or_false] at hmark
    rcases hmark with rfl | rfl | rfl
    · exact dropMark_of_isHexDigit hdigits
    · rfl
    · rfl
  -- with a zero in front where they are odd in number, the digits are pairs
  have hpaired : ∃ ds, (if cs.length % 2 = 1 then '0' :: cs else cs) = ds ∧ ds.length % 2 = 0 ∧
      (∀ c ∈ ds, isHexDigit c = true) ∧ Text.hexNumber ds = Text.hexNumber cs := by
    split
    next hodd =>
      have hzero : ∀ c ∈ '0' :: cs, isHexDigit c = true := List.forall_mem_cons.2 ⟨by decide, hdigits⟩
      refine ⟨_, rfl, ?_, hzero, Text.hexNumber_zero_cons cs⟩
      rw [List.length_cons]
      omega
    next heven => exact ⟨cs, rfl, by omega, hdigits, rfl⟩
  obtain ⟨ds, hds, heven, hdsDigits, hnumber⟩ := hpaired
  have hlen : ds.length = 2 * (ds.length / 2) := by omega
  obtain ⟨bs, hbs, -⟩ := exists_pairs? hdsDigits hlen
  refine ⟨bs, ?_, ?_⟩
  · rw [ofHex?, hbody, hds, spacedPairs?_eq_pairs? hdsDigits, hbs]
  · rw [toNat_of_pairs? hdsDigits hbs, hnumber]

end Bytes

/-! ## Fields -/

namespace Wire

/-- **A field holds the number that a text denotes.**  The text is read, and its bytes are brought to the
width of the field: exactly if there is room for the number, the field holds it, and otherwise it is
refused, which is fatal.  Whatever bytes are brought to a width, they have it afterwards and stand for
the number that they stood for. -/
theorem fit_of_denotes {s : String} {n : ℕ} (h : Text.Denotes s n) (size : ℕ) :
    (∃ value, Bytes.ofJson (.str s) = .ok value ∧
      (n < Nat.pow 256 size →
        ∃ bs, fit value size = .ok bs ∧ bs.length = size ∧ Bytes.toNat bs = n) ∧
      (Nat.pow 256 size ≤ n → ∃ e, fit value size = .error e ∧ e.kind = .fatal)) ∧
    ∀ value bs : Bytes, fit value size = .ok bs →
      bs.length = size ∧ Bytes.toNat bs = Bytes.toNat value := by
  have hkept : ∀ value bs : Bytes, fit value size = .ok bs →
      bs.length = size ∧ Bytes.toNat bs = Bytes.toNat value :=
    fun value bs hbs => ⟨length_of_fit hbs, toNat_of_fit hbs⟩
  obtain ⟨value, hvalue, rfl⟩ := Bytes.exists_ofHex?_of_denotes h
  refine ⟨⟨value, by rw [Bytes.ofJson, hvalue], fun hlt => ?_, fun hle => ?_⟩, hkept⟩
  · have hfit := fit_eq_ok_iff.2 ⟨hlt, rfl⟩
    exact ⟨_, hfit, hkept value _ hfit⟩
  · exact ⟨_, fit_of_le hle, rfl⟩

end Wire

namespace Sample

/-- Three digits behind a mark denote a fee, and the field of the fee holds it. -/
theorem fit_of_denotes_fee :
    Text.Denotes "0xBB8" 3000 ∧ 3000 < Nat.pow 256 3 ∧ ∃ value bs,
      Bytes.ofJson (.str "0xBB8") = .ok value ∧ Wire.fit value 3 = .ok bs ∧ bs.length = 3 ∧
      Bytes.toNat bs = 3000 := by
  have hdenotes : Text.Denotes "0xBB8" 3000 :=
    ⟨"0x", by decide, ['B', 'B', '8'], by simp, by decide, by decide⟩
  obtain ⟨⟨value, hvalue, hfits, -⟩, -⟩ := Wire.fit_of_denotes hdenotes 3
  obtain ⟨bs, hbs⟩ := hfits (by decide)
  exact ⟨hdenotes, by decide, value, bs, hvalue, hbs⟩

end Sample

end SwapRouter
