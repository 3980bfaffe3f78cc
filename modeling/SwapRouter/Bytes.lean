import SwapRouter.Text.Blank

/-!
# Byte strings and their hexadecimal text

A byte string is a list of bytes, most significant first where it stands for a number.
This module holds the number it stands for, the bytes of a given width for a number,
and its text in hexadecimal digits, two for each byte.

`toNat_ofNat` and `ofNat_toNat` tie numbers and byte strings together, and
`pairs?_digits` says that the text of a byte string reads back as that byte string.
-/

namespace SwapRouter

/-- A byte string. -/
abbrev Bytes := List UInt8

namespace Bytes

/-- The number a byte string stands for, the first byte weighing most. -/
def toNat (bs : Bytes) : Nat := bs.foldl (fun n b => 256 * n + b.toNat) 0

/-- The last `width` bytes of a number. -/
def ofNat : Nat → Nat → Bytes
  | 0, _ => []
  | width + 1, n => ofNat width (n / 256) ++ [UInt8.ofNat n]

@[simp] theorem length_ofNat (width n : Nat) : (ofNat width n).length = width := by
  induction width generalizing n with
  | zero => rfl
  | succ width ih => simp [ofNat, ih]

@[simp] theorem toNat_nil : toNat [] = 0 := rfl

@[simp] theorem toNat_append_singleton (bs : Bytes) (b : UInt8) :
    toNat (bs ++ [b]) = 256 * toNat bs + b.toNat := by
  simp [toNat]

/-- A number is recovered from its bytes up to the width. -/
theorem toNat_ofNat (width n : Nat) : toNat (ofNat width n) = n % Nat.pow 256 width := by
  induction width generalizing n with
  | zero => simp [ofNat, Nat.mod_one]
  | succ width ih =>
    have byte : (UInt8.ofNat n).toNat = n % 256 := by simp
    have power : Nat.pow 256 (width + 1) = 256 * Nat.pow 256 width := Nat.mul_comm _ _
    rw [ofNat, toNat_append_singleton, ih, byte, power, Nat.mod_mul]
    omega

/-- A number that fits is recovered from its bytes. -/
theorem toNat_ofNat_of_lt {width n : Nat} (h : n < Nat.pow 256 width) :
    toNat (ofNat width n) = n := by
  rw [toNat_ofNat, Nat.mod_eq_of_lt h]

/-- `n` zero bytes. -/
def zeros (n : Nat) : Bytes := List.replicate n 0

@[simp] theorem length_zeros (n : Nat) : (zeros n).length = n := List.length_replicate

theorem ofNat_zero (width : Nat) : ofNat width 0 = zeros width := by
  induction width with
  | zero => rfl
  | succ width ih =>
    rw [ofNat, Nat.zero_div, ih, zeros, zeros, List.replicate_succ']
    rfl

/-- A byte string stands for less than all numbers of its width. -/
theorem toNat_lt (bs : Bytes) : toNat bs < Nat.pow 256 bs.length := by
  suffices ∀ reversed : Bytes, toNat reversed.reverse < Nat.pow 256 reversed.length by
    simpa using this bs.reverse
  intro reversed
  induction reversed with
  | nil => decide
  | cons b reversed ih =>
    have byte := b.toNat_lt
    have power : Nat.pow 256 (reversed.length + 1) = 256 * Nat.pow 256 reversed.length :=
      Nat.mul_comm _ _
    rw [List.reverse_cons, toNat_append_singleton, List.length_cons, power]
    omega

/-- A byte string is recovered from its number, with zeros in front up to the width. -/
theorem ofNat_toNat {width : Nat} {bs : Bytes} (h : bs.length ≤ width) :
    ofNat width (toNat bs) = zeros (width - bs.length) ++ bs := by
  suffices ∀ reversed : Bytes, ∀ width, reversed.length ≤ width →
      ofNat width (toNat reversed.reverse) =
        zeros (width - reversed.length) ++ reversed.reverse by
    simpa using this bs.reverse width (by simpa using h)
  intro reversed
  induction reversed with
  | nil => exact fun width _ => by simpa using ofNat_zero width
  | cons b reversed ih =>
    rintro (_ | width) hwidth
    · exact absurd hwidth (Nat.not_succ_le_zero _)
    · have byte := b.toNat_lt
      have quotient : (256 * toNat reversed.reverse + b.toNat) / 256 = toNat reversed.reverse := by
        omega
      have remainder : UInt8.ofNat (256 * toNat reversed.reverse + b.toNat) = b :=
        UInt8.toNat.inj (by simp)
      rw [List.reverse_cons, toNat_append_singleton, ofNat, quotient, remainder,
        ih width (Nat.le_of_succ_le_succ hwidth), List.length_cons, Nat.add_sub_add_right,
        List.append_assoc]

/-- Whether one byte string comes before another one, byte by byte. -/
def isBefore : Bytes → Bytes → Bool
  | [], bs => !bs.isEmpty
  | _ :: _, [] => false
  | a :: as, b :: bs => a < b || (a = b && isBefore as bs)

/-! ## Hexadecimal text -/

/-- A hexadecimal digit in lower case. -/
def hexDigit (n : Nat) : Char :=
  if n < 10 then Char.ofNat (48 + n) else Char.ofNat (87 + n)

/-- The value of a hexadecimal digit of ASCII in either case. -/
def hexValue? (c : Char) : Option Nat :=
  if '0' ≤ c && c ≤ '9' then some (c.toNat - 48)
  else if 'a' ≤ c && c ≤ 'f' then some (c.toNat - 87)
  else if 'A' ≤ c && c ≤ 'F' then some (c.toNat - 55)
  else none

/-- The two digits of every byte. -/
def digits (bs : Bytes) : List Char :=
  bs.flatMap fun b => [hexDigit (b.toNat / 16), hexDigit (b.toNat % 16)]

/-- The text of a byte string: `0x` and two digits for every byte. -/
def toHex (bs : Bytes) : String := String.ofList ('0' :: 'x' :: digits bs)

/-- Reads pairs of digits with nothing between them. -/
def pairs? : List Char → Option Bytes
  | [] => some []
  | high :: low :: rest => do
    let h ← hexValue? high
    let l ← hexValue? low
    let bs ← pairs? rest
    return UInt8.ofNat (16 * h + l) :: bs
  | _ => none

/-- Reads pairs of digits; blanks of ASCII may stand around a pair but not inside one. -/
def spacedPairs? : List Char → Option Bytes
  | [] => some []
  | [c] => if Text.isAsciiBlank c then some [] else none
  | high :: low :: rest =>
    if Text.isAsciiBlank high then spacedPairs? (low :: rest)
    else do
      let h ← hexValue? high
      let l ← hexValue? low
      let bs ← spacedPairs? rest
      return UInt8.ofNat (16 * h + l) :: bs

/-- Drops a leading `0x` in either case. -/
def dropMark : List Char → List Char
  | '0' :: 'x' :: rest => rest
  | '0' :: 'X' :: rest => rest
  | cs => cs

/-- Reads a byte string with an optional `0x`; a missing first digit counts as zero. -/
def ofHex? (s : String) : Option Bytes :=
  let body := dropMark s.toList
  spacedPairs? (if body.length % 2 = 1 then '0' :: body else body)

@[simp] theorem hexValue?_hexDigit : ∀ n < 16, hexValue? (hexDigit n) = some n := by
  decide +kernel

theorem pairs?_digits (bs : Bytes) : pairs? (digits bs) = some bs := by
  induction bs with
  | nil => rfl
  | cons b bs ih =>
    have high : b.toNat / 16 < 16 := by have := b.toNat_lt; omega
    have low : b.toNat % 16 < 16 := Nat.mod_lt _ (by decide)
    have whole : UInt8.ofNat (16 * (b.toNat / 16) + b.toNat % 16) = b := by
      rw [Nat.div_add_mod]; simp
    change pairs? (hexDigit (b.toNat / 16) :: hexDigit (b.toNat % 16) :: digits bs) = _
    simp only [pairs?, hexValue?_hexDigit _ high, hexValue?_hexDigit _ low, ih, whole,
      Option.bind_eq_bind, Option.bind_some, Option.pure_def]

end Bytes

end SwapRouter
