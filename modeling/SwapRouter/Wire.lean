import SwapRouter.Error

/-!
# Fields of fixed width and chunks with a length

The data of a swap is packed: numbers are stretched or cut to the width of their field,
and parts of varying length are chunks with their length in two bytes in front.

`Wire.join` writes chunks and `Wire.split?` cuts a text of chunks apart; a fraction is
written as one of `fractionScale` equal parts.
-/

namespace SwapRouter.Wire

/-! ## Numbers of a fixed width -/

/-- Stretches a number to `size` bytes, or cuts leading zeros off; less than no bytes are
none. -/
def fit (value : Bytes) (size : Int) : Except EncodingError Bytes :=
  let surplus := value.length - size.toNat
  if (value.take surplus).all (· = 0) then
    .ok (Bytes.zeros (size.toNat - value.length) ++ value.drop surplus)
  else .error (.valueTooWide value size)

/-- The size at which a number is too long to be held. -/
def sizeLimit : Int := Nat.pow 2 36

/-- Stretches or cuts a number to any size; one that is too long to be held is a defect. -/
def fitAny (value : Bytes) (size : Int) : Except Failure Bytes :=
  if sizeLimit ≤ size then .error .defect
  else match fit value size with
    | .ok bs => .ok bs
    | .error e => .error (.encoding e)

/-- The bytes of a number that has to fit; one that does not is a defect. -/
def fixed (size : Nat) (n : Int) : Except Failure Bytes :=
  if 0 ≤ n ∧ n.toNat < Nat.pow 256 size then .ok (Bytes.ofNat size n.toNat) else .error .defect

/-- The byte of a truth value. -/
def flagByte (b : Bool) : UInt8 := if b then 1 else 0

/-! ## Chunks -/

/-- The greatest length of a chunk. -/
def maxChunk : Nat := 65535

/-- A chunk with its length in front. -/
def chunk (body : Bytes) : Except EncodingError Bytes :=
  if body.length ≤ maxChunk then .ok (Bytes.ofNat 2 body.length ++ body)
  else .error (.chunkTooLong body.length)

/-- Writes chunks one after the other; the first one that is too long is reported. -/
def join : List Bytes → Except EncodingError Bytes
  | [] => .ok []
  | body :: rest => do
    let first ← chunk body
    let others ← join rest
    return first ++ others

/-- Splits the first chunk off. -/
def takeChunk? : Bytes → Option (Bytes × Bytes)
  | high :: low :: rest =>
    if 256 * high.toNat + low.toNat ≤ rest.length then
      some (rest.splitAt (256 * high.toNat + low.toNat))
    else none
  | _ => none

/-- What follows a chunk is shorter than the whole. -/
theorem length_lt_of_takeChunk? {bs body rest : Bytes} (h : takeChunk? bs = some (body, rest)) :
    rest.length < bs.length := by
  unfold takeChunk? at h
  split at h
  · split at h
    · simp only [List.splitAt_eq, Option.some.injEq, Prod.mk.injEq] at h
      rw [← h.2]
      simp; omega
    · simp at h
  · simp at h

/-- Cuts a text of chunks apart; nothing if a chunk is incomplete. -/
def split? (bs : Bytes) : Option (List Bytes) :=
  if bs = [] then some []
  else
    match _taken : takeChunk? bs with
    | some (body, rest) => (split? rest).map (body :: ·)
    | none => none
termination_by bs.length
decreasing_by exact length_lt_of_takeChunk? _taken

/-! ## Fractions -/

/-- Into how many parts the whole is divided. -/
def fractionScale : Nat := 16777215

/-- How many parts a fraction is, from the middle to the even number; a fraction that is
no finite number is a defect. -/
def fractionParts (fraction : Binary64) : Except Failure Int :=
  match (fraction.mul (.ofInt fractionScale)).round? with
  | some parts => .ok parts
  | none => .error .defect

end SwapRouter.Wire
