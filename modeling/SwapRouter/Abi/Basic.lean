import SwapRouter.Error
import SwapRouter.Keccak

/-!
# The binary interface of contracts

The arguments of a call are encoded by their types.  A type is *static* if its values
have one length; a value of a *dynamic* type is written behind all heads, and its head
is the offset of that place.

`encodeAll?` encodes arguments and `decodeAll?` reads them back; the reader does not mind
bytes behind the arguments, but it refuses a number beyond its type and padding that is
not zero.
-/

namespace SwapRouter

/-- The type of an argument. -/
inductive AbiType where
  | uint (bits : Nat)
  | int (bits : Nat)
  /-- A number with so many decimal places. -/
  | fixed (isSigned : Bool) (bits places : Nat)
  | address
  | bool
  /-- A byte string of at most so many bytes. -/
  | fixedBytes (size : Nat)
  | bytes
  | string
  | tuple (parts : List AbiType)
  deriving Inhabited

/-- An argument. -/
inductive AbiValue where
  | number (n : Int)
  | flag (b : Bool)
  | bytes (bs : Bytes)
  | text (s : String)
  | tuple (parts : List AbiValue)
  deriving Inhabited

namespace Abi

/-- The width of every slot. -/
def slot : Nat := 32

mutual

/-- Whether the values of a type have no fixed length. -/
def isDynamic : AbiType → Bool
  | .bytes | .string => true
  | .tuple parts => isAnyDynamic parts
  | _ => false

/-- Whether one of the types is dynamic. -/
def isAnyDynamic : List AbiType → Bool
  | [] => false
  | t :: ts => isDynamic t || isAnyDynamic ts

end

mutual

/-- How many bytes the value of a static type takes. -/
def staticSize : AbiType → Nat
  | .tuple parts => headSizes parts
  | _ => slot

/-- How many bytes the heads of arguments take. -/
def headSizes : List AbiType → Nat
  | [] => 0
  | t :: ts => (if isDynamic t then slot else staticSize t) + headSizes ts

end

/-- Appends zeros up to a whole number of slots. -/
def padRight (bs : Bytes) : Bytes := bs ++ Bytes.zeros ((slot - bs.length % slot) % slot)

/-- An encoded argument: what stands in the heads, or what its head points to. -/
inductive Part where
  | inPlace (bytes : Bytes)
  | behind (bytes : Bytes)

/-- Encodes a number without a sign. -/
def encodeUint? (bits : Nat) (n : Int) : Option Bytes :=
  if 0 ≤ n ∧ n.toNat < Nat.pow 2 bits then some (Bytes.ofNat slot n.toNat) else none

/-- Lays parts out: heads first, then what they point to.  `offset` is where the next
part behind the heads begins; one that no slot holds is refused. -/
def layOut? (offset : Nat) : List Part → Option (Bytes × Bytes)
  | [] => some ([], [])
  | .inPlace bs :: parts => do
    let (heads, tails) ← layOut? offset parts
    return (bs ++ heads, tails)
  | .behind bs :: parts => do
    let head ← encodeUint? 256 offset
    let (heads, tails) ← layOut? (offset + bs.length) parts
    return (head ++ heads, bs ++ tails)

/-- Encodes a number with a sign, as its remainder by the number of values of a slot. -/
def encodeInt? (bits : Nat) (n : Int) : Option Bytes :=
  let bound : Int := Nat.pow 2 (bits - 1)
  if -bound ≤ n ∧ n < bound then some (Bytes.ofNat slot (n % (Nat.pow 256 slot : Nat)).toNat)
  else none

/-- Encodes a byte string behind its length; a length that no slot holds is refused. -/
def encodeBytes? (bs : Bytes) : Option Bytes := do
  let length ← encodeUint? 256 bs.length
  return length ++ padRight bs

mutual

/-- Encodes a value of a type; nothing if the value is not one of the type. -/
def encode? : AbiType → AbiValue → Option Bytes
  | .uint bits, .number n => encodeUint? bits n
  | .int bits, .number n => encodeInt? bits n
  | .fixed isSigned bits places, .number n =>
    if isSigned then encodeInt? bits (n * Nat.pow 10 places)
    else encodeUint? bits (n * Nat.pow 10 places)
  | .address, .bytes bs => if bs.length = 20 then some (Bytes.zeros 12 ++ bs) else none
  | .bool, .flag b => some (Bytes.ofNat slot (if b then 1 else 0))
  | .fixedBytes size, .bytes bs =>
    if bs.length ≤ size then some (bs ++ Bytes.zeros (slot - bs.length)) else none
  | .bytes, .bytes bs => encodeBytes? bs
  | .string, .text s => if Text.hasHalf s then none else encodeBytes? (Text.utf8Bytes s)
  | .tuple types, .tuple values => do
    let parts ← parts? types values
    let (heads, tails) ← layOut? (headSizes types) parts
    return heads ++ tails
  | _, _ => none

/-- Encodes arguments one by one. -/
def parts? : List AbiType → List AbiValue → Option (List Part)
  | [], [] => some []
  | t :: ts, v :: vs => do
    let bs ← encode? t v
    let parts ← parts? ts vs
    return (if isDynamic t then .behind bs else .inPlace bs) :: parts
  | _, _ => none

end

/-- Encodes the arguments of a call. -/
def encodeAll? (types : List AbiType) (values : List AbiValue) : Option Bytes :=
  encode? (.tuple types) (.tuple values)

/-- Encodes the arguments of a call; arguments that do not fit their types are a defect. -/
def encodeAll (types : List AbiType) (values : List AbiValue) : Except Failure Bytes :=
  match encodeAll? types values with
  | some bs => .ok bs
  | none => .error .defect

/-! ## Reading -/

/-- The number in the first slot. -/
def slotValue? (bs : Bytes) : Option Nat :=
  if slot ≤ bs.length then some (Bytes.toNat (bs.take slot)) else none

/-- Reads a byte string behind its length, with its padding. -/
def bytesValue? (bs : Bytes) : Option Bytes := do
  let length ← slotValue? bs
  let body := bs.drop slot
  let padded := length + (slot - length % slot) % slot
  if padded ≤ body.length && ((body.take padded).drop length).all (· = 0) then
    return body.take length
  else none

/-- Reads a number without a sign. -/
def uintValue? (bits : Nat) (bs : Bytes) : Option Int := do
  let n ← slotValue? bs
  if n < Nat.pow 2 bits then return n else none

/-- Reads a number with a sign. -/
def intValue? (bits : Nat) (bs : Bytes) : Option Int := do
  let n ← slotValue? bs
  let bound := Nat.pow 2 (bits - 1)
  if n < bound then return n
  else if Nat.pow 256 slot - bound ≤ n then return (n : Int) - (Nat.pow 256 slot : Nat)
  else none

mutual

/-- Reads a value of a type from the front. -/
def decode? : AbiType → Bytes → Option AbiValue
  | .uint bits, bs => (uintValue? bits bs).map .number
  | .int bits, bs => (intValue? bits bs).map .number
  | .fixed isSigned bits places, bs => do
    let n ← if isSigned then intValue? bits bs else uintValue? bits bs
    let scale : Int := Nat.pow 10 places
    if n % scale = 0 then return .number (n / scale) else none
  | .address, bs => do
    let n ← slotValue? bs
    if n < Nat.pow 2 160 then return .bytes (Bytes.ofNat 20 n) else none
  | .bool, bs => do
    let n ← slotValue? bs
    if n < 2 then return .flag (n = 1) else none
  | .fixedBytes size, bs =>
    if slot ≤ bs.length && ((bs.take slot).drop size).all (· = 0) then some (.bytes (bs.take size))
    else none
  | .bytes, bs => (bytesValue? bs).map .bytes
  | .string, bs => do
    let body ← bytesValue? bs
    (String.fromUTF8? ⟨body.toArray⟩).map fun s => .text (Text.ofChars s.toList)
  | .tuple types, bs => (decodeParts? types bs bs).map .tuple

/-- Reads values from their heads; an offset counts from the start of the frame. -/
def decodeParts? : List AbiType → Bytes → Bytes → Option (List AbiValue)
  | [], _, _ => some []
  | t :: ts, frame, heads => do
    if isDynamic t then
      let offset ← slotValue? heads
      let v ← decode? t (frame.drop offset)
      let vs ← decodeParts? ts frame (heads.drop slot)
      return v :: vs
    else
      let v ← decode? t heads
      let vs ← decodeParts? ts frame (heads.drop (staticSize t))
      return v :: vs

end

/-- Reads the arguments of a call. -/
def decodeAll? (types : List AbiType) (bs : Bytes) : Option (List AbiValue) :=
  decodeParts? types bs bs

end Abi

end SwapRouter
