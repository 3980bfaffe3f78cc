import SwapRouter.Sha256

/-!
# Signatures over the curve secp256k1

The curve `y² = x³ + 7` over the field of `fieldPrime` elements, and deterministic ECDSA
on it: the secret nonce of a signature is derived from the key and the message hash by
the keyed hash, so that signing the same hash twice gives the same signature.  Of the
two valid values of `s` the smaller one is taken.
-/

namespace SwapRouter.Secp256k1

/-- The number of elements of the field. -/
def fieldPrime : Nat := Nat.pow 2 256 - Nat.pow 2 32 - 977

/-- The number of points of the curve. -/
def groupOrder : Nat := 0xFFFFFFFFFFFFFFFFFFFFFFFFFFFFFFFEBAAEDCE6AF48A03BBFD25E8CD0364141

/-- A power modulo `m`, by the hexadecimal digits of the exponent. -/
def powMod (base exponent m : Nat) : Nat :=
  if exponent = 0 then 1 % m
  else Nat.pow base (exponent % 16) * powMod (Nat.pow base 16 % m) (exponent / 16) m % m
termination_by exponent

/-- The inverse modulo a prime. -/
def inverseMod (n p : Nat) : Nat := powMod (n % p) (p - 2) p

/-- A point of the curve. -/
inductive Point where
  | infinity
  | affine (x y : Nat)
  deriving DecidableEq

/-- The generator. -/
def generator : Point := .affine
  0x79BE667EF9DCBBAC55A06295CE870B07029BFCDB2DCE28D959F2815B16F81798
  0x483ADA7726A3C4655DA4FBFC0E1108A8FD17B448A68554199C47D08FFB10D4B8

/-- The point on the line of the given slope through two points. -/
def Point.chord (slope x₁ y₁ x₂ : Nat) : Point :=
  let p := fieldPrime
  let x := (slope * slope + 2 * p - x₁ - x₂) % p
  .affine x ((slope * (x₁ + p - x) + p - y₁) % p)

/-- The sum of two points. -/
def Point.add : Point → Point → Point
  | .infinity, q => q
  | q, .infinity => q
  | .affine x₁ y₁, .affine x₂ y₂ =>
    let p := fieldPrime
    if x₁ = x₂ then
      if (y₁ + y₂) % p = 0 then .infinity
      else .chord (3 * x₁ * x₁ * inverseMod (2 * y₁) p % p) x₁ y₁ x₂
    else .chord ((y₂ + p - y₁) * inverseMod (x₂ + p - x₁) p % p) x₁ y₁ x₂

/-- The multiple of a point, by repeated doubling. -/
def Point.multiply (n : Nat) (point : Point) : Point :=
  if n = 0 then .infinity
  else
    let half := Point.multiply (n / 2) (point.add point)
    if n % 2 = 1 then point.add half else half
termination_by n

/-- A secret key: a number of the group other than zero. -/
structure SecretKey where
  scalar : Nat
  isPositive : 0 < scalar
  isSmall : scalar < groupOrder

/-- The secret key of 32 bytes, if they are one. -/
def SecretKey.ofBytes? (bs : Bytes) : Option SecretKey :=
  if bs.length = 32 then
    if h : 0 < bs.toNat ∧ bs.toNat < groupOrder then some ⟨bs.toNat, h.1, h.2⟩ else none
  else none

/-- The 64 bytes of the public key. -/
def SecretKey.publicBytes (key : SecretKey) : Bytes :=
  match Point.multiply key.scalar generator with
  | .infinity => Bytes.zeros 64
  | .affine x y => Bytes.ofNat 32 x ++ Bytes.ofNat 32 y

/-- The state of the nonce generator: its key and its value. -/
structure NonceState where
  key : Bytes
  value : Bytes

/-- Mixes data into the generator. -/
def NonceState.mix (s : NonceState) (mark : UInt8) (data : Bytes) : NonceState :=
  let key := Sha256.keyed s.key (s.value ++ mark :: data)
  ⟨key, Sha256.keyed key s.value⟩

/-- The generator for a key and a message hash. -/
def NonceState.start (key : SecretKey) (digest : Bytes) : NonceState :=
  let data := Bytes.ofNat 32 key.scalar ++ Bytes.ofNat 32 (digest.toNat % groupOrder)
  let fresh : NonceState := ⟨Bytes.zeros 32, List.replicate 32 1⟩
  (fresh.mix 0 data).mix 1 data

/-- A signature: its two numbers and the parity of the nonce point's second coordinate. -/
structure Signature where
  r : Nat
  s : Nat
  isOdd : Bool

/-- The signature that one nonce gives, if it gives one. -/
def signatureWith? (key : SecretKey) (digest : Bytes) (nonce : Nat) : Option Signature :=
  let n := groupOrder
  if nonce = 0 || n ≤ nonce then none
  else match Point.multiply nonce generator with
    | .infinity => none
    | .affine x y =>
      let r := x % n
      let s := inverseMod nonce n * (digest.toNat + r * key.scalar) % n
      if r = 0 || s = 0 then none
      else if n / 2 < s then some ⟨r, n - s, y % 2 = 0⟩
      else some ⟨r, s, y % 2 = 1⟩

/-- Draws nonces until one gives a signature. -/
def signFrom (key : SecretKey) (digest : Bytes) : Nat → NonceState → Option Signature
  | 0, _ => none
  | draws + 1, s =>
    let s : NonceState := ⟨s.key, Sha256.keyed s.key s.value⟩
    match signatureWith? key digest s.value.toNat with
    | some signature => some signature
    | none => signFrom key digest draws (s.mix 0 [])

/-- Signs a 32-byte hash.  Fewer than one draw in `2 ^ 127` is refused, so a bound on the
number of draws is never reached. -/
def sign? (key : SecretKey) (digest : Bytes) : Option Signature :=
  signFrom key digest 64 (.start key digest)

/-- The 65 bytes of a signature: `r`, `s`, and 27 or 28 for the parity. -/
def Signature.toBytes (sig : Signature) : Bytes :=
  Bytes.ofNat 32 sig.r ++ Bytes.ofNat 32 sig.s ++ [if sig.isOdd then 28 else 27]

@[simp] theorem Signature.length_toBytes (sig : Signature) : sig.toBytes.length = 65 := by
  simp [Signature.toBytes]

end SwapRouter.Secp256k1
