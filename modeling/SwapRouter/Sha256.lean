import SwapRouter.Bytes

/-!
# SHA-256 and its keyed form

The hash with which the nonces of signatures are derived, and the keyed hash (HMAC)
built from it.  Words of 32 bits are kept as numbers.
-/

namespace SwapRouter.Sha256

/-- A word is a number below this one. -/
def wordSize : Nat := 0x100000000

/-- The constants of the 64 steps. -/
def stepConstants : List Nat := [
  0x428A2F98, 0x71374491, 0xB5C0FBCF, 0xE9B5DBA5, 0x3956C25B, 0x59F111F1, 0x923F82A4, 0xAB1C5ED5,
  0xD807AA98, 0x12835B01, 0x243185BE, 0x550C7DC3, 0x72BE5D74, 0x80DEB1FE, 0x9BDC06A7, 0xC19BF174,
  0xE49B69C1, 0xEFBE4786, 0x0FC19DC6, 0x240CA1CC, 0x2DE92C6F, 0x4A7484AA, 0x5CB0A9DC, 0x76F988DA,
  0x983E5152, 0xA831C66D, 0xB00327C8, 0xBF597FC7, 0xC6E00BF3, 0xD5A79147, 0x06CA6351, 0x14292967,
  0x27B70A85, 0x2E1B2138, 0x4D2C6DFC, 0x53380D13, 0x650A7354, 0x766A0ABB, 0x81C2C92E, 0x92722C85,
  0xA2BFE8A1, 0xA81A664B, 0xC24B8B70, 0xC76C51A3, 0xD192E819, 0xD6990624, 0xF40E3585, 0x106AA070,
  0x19A4C116, 0x1E376C08, 0x2748774C, 0x34B0BCB5, 0x391C0CB3, 0x4ED8AA4A, 0x5B9CCA4F, 0x682E6FF3,
  0x748F82EE, 0x78A5636F, 0x84C87814, 0x8CC70208, 0x90BEFFFA, 0xA4506CEB, 0xBEF9A3F7, 0xC67178F2]

/-- The eight words of a running hash. -/
structure State where
  a : Nat
  b : Nat
  c : Nat
  d : Nat
  e : Nat
  f : Nat
  g : Nat
  h : Nat

/-- The state before the first block. -/
def initial : State :=
  ⟨0x6A09E667, 0xBB67AE85, 0x3C6EF372, 0xA54FF53A, 0x510E527F, 0x9B05688C, 0x1F83D9AB, 0x5BE0CD19⟩

/-- Rotates a word to the right. -/
def rotateRight (word amount : Nat) : Nat := (word * (wordSize + 1)) >>> amount % wordSize

/-- The word at a place of a number, counted from its end. -/
def wordAt (words place : Nat) : Nat := words >>> (32 * place) % wordSize

/-- Prolongs the words of a block, which stand in a number, by one word. -/
def extend (words : Nat) : Nat :=
  let early := wordAt words 14
  let late := wordAt words 1
  let s0 := rotateRight early 7 ^^^ rotateRight early 18 ^^^ (early >>> 3)
  let s1 := rotateRight late 17 ^^^ rotateRight late 19 ^^^ (late >>> 10)
  words * wordSize + (wordAt words 15 + s0 + wordAt words 6 + s1) % wordSize

/-- The 64 words of a block's schedule. -/
def schedule (block : Bytes) : List Nat :=
  let words := Nat.repeat extend 48 block.toNat
  (List.range 64).map fun step => wordAt words (63 - step)

/-- One step. -/
def step (s : State) (input : Nat × Nat) : State :=
  let (word, constant) := input
  let s1 := rotateRight s.e 6 ^^^ rotateRight s.e 11 ^^^ rotateRight s.e 25
  let choice := (s.e &&& s.f) ^^^ (((wordSize - 1) ^^^ s.e) &&& s.g)
  let t1 := s.h + s1 + choice + constant + word
  let s0 := rotateRight s.a 2 ^^^ rotateRight s.a 13 ^^^ rotateRight s.a 22
  let majority := (s.a &&& s.b) ^^^ (s.a &&& s.c) ^^^ (s.b &&& s.c)
  ⟨(t1 + s0 + majority) % wordSize, s.a, s.b, s.c, (s.d + t1) % wordSize, s.e, s.f, s.g⟩

/-- The sum of two states, word by word. -/
def State.add (s t : State) : State :=
  ⟨(s.a + t.a) % wordSize, (s.b + t.b) % wordSize, (s.c + t.c) % wordSize,
    (s.d + t.d) % wordSize, (s.e + t.e) % wordSize, (s.f + t.f) % wordSize,
    (s.g + t.g) % wordSize, (s.h + t.h) % wordSize⟩

/-- Adds a block to a running hash. -/
def compress (s : State) (block : Bytes) : State :=
  s.add (((schedule block).zip stepConstants).foldl step s)

/-- Adds all blocks of a padded message. -/
def absorb : Nat → State → Bytes → State
  | 0, s, _ => s
  | blocks + 1, s, message => absorb blocks (compress s (message.take 64)) (message.drop 64)

/-- Appends a one bit, zeros and the length in bits, which completes the last block. -/
def pad (message : Bytes) : Bytes :=
  let gap := (119 - message.length % 64) % 64
  message ++ 0x80 :: (Bytes.zeros gap ++ Bytes.ofNat 8 (8 * message.length))

/-- The 32-byte hash of a message. -/
def hash (message : Bytes) : Bytes :=
  let padded := pad message
  let s := absorb (padded.length / 64) initial padded
  [s.a, s.b, s.c, s.d, s.e, s.f, s.g, s.h].flatMap (Bytes.ofNat 4)

@[simp] theorem length_hash (message : Bytes) : (hash message).length = 32 := by
  simp [hash]

/-- The keyed hash; a key longer than a block is hashed first. -/
def keyed (key message : Bytes) : Bytes :=
  let key := if key.length > 64 then hash key else key
  let block := key ++ Bytes.zeros (64 - key.length)
  hash (block.map (· ^^^ 0x5C) ++ hash (block.map (· ^^^ 0x36) ++ message))

end SwapRouter.Sha256
