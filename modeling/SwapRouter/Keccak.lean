import SwapRouter.Text.Encoding

/-!
# Keccak-256

The hash of the Ethereum chains: the Keccak sponge with a rate of 136 bytes and the
shortest padding, a one bit and then zeros up to a final one bit.  A state is five rows of
five lanes of 64 bits, which are kept as numbers.
-/

namespace SwapRouter.Keccak

/-- A lane is a number below this one. -/
def laneSize : Nat := 0x10000000000000000

/-- The five lanes of a row, one in each column. -/
structure Row where
  a : Nat := 0
  b : Nat := 0
  c : Nat := 0
  d : Nat := 0
  e : Nat := 0

/-- The five rows of a state. -/
structure State where
  a : Row := {}
  b : Row := {}
  c : Row := {}
  d : Row := {}
  e : Row := {}

/-- The sum of two rows, bit by bit. -/
def Row.add (r s : Row) : Row :=
  ⟨r.a ^^^ s.a, r.b ^^^ s.b, r.c ^^^ s.c, r.d ^^^ s.d, r.e ^^^ s.e⟩

/-- The sum of two states, bit by bit. -/
def State.add (s t : State) : State :=
  ⟨s.a.add t.a, s.b.add t.b, s.c.add t.c, s.d.add t.d, s.e.add t.e⟩

/-- The constants that tell the 24 rounds apart. -/
def roundConstants : List Nat := [
  0x0000000000000001, 0x0000000000008082, 0x800000000000808A, 0x8000000080008000,
  0x000000000000808B, 0x0000000080000001, 0x8000000080008081, 0x8000000000008009,
  0x000000000000008A, 0x0000000000000088, 0x0000000080008009, 0x000000008000000A,
  0x000000008000808B, 0x800000000000008B, 0x8000000000008089, 0x8000000000008003,
  0x8000000000008002, 0x8000000000000080, 0x000000000000800A, 0x800000008000000A,
  0x8000000080008081, 0x8000000000008080, 0x0000000080000001, 0x8000000080008008]

/-- Rotates a lane to the left by some, but less than 64 bits. -/
def rotateLeft (lane amount : Nat) : Nat :=
  (lane * (laneSize + 1)) >>> (64 - amount) % laneSize

/-- Turns every bit of a lane. -/
def invert (lane : Nat) : Nat := (laneSize - 1) ^^^ lane

/-- Adds to every lane the parities of two neighbouring columns. -/
def diffuse (s : State) : State :=
  let parity := (((s.a.add s.b).add s.c).add s.d).add s.e
  let change : Row := {
    a := parity.e ^^^ rotateLeft parity.b 1
    b := parity.a ^^^ rotateLeft parity.c 1
    c := parity.b ^^^ rotateLeft parity.d 1
    d := parity.c ^^^ rotateLeft parity.e 1
    e := parity.d ^^^ rotateLeft parity.a 1 }
  s.add ⟨change, change, change, change, change⟩

/-- Rotates the lanes and moves them to their new places: a row takes one lane of each old
one, and the first lane of all stays as it is. -/
def shuffle (s : State) : State where
  a := ⟨s.a.a, rotateLeft s.b.b 44, rotateLeft s.c.c 43, rotateLeft s.d.d 21, rotateLeft s.e.e 14⟩
  b := ⟨rotateLeft s.a.d 28, rotateLeft s.b.e 20, rotateLeft s.c.a 3, rotateLeft s.d.b 45,
    rotateLeft s.e.c 61⟩
  c := ⟨rotateLeft s.a.b 1, rotateLeft s.b.c 6, rotateLeft s.c.d 25, rotateLeft s.d.e 8,
    rotateLeft s.e.a 18⟩
  d := ⟨rotateLeft s.a.e 27, rotateLeft s.b.a 36, rotateLeft s.c.b 10, rotateLeft s.d.c 15,
    rotateLeft s.e.d 56⟩
  e := ⟨rotateLeft s.a.c 62, rotateLeft s.b.d 55, rotateLeft s.c.e 39, rotateLeft s.d.a 41,
    rotateLeft s.e.b 2⟩

/-- Combines every lane with the next two of its row, around its end. -/
def Row.combine (r : Row) : Row where
  a := r.a ^^^ (invert r.b &&& r.c)
  b := r.b ^^^ (invert r.c &&& r.d)
  c := r.c ^^^ (invert r.d &&& r.e)
  d := r.d ^^^ (invert r.e &&& r.a)
  e := r.e ^^^ (invert r.a &&& r.b)

/-- One round. -/
def round (s : State) (constant : Nat) : State :=
  let mixed := shuffle (diffuse s)
  ⟨mixed.a.combine.add { a := constant }, mixed.b.combine, mixed.c.combine, mixed.d.combine,
    mixed.e.combine⟩

/-- The permutation of states. -/
def permute (s : State) : State := roundConstants.foldl round s

/-- How many bytes of input one block takes. -/
def rate : Nat := 136

/-- The lane made of up to eight bytes, the first one weighing least. -/
def laneOfBytes (bs : Bytes) : Nat :=
  bs.foldr (fun b acc => 256 * acc + b.toNat) 0

/-- The eight bytes of a lane. -/
def bytesOfLane (l : Nat) : Bytes := (Bytes.ofNat 8 l).reverse

/-- The row made of up to 40 bytes. -/
def rowOfBytes (bs : Bytes) : Row :=
  let lane (i : Nat) : Nat := laneOfBytes ((bs.drop (8 * i)).take 8)
  ⟨lane 0, lane 1, lane 2, lane 3, lane 4⟩

/-- Adds a block to a state. -/
def absorbBlock (s : State) (block : Bytes) : State :=
  let row (i : Nat) : Row := rowOfBytes ((block.drop (40 * i)).take 40)
  s.add ⟨row 0, row 1, row 2, row 3, row 4⟩

/-- Adds all blocks of a padded message, one permutation after each. -/
def absorb : Nat → State → Bytes → State
  | 0, s, _ => s
  | blocks + 1, s, message =>
    absorb blocks (permute (absorbBlock s (message.take rate))) (message.drop rate)

/-- Appends the padding that completes the last block. -/
def pad (message : Bytes) : Bytes :=
  let missing := rate - message.length % rate
  message ++
    if missing = 1 then [0x81] else 0x01 :: (List.replicate (missing - 2) 0x00 ++ [0x80])

/-- The 32-byte hash of a message: the first four lanes of the last state. -/
def hash (message : Bytes) : Bytes :=
  let padded := pad message
  let first := (absorb (padded.length / rate) {} padded).a
  bytesOfLane first.a ++ bytesOfLane first.b ++ bytesOfLane first.c ++ bytesOfLane first.d

/-- The hash of the UTF-8 bytes of a text without halves. -/
def hashText (s : String) : Bytes := hash (Text.utf8Bytes s)

@[simp] theorem length_hash (message : Bytes) : (hash message).length = 32 := by
  simp [hash, bytesOfLane]

end SwapRouter.Keccak
