import SwapRouter.Text.Half

/-!
# Names in letters of ASCII

A label of a domain name with other characters is carried in letters, digits and hyphens.
The characters of ASCII come first, and behind the last hyphen the others follow in the
order of their code points: each is told by how far it lies from the one before, counted
over all places where a character could stand.  The counts are written with digits of
base 36 whose weights follow the size of the counts so far.
-/

namespace SwapRouter.Url.Punycode

/-- The number of digits. -/
def base : Nat := 36

/-- The first code point beyond ASCII. -/
def firstCode : Nat := 0x80

/-- The bias before the first count. -/
def firstBias : Nat := 72

/-- The threshold of the digit at a place. -/
def threshold (place bias : Nat) : Nat :=
  let weight := base * (place + 1)
  if weight ≤ bias then 1 else min 26 (weight - bias)

theorem threshold_pos (place bias : Nat) : 1 ≤ threshold place bias := by
  unfold threshold
  simp only []
  split <;> omega

/-- Shrinks a count to the range of one threshold, with the weight that this takes. -/
def shrink (count weight : Nat) : Nat × Nat :=
  if 455 < count then shrink (count / 35) (weight + base) else (count, weight)
termination_by count
decreasing_by exact Nat.div_lt_self (by omega) (by omega)

/-- The bias behind a count, where a number of characters is written. -/
def adapt (count written : Nat) (isFirst : Bool) : Nat :=
  let count := if isFirst then count / 700 else count / 2
  let (rest, weight) := shrink (count + count / written) 0
  weight + base * rest / (rest + 38)

/-- The character of a digit. -/
def digitChar (d : Nat) : Char :=
  if d < 26 then Char.ofNat (97 + d) else Char.ofNat (22 + d)

/-- The value of a digit in either case. -/
def digitValue? (c : Char) : Option Nat :=
  if 'a' ≤ c ∧ c ≤ 'z' then some (c.toNat - 97)
  else if 'A' ≤ c ∧ c ≤ 'Z' then some (c.toNat - 65)
  else if '0' ≤ c ∧ c ≤ '9' then some (c.toNat - 22)
  else none

/-- Writes a count from a place on. -/
def countDigits (bias place count : Nat) : List Char :=
  let t := threshold place bias
  if count < t then [digitChar count]
  else
    digitChar (t + (count - t) % (base - t)) ::
      countDigits bias (place + 1) ((count - t) / (base - t))
termination_by count
decreasing_by
  have := threshold_pos place bias
  have := Nat.div_le_self (count - threshold place bias) (base - threshold place bias)
  omega

/-! ## Writing -/

/-- What is kept while a label is written. -/
structure Writing where
  digits : List Char := []
  count : Nat := 0
  bias : Nat := firstBias
  written : Nat

/-- Passes a character of the label while a code point is written. -/
def Writing.pass (basic code : Nat) (w : Writing) (c : Nat) : Writing :=
  if c < code then { w with count := w.count + 1 }
  else if c = code then {
    digits := w.digits ++ countDigits w.bias 0 w.count
    count := 0
    bias := adapt w.count (w.written + 1) (w.written = basic)
    written := w.written + 1 }
  else w

/-- Writes code points in their order, from the least one that is not written yet. -/
def Writing.run (basic : Nat) (label : List Nat) (w : Writing) (least : Nat) :
    List Nat → Writing
  | [] => w
  | code :: codes =>
    let w := { w with count := w.count + (code - least) * (w.written + 1) }
    let w := label.foldl (Writing.pass basic code) w
    Writing.run basic label { w with count := w.count + 1 } (code + 1) codes

/-- Writes a label. -/
def encode (label : List Char) : List Char :=
  let codes := label.map Char.toNat
  let basic := label.filter fun c => c.toNat < firstCode
  let others := ((codes.filter (firstCode ≤ ·)).mergeSort).eraseDups
  let w := Writing.run basic.length codes { written := basic.length } firstCode others
  basic ++ (if basic = [] then [] else ['-']) ++ w.digits

/-! ## Reading -/

/-- Reads a count: its value, and what follows it. -/
def readCount? (bias : Nat) : Nat → Nat → Nat → List Char → Option (Nat × List Char)
  | _, _, _, [] => none
  | place, weight, count, c :: cs =>
    match digitValue? c with
    | none => none
    | some d =>
      let t := threshold place bias
      let count := count + d * weight
      if d < t then some (count, cs)
      else readCount? bias (place + 1) (weight * (base - t)) count cs

/-- Puts an item at a place of a list. -/
def insertAt {α : Type} (place : Nat) (a : α) (as : List α) : List α :=
  as.take place ++ a :: as.drop place

/-- What is kept while a label is read: the code points so far, the last one that was put
among them, and where the next one would stand if its count were zero. -/
structure Found where
  codes : List Nat
  last : Nat := firstCode
  place : Nat := 0
  bias : Nat := firstBias
  isFirst : Bool := true

/-- Reads counts and puts the code points where they belong; as many steps as characters
are enough. -/
def readCounts? : Nat → Found → List Char → Option (List Nat)
  | 0, f, cs => if cs.isEmpty then some f.codes else none
  | steps + 1, f, cs =>
    if cs.isEmpty then some f.codes
    else match readCount? f.bias 0 1 0 cs with
      | none => none
      | some (count, rest) =>
        let whole := f.place + count
        let code := f.last + whole / (f.codes.length + 1)
        let place := whole % (f.codes.length + 1)
        if 0x10FFFF < code then none
        else
          let codes := insertAt place code f.codes
          let bias := adapt count codes.length f.isFirst
          readCounts? steps ⟨codes, code, place + 1, bias, false⟩ rest

/-- Reads a written label. -/
def decode? (cs : List Char) : Option (List Char) :=
  let tail := (cs.reverse.takeWhile (· ≠ '-')).reverse
  let basic := cs.take (cs.length - tail.length - 1)
  (readCounts? tail.length { codes := basic.map Char.toNat } tail).map (·.map Text.ofUnit)

end SwapRouter.Url.Punycode
