import SwapRouter.Abi.Basic
import SwapRouter.Text.Integer

/-!
# Signatures of functions

A call names its function by the first four bytes of the hash of its signature, and the
types of the arguments are read off that signature.

`argumentTexts` cuts the list of types at the commas outside parentheses, and
`AbiType.ofText?` reads a single type.
-/

namespace SwapRouter

namespace Abi

/-- The four bytes that name a function. -/
def selector (signature : String) : Bytes := (Keccak.hashText signature).take 4

@[simp] theorem length_selector (signature : String) : (selector signature).length = 4 := by
  rw [selector, List.length_take, Keccak.hashText, Keccak.length_hash]
  rfl

/-- Cuts a text at the commas outside parentheses.  `depth` counts the parentheses that
are open and falls below zero when too many are closed; the part read so far is kept in
reverse, and the last part counts only if it is not empty. -/
def cutAtCommas : Int → List Char → List Char → List (List Char)
  | _, current, [] => if current.isEmpty then [] else [current.reverse]
  | depth, current, c :: cs =>
    if c = ',' && depth = 0 then current.reverse :: cutAtCommas depth [] cs
    else
      let depth := if c = '(' then depth + 1 else if c = ')' then depth - 1 else depth
      cutAtCommas depth (c :: current) cs

/-- The types of the arguments as a signature writes them: what stands between the first
parenthesis and the last character.  A signature without parenthesis is a defect. -/
def argumentTexts (signature : String) : Except Failure (List String) :=
  match (Text.chars signature).dropWhile (· ≠ '(') with
  | [] => .error .defect
  | _ :: inner => .ok ((cutAtCommas 0 [] inner.dropLast).map String.ofList)

/-! ## Types -/

/-- Reads a number without zeros in front. -/
def size? (digits : List Char) : Option Nat :=
  if digits ≠ [] && digits.all Char.isDigit && digits.head? ≠ some '0' then
    some (Text.ofDigits 10 (digits.map fun c => c.toNat - 48))
  else none

/-- Reads the bits of a number type. -/
def bits? (digits : List Char) : Option Nat :=
  (size? digits).filter fun bits => bits ≤ 256 && bits % 8 = 0

/-- Reads the bits and places of a type with decimal places. -/
def places? (cs : List Char) : Option (Nat × Nat) := do
  let bits ← bits? (cs.takeWhile (· ≠ 'x'))
  let places ← size? ((cs.dropWhile (· ≠ 'x')).drop 1)
  if places ≤ 80 then return (bits, places) else none

/-- The types that are named by a word alone; some of them are short for a longer one. -/
def wordTypes : List (String × AbiType) := [
  ("address", .address), ("bool", .bool), ("bytes", .bytes), ("string", .string),
  ("uint", .uint 256), ("int", .int 256), ("function", .fixedBytes 24),
  ("fixed", .fixed true 128 18), ("ufixed", .fixed false 128 18)]

/-- What follows a text at the front of another one. -/
def behind? (front : String) (word : List Char) : Option (List Char) :=
  if front.toList.isPrefixOf word then some (word.drop front.length) else none

/-- Reads a type that has no parts. -/
def ofWord? (word : List Char) : Option AbiType :=
  match wordTypes.lookup (String.ofList word) with
  | some t => some t
  | none =>
    (((behind? "uint" word).bind bits?).map .uint)
      <|> (((behind? "int" word).bind bits?).map .int)
      <|> (((behind? "bytes" word).bind size?).filter (· ≤ slot)).map .fixedBytes
      <|> (((behind? "fixed" word).bind places?).map fun (bits, places) => .fixed true bits places)
      <|> (((behind? "ufixed" word).bind places?).map fun (bits, places) => .fixed false bits places)

mutual

/-- Reads a type from the front; as many steps as characters are enough. -/
def readType? : Nat → List Char → Option (AbiType × List Char)
  | 0, _ => none
  | steps + 1, '(' :: rest => do
    let (parts, rest) ← readTypes? steps rest
    return (.tuple parts, rest)
  | _, cs =>
    let isEnd (c : Char) : Bool := c = ',' || c = ')'
    (ofWord? (cs.takeWhile (!isEnd ·))).map fun t => (t, cs.dropWhile (!isEnd ·))

/-- Reads types up to the closing parenthesis. -/
def readTypes? : Nat → List Char → Option (List AbiType × List Char)
  | 0, _ => none
  | steps + 1, cs => do
    let (t, rest) ← readType? steps cs
    match rest with
    | ',' :: rest => do
      let (ts, rest) ← readTypes? steps rest
      return (t :: ts, rest)
    | ')' :: rest => return ([t], rest)
    | _ => none

end

end Abi

/-- Reads the text of a type. -/
def AbiType.ofText? (s : String) : Option AbiType :=
  match Abi.readType? (s.length + 1) (Text.chars s) with
  | some (t, []) => some t
  | _ => none

namespace Abi

/-- The types of the arguments of a function; types that are not known are a defect. -/
def argumentTypes (signature : String) : Except Failure (List AbiType) := do
  let texts ← argumentTexts signature
  match texts.mapM AbiType.ofText? with
  | some types => return types
  | none => throw .defect

/-- The data of a call: the name of the function and its encoded arguments.  A signature
without a UTF-8 form has no hash. -/
def call (signature : String) (values : List AbiValue) : Except Failure Bytes := do
  if Text.hasHalf signature then throw .defect
  let types ← argumentTypes signature
  let arguments ← encodeAll types values
  return selector signature ++ arguments

end Abi

end SwapRouter
