import SwapRouter.Address
import SwapRouter.Uint256
import SwapRouter.Binary64.Numeral

/-!
# Reading records

A record is read field by field, and a caller wants to hear of all refused fields at
once.  `Reading` is therefore an outcome whose application collects the faults of both
sides.  The readers of single values are lenient: a flag may be a number or a word, and
a number may be a text.
-/

namespace SwapRouter

/-- The outcome of reading: a value, or the faults found. -/
inductive Reading (α : Type) where
  | ok (value : α)
  | refused (faults : List Fault)

namespace Reading

variable {α β : Type}

/-- Applies a function to the value read. -/
def map (f : α → β) : Reading α → Reading β
  | ok value => ok (f value)
  | refused faults => refused faults

/-- Applies a read function to a read value; the faults of both are collected. -/
def apply (f : Reading (α → β)) (x : Reading α) : Reading β :=
  match f, x with
  | ok f, ok value => ok (f value)
  | ok _, refused faults => refused faults
  | refused faults, ok _ => refused faults
  | refused before, refused after => refused (before ++ after)

instance : Applicative Reading where
  pure := ok
  map := map
  seq f x := apply f (x ())

/-- The faults found. -/
def faults : Reading α → List Fault
  | ok _ => []
  | refused faults => faults

/-- A refusal of the value that is read, for one cause. -/
def refuse (cause : FieldFault) : Reading α := refused [⟨[], cause⟩]

/-- Moves all faults into a field. -/
def within (name : String) : Reading α → Reading α
  | ok value => ok value
  | refused faults => refused (faults.map (Fault.within name))

/-- A value whose reader knows of one fault. -/
def ofValue : Except ValueFault α → Reading α
  | .ok value => ok value
  | .error fault => refuse (.value fault)

/-- Reads every item of a list, counting from a position. -/
def each (read : Json → Reading α) : Nat → List Json → Reading (List α)
  | _, [] => ok []
  | position, item :: items =>
    apply (map List.cons ((read item).within (toString position))) (each read (position + 1) items)

/-- Reads every field of an object. -/
def eachField (read : Json → Reading α) : List (String × Json) → Reading (List (String × α))
  | [] => ok []
  | (name, item) :: fields =>
    apply (map (fun value rest => (name, value) :: rest)
        ((read item).within (Text.withoutHalves name)))
      (eachField read fields)

/-! ## Single values -/

/-- A text. -/
def text : Json → Reading String
  | .str s => ok s
  | _ => refuse .notText

/-- A well-formed address, in its normal form. -/
def address : Json → Reading Address
  | .str s => ofValue (Address.mk s).checked
  | _ => refuse .notText

/-- An amount. -/
def amount (j : Json) : Reading Uint256 := ofValue (Uint256.ofJson j)

/-- A byte string. -/
def bytes (j : Json) : Reading Bytes := ofValue (Bytes.ofJson j)

/-- The words for true and false. -/
def flagWords : List (String × Bool) := [
  ("0", false), ("off", false), ("f", false), ("false", false), ("n", false), ("no", false),
  ("1", true), ("on", true), ("t", true), ("true", true), ("y", true), ("yes", true)]

/-- A number that is to be a flag has less than this magnitude. -/
def flagBound : Nat := Nat.pow 2 63

/-- A whole number as a flag: zero or one.  A number that does not fit into 64 bits is not
even looked at. -/
def flagOfInt (n : Int) : Reading Bool :=
  if n = 0 then ok false
  else if n = 1 then ok true
  else if -(flagBound : Int) ≤ n ∧ n < flagBound then refuse .unknownFlag
  else refuse .notFlag

/-- A flag: a truth value, a zero or one, or a word. -/
def flag : Json → Reading Bool
  | .bool b => ok b
  | .int n => flagOfInt n
  | .float x => match x.toUnits? with
    | some units =>
      if units % unitsPerOne = 0 ∧ units ≠ -(flagBound : Int) * unitsPerOne then
        flagOfInt (units / unitsPerOne)
      else refuse .notFlag
    | none => refuse .notFlag
  | .str s => match flagWords.lookup (String.ofList (s.toList.map Char.toLower)) with
    | some b => ok b
    | none => refuse (if Text.hasHalf s then .notUnicode else .unknownFlag)
  | _ => refuse .notFlag

/-- A number: a JSON number, a truth value or a numeral. -/
def number : Json → Reading Binary64
  | .float x => ok x
  | .int n => match Binary64.ofInt n with
    | .infinite _ => refuse .notNumber
    | x => ok x
  | .bool b => ok (if b then .one else .zero false)
  | .str s => match Numeral.plain? s with
    | some numeral => ok numeral.toBinary64
    | none => refuse (if Text.hasHalf s then .notUnicode else .unknownNumber)
  | _ => refuse .notNumber

/-- A list. -/
def list (read : Json → Reading α) : Json → Reading (List α)
  | .arr items => each read 0 items
  | _ => refuse .notList

/-- An object whose fields are read alike. -/
def table (read : Json → Reading α) : Json → Reading (List (String × α))
  | .obj fields => eachField read fields
  | _ => refuse .notObject

/-- A value that may be null. -/
def nullable (read : Json → Reading α) : Json → Reading (Option α)
  | .null => ok none
  | j => map some (read j)

/-- A record, read from its fields. -/
def record (read : List (String × Json) → Reading α) : Json → Reading α
  | .obj fields => read fields
  | _ => refuse .notRecord

/-! ## Fields -/

/-- A field that must be there. -/
def required (name : String) (read : Json → Reading α) (fields : List (String × Json)) :
    Reading α :=
  match fields.lookup name with
  | some j => (read j).within name
  | none => refused [⟨[name], .missing⟩]

/-- A field with a value for its absence. -/
def withDefault (name : String) (absent : α) (read : Json → Reading α)
    (fields : List (String × Json)) : Reading α :=
  match fields.lookup name with
  | some j => (read j).within name
  | none => ok absent

end Reading

end SwapRouter
