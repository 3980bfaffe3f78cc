import SwapRouter.Error
import SwapRouter.Pattern

/-!
# What protocols can do

Four sets of patterns classify the protocols.  No protocol is listed both as groupable
and as unsupported for chained swaps; the type carries that.

A table may put other values into a set than texts.  They name no protocol, but a look-up
that has to go through the patterns of such a set is a defect: `ProtocolSet.ask` says so.
-/

namespace SwapRouter

/-- A set of protocols, given by patterns. -/
structure ProtocolSet where
  patterns : List String := []
  /-- Members that are no texts. -/
  foreign : List Json := []
  deriving Inhabited

namespace ProtocolSet

instance : Membership String ProtocolSet := ⟨fun set p => p ∈ set.patterns⟩

instance (p : String) (set : ProtocolSet) : Decidable (p ∈ set) :=
  inferInstanceAs (Decidable (p ∈ set.patterns))

/-- Whether one of the patterns names a protocol. -/
def names (set : ProtocolSet) (protocol : String) : Bool :=
  set.patterns.any (namesProtocol · protocol)

/-- Whether a set names a protocol, where the set may have foreign members: they are met
unless the protocol itself is a member. -/
def ask (set : ProtocolSet) (protocol : String) : Except Failure Bool :=
  if protocol ∈ set then .ok true
  else if set.foreign.isEmpty then .ok (set.names protocol)
  else .error .defect

/-- Whether two foreign members are the same: numbers are told apart by their values, and
the truth values count as one and zero. -/
def isSame (a b : Json) : Bool :=
  match a, b with
  | .null, .null => true
  | .float x, .float y => x = y || (x.toUnits?.isSome && x.toUnits? = y.toUnits?)
  | a, b => match wholeUnits? a, wholeUnits? b with
    | some m, some n => m = n
    | _, _ => false
where
  /-- The value of a finite number, in units of the smallest one. -/
  wholeUnits? : Json → Option Int
    | .bool b => some (if b then unitsPerOne else 0)
    | .int n => some (n * unitsPerOne)
    | .float x => x.toUnits?
    | _ => none

/-- Adds a member of a list; a list or an object cannot be one. -/
def insert? (set : ProtocolSet) : Json → Option ProtocolSet
  | .str s => some { set with patterns := set.patterns ++ [s] }
  | .arr _ | .obj _ => none
  | j =>
    some (if set.foreign.any (isSame j) then set else { set with foreign := set.foreign ++ [j] })

/-- The set written as a value: the items of a list, the characters of a text, or the names
of an object.  Another value is a defect. -/
def ofJson : Json → Except Failure ProtocolSet
  | .arr items => match items.foldlM insert? {} with
    | some set => .ok set
    | none => .error .defect
  | .str s => .ok { patterns := (Text.letters s).map fun l => String.ofList l.chars }
  | .obj fields => .ok { patterns := fields.map (·.1) }
  | _ => .error .defect

end ProtocolSet

/-- The classification of protocols. -/
structure Capabilities where
  /-- Consecutive swaps are merged into one call of the executor. -/
  groupable : ProtocolSet := {}
  /-- Pools may be paid by the previous pool. -/
  paidDirectly : ProtocolSet := {}
  /-- Funds come from the router alone and go back to it. -/
  unsupportedForChaining : ProtocolSet := {}
  /-- The executor takes its input from the router itself. -/
  fundsInRouter : ProtocolSet := {}
  isConsistent : ∀ p ∈ groupable.patterns, p ∉ unsupportedForChaining := by simp

namespace Capabilities

instance : Inhabited Capabilities := ⟨{}⟩

/-- Whether consecutive swaps of a protocol are merged. -/
def isGroupable (c : Capabilities) (protocol : String) : Bool := c.groupable.names protocol

/-- Whether a protocol takes funds from the router alone. -/
def isUnsupportedForChaining (c : Capabilities) (protocol : String) : Bool :=
  c.unsupportedForChaining.names protocol

/-- Whether tokens must be moved into the pool before it swaps. -/
def needsInTransfer (c : Capabilities) (protocol : String) : Bool :=
  !c.fundsInRouter.names protocol

/-- Whether a pool of one protocol may pay a pool of another one. -/
def allowsDirectTransfer (c : Capabilities) (source target : String) : Bool :=
  !c.isUnsupportedForChaining source && !c.isUnsupportedForChaining target
    && c.needsInTransfer target
    && ((c.isGroupable source && c.isGroupable target) || c.paidDirectly.names target)

/-- Whether a pool of one protocol may pay a pool of another one, where the sets may have
foreign members. -/
def askDirectTransfer (c : Capabilities) (source target : String) : Except Failure Bool := do
  if ← c.unsupportedForChaining.ask source then return false
  if ← c.unsupportedForChaining.ask target then return false
  if ← c.fundsInRouter.ask target then return false
  if ← c.groupable.ask source then
    if ← c.groupable.ask target then return true
  c.paidDirectly.ask target

/-- Classifies by four sets; a protocol in two sets that exclude each other is refused. -/
def ofSets (groupable paidDirectly unsupported fundsInRouter : ProtocolSet) :
    Except EncodingError Capabilities :=
  if h : ∀ p ∈ groupable.patterns, p ∉ unsupported then
    .ok ⟨groupable, paidDirectly, unsupported, fundsInRouter, h⟩
  else
    .error (.conflictingCapabilities
      (Text.sorted (groupable.patterns.filter (· ∈ unsupported)).eraseDups))

/-- The set that a field of an object holds; an absent one is empty. -/
def fieldSet (fields : List (String × Json)) (name : String) : Except Failure ProtocolSet :=
  match fields.lookup name with
  | some j => ProtocolSet.ofJson j
  | none => .ok {}

/-- Reads a classification; a foreign member in two sets that exclude each other is a
defect. -/
def ofJson : Json → Except Failure Capabilities
  | .obj fields => do
    let groupable ← fieldSet fields "groupable"
    let paidDirectly ← fieldSet fields "in_transfer_optimizable"
    let unsupported ← fieldSet fields "unsupported_for_chained_swaps"
    let fundsInRouter ← fieldSet fields "funds_in_router"
    if groupable.foreign.any fun j => unsupported.foreign.any (ProtocolSet.isSame j) then
      throw .defect
    match ofSets groupable paidDirectly unsupported fundsInRouter with
    | .ok c => return c
    | .error e => throw (.encoding e)
  | _ => .error .defect

end Capabilities

end SwapRouter
