import SwapRouter.Json.Basic
import SwapRouter.Bytes

/-!
# Faults of received values

A received value may be unfit for the place where it stands.  `ValueFault` lists what can
be wrong with an amount, a byte string or an address; `FieldFault` adds the wrong kinds
of value and the missing fields, and a `Fault` says in which field it was found.
-/

namespace SwapRouter

/-- What is wrong with an amount, a byte string or an address. -/
inductive ValueFault where
  /-- An amount is neither a whole number nor a text. -/
  | notAmount (kind : String)
  /-- The text of an amount is no decimal integer. -/
  | notDecimal (text : String)
  | negative (amount : Int)
  | overflow (amount : Int)
  /-- The text of a byte string has characters other than pairs of digits. -/
  | notHex (text : String)
  /-- A byte string is no text. -/
  | notBytes (kind : String)
  | notAddress (text : String)
  deriving DecidableEq, Repr

/-- The wording of a fault. -/
def ValueFault.message : ValueFault → String
  | .notAmount kind => s!"Uint256 must be string or int, got {kind}"
  | .notDecimal text => s!"Uint256 must be a decimal integer string: '{text}'"
  | .negative amount => s!"Uint256 cannot be negative: {amount}"
  | .overflow amount => s!"Uint256 overflow: {amount} > 2^256-1"
  | .notHex text => s!"Invalid hex string: '{text}'"
  | .notBytes kind => s!"Expected bytes or hex string, got {kind}"
  | .notAddress text => s!"Invalid address: {text}"

/-- Why a field is refused. -/
inductive FieldFault where
  | missing
  | notText
  | notList
  | notObject
  | notRecord
  | notFlag
  | unknownFlag
  | notNumber
  | unknownNumber
  | unknownChoice
  /-- A text with a lone half of a surrogate pair, where its characters count. -/
  | notUnicode
  | value (fault : ValueFault)
  deriving DecidableEq, Repr

/-- The name by which a refusal is reported. -/
def FieldFault.name : FieldFault → String
  | .missing => "missing"
  | .notText => "string_type"
  | .notList => "list_type"
  | .notObject => "dict_type"
  | .notRecord => "model_type"
  | .notFlag => "bool_type"
  | .unknownFlag => "bool_parsing"
  | .notNumber => "float_type"
  | .unknownNumber => "float_parsing"
  | .unknownChoice => "enum"
  | .notUnicode => "string_unicode"
  | .value _ => "value_error"

/-- The wording of a refusal, where it has one of its own. -/
def FieldFault.message? : FieldFault → Option String
  | .value fault => some ("Value error, " ++ fault.message)
  | _ => none

/-- A refused field: the names and positions that lead to it, outermost first. -/
structure Fault where
  path : List String
  cause : FieldFault
  deriving DecidableEq, Repr

/-- Whether the wording of a fault holds a lone half of a surrogate pair; such a fault
cannot be reported. -/
def Fault.isUnreportable (f : Fault) : Bool := f.cause.message?.any Text.hasHalf

/-- Moves a fault into a field. -/
def Fault.within (name : String) (f : Fault) : Fault := { f with path := name :: f.path }

end SwapRouter
