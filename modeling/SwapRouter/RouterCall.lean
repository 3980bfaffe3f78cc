import SwapRouter.Abi.Signature
import SwapRouter.Decimal
import SwapRouter.Order.Basic
import SwapRouter.Permit

/-!
# The call of the router

The router has three functions, each in a form with a permit and one without.  Without a
permit a flag says whether the router pulls the tokens of the user; with one, the permit
and its signature stand in that place.

`leastAmount` applies the slippage to the amount that must at least be received: the
factor and the product are decimals of 28 digits, and the result is rounded down.
-/

namespace SwapRouter

/-- A slippage and the text by which it is shown. -/
structure Slippage where
  value : Binary64
  shown : String := value.toText

/-- The decimal that a number shows as, for a number that is not negative. -/
def Binary64.toDecimal? : Binary64 → Option Decimal
  | .finite _ units _ => some (.ofShortest units)
  | _ => none

/-- The least amount to receive after slippage. -/
def leastAmount (amount : Int) (slippage : Option Slippage) : Except EncodingError Int :=
  match slippage with
  | none => .ok amount
  | some s =>
    if (Binary64.zero false).le s.value && s.value.lt .one then
      match s.value.toDecimal? with
      | some d => .ok ((Decimal.ofInt amount).mul (Decimal.oneMinus d)).floor
      | none => .error (.slippageOutOfRange s.shown)
    else .error (.slippageOutOfRange s.shown)

/-- The functions of the router. -/
inductive RouterFunction where
  | single
  | sequential
  | split
  deriving DecidableEq, Repr

namespace RouterFunction

/-- The name of a function. -/
def name : RouterFunction → String
  | .single => "singleSwap"
  | .sequential => "sequentialSwap"
  | .split => "splitSwap"

/-- Whether a function takes the number of tokens. -/
def takesTokenCount (f : RouterFunction) : Bool := f = .split

end RouterFunction

/-- The type of a permit with its details. -/
def permitTypeText : String := "((address,uint160,uint48,uint48),address,uint256)"

/-- The types of the arguments of a function of the router. -/
def routerArgumentTexts (withPermit withTokenCount : Bool) : List String :=
  ["uint256", "address", "address", "uint256", "bool", "bool"]
    ++ (if withTokenCount then ["uint256"] else [])
    ++ ["address"]
    ++ (if withPermit then [permitTypeText, "bytes"] else ["bool"])
    ++ ["bytes"]

/-- The signature of a function of the router. -/
def routerSignature (name : String) (withPermit withTokenCount : Bool) : String :=
  name ++ (if withPermit then "Permit2" else "") ++ "("
    ++ String.intercalate "," (routerArgumentTexts withPermit withTokenCount) ++ ")"

/-- The encoded swaps of an order, and what the call of the router takes beside them. -/
structure EncodedOrder where
  swaps : Bytes
  router : Address
  signature : String
  /-- The number of tokens in the table of a split order; else zero. -/
  tokenCount : Int := 0
  permit : Option Permit := none
  permitSignature : Option Bytes := none

namespace EncodedOrder

/-- The arguments of the call, in the order of its signature. -/
def arguments (order : Order) (e : EncodedOrder) : Except Failure (List AbiValue) := do
  let wraps := order.nativeAction = some .wrap
  let unwraps := order.nativeAction = some .unwrap
  let given ← order.givenToken.fieldBytes "given token"
  let checked ← order.checkedToken.fieldBytes "checked token"
  let slippage := order.slippage.map fun x => ⟨x, x.toText⟩
  let least ← match leastAmount order.checkAmount.toNat slippage with
    | .ok n => pure n
    | .error e => throw (.encoding e)
  let receiver ← order.receiver.fieldBytes "receiver"
  let permission ← match e.permit with
    | some permit => do
      pure [← permit.toAbi, .bytes (e.permitSignature.getD [])]
    | none => pure [.flag !wraps]
  return [.number order.givenAmount.toNat, .bytes given, .bytes checked, .number least,
      .flag wraps, .flag unwraps]
    ++ (if e.tokenCount = 0 then [] else [.number e.tokenCount])
    ++ [.bytes receiver] ++ permission ++ [.bytes e.swaps]

/-- The data of the call. -/
def callData (order : Order) (e : EncodedOrder) : Except Failure Bytes := do
  Abi.call e.signature (← e.arguments order)

end EncodedOrder

end SwapRouter
