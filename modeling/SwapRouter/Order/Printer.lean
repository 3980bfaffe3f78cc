import SwapRouter.Order.Basic

/-!
# Writing orders

Orders and transactions as JSON records, with the field names under which they are read.
Byte strings are written in hexadecimal digits, amounts as whole numbers.

Texts are written as they are, lone halves of surrogate pairs among them.  The name of an
attribute is written in UTF-8, however, where a half has no place.
-/

namespace SwapRouter

/-- A value that may be absent; null stands for its absence. -/
def Json.ofOption {α : Type} (toJson : α → Json) : Option α → Json
  | some a => toJson a
  | none => .null

/-- A list of values. -/
def Json.ofList {α : Type} (toJson : α → Json) (values : List α) : Json :=
  .arr (values.map toJson)

/-- An object with the same kind of value in every field. -/
def Json.ofTable {α : Type} (toJson : α → Json) (entries : List (String × α)) : Json :=
  .obj (entries.map fun (name, a) => (name, toJson a))

/-- A byte string as JSON. -/
def Bytes.toJson (bs : Bytes) : Json := .str bs.toHex

/-- An address as JSON. -/
def Address.toJson (a : Address) : Json := .str a.text

/-- An amount as JSON. -/
def Uint256.toJson (n : Uint256) : Json := .int n.toNat

/-- Puts an attribute in its place under the name that is written. -/
def Pool.putWritten (entries : List (String × Bytes)) (entry : String × Bytes) :
    List (String × Bytes) :=
  Json.put entries (Text.withoutHalves entry.1) entry.2

/-- The attributes under the names that are written.  Names that become equal when a half is
replaced are one name, with the value that comes last. -/
def Pool.writtenAttributes (p : Pool) : List (String × Bytes) :=
  p.attributes.foldl putWritten []

/-- A pool as JSON. -/
def Pool.toJson (p : Pool) : Json := .obj [
  ("id", .str p.id),
  ("protocol_system", .str p.protocol),
  ("tokens", .ofList Address.toJson p.tokens),
  ("static_attributes", .ofTable Bytes.toJson p.writtenAttributes)]

/-- A swap as JSON. -/
def Swap.toJson (s : Swap) : Json := .obj [
  ("component", s.pool.toJson),
  ("token_in", s.tokenIn.toJson),
  ("token_out", s.tokenOut.toJson),
  ("split", .float s.split),
  ("user_data", .ofOption Bytes.toJson s.userData),
  ("estimated_amount_in", .ofOption Uint256.toJson s.estimatedAmountIn)]

/-- An order as JSON. -/
def Order.toJson (x : Order) : Json := .obj [
  ("exact_out", .bool x.exactOut),
  ("given_token", x.givenToken.toJson),
  ("given_amount", x.givenAmount.toJson),
  ("checked_token", x.checkedToken.toJson),
  ("check_amount", x.checkAmount.toJson),
  ("sender", x.sender.toJson),
  ("receiver", x.receiver.toJson),
  ("swaps", .ofList Swap.toJson x.swaps),
  ("add_router_calldata", .bool x.withCall),
  ("router_address", .ofOption Address.toJson x.router),
  ("slippage", .ofOption Json.float x.slippage),
  ("native_action", .ofOption (fun a => .str a.name) x.nativeAction)]

/-- A solution as JSON. -/
def Solution.toJson (s : Solution) : Json := .obj [("orders", .ofList Order.toJson s.orders)]

/-- A transaction as JSON. -/
def Transaction.toJson (t : Transaction) : Json := .obj [
  ("to", t.target.toJson),
  ("value", t.value.toJson),
  ("data", t.data.toJson)]

end SwapRouter
