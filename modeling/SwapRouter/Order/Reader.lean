import SwapRouter.Order.Basic
import SwapRouter.Reading

/-!
# Reading orders

The readers of the records of an order.  Faults come in the order in which the fields
are declared; a field that is not known is ignored.
-/

namespace SwapRouter

open Reading

/-- Reads a pool. -/
def Pool.read : Json → Reading Pool := record fun fields =>
  Pool.mk <$> required "id" text fields
    <*> required "protocol_system" text fields
    <*> withDefault "tokens" [] (list address) fields
    <*> withDefault "static_attributes" [] (table bytes) fields

/-- Reads a swap. -/
def Swap.read : Json → Reading Swap := record fun fields =>
  Swap.mk <$> required "component" Pool.read fields
    <*> required "token_in" address fields
    <*> required "token_out" address fields
    <*> withDefault "split" (.zero false) number fields
    <*> withDefault "user_data" none (nullable bytes) fields
    <*> withDefault "estimated_amount_in" none (nullable amount) fields

/-- Reads a conversion. -/
def NativeAction.read : Json → Reading NativeAction
  | .str "wrap" => ok .wrap
  | .str "unwrap" => ok .unwrap
  | .str s => refuse (if Text.hasHalf s then .notUnicode else .unknownChoice)
  | _ => refuse .unknownChoice

/-- Reads an order. -/
def Order.read : Json → Reading Order := record fun fields =>
  Order.mk <$> withDefault "exact_out" false flag fields
    <*> required "given_token" address fields
    <*> required "given_amount" amount fields
    <*> required "checked_token" address fields
    <*> required "check_amount" amount fields
    <*> required "sender" address fields
    <*> required "receiver" address fields
    <*> withDefault "swaps" [] (list Swap.read) fields
    <*> withDefault "add_router_calldata" true flag fields
    <*> withDefault "router_address" none (nullable address) fields
    <*> withDefault "slippage" none (nullable number) fields
    <*> withDefault "native_action" none (nullable NativeAction.read) fields

/-- Reads a solution. -/
def Solution.read : Json → Reading Solution := record fun fields =>
  Solution.mk <$> withDefault "orders" [] (list Order.read) fields

/-- Reads a transaction. -/
def Transaction.read : Json → Reading Transaction := record fun fields =>
  Transaction.mk <$> required "to" address fields
    <*> withDefault "value" .zero amount fields
    <*> required "data" bytes fields

end SwapRouter
