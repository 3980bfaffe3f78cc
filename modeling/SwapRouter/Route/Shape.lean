import SwapRouter.Route.Group

/-!
# The shape of an order

Which function of the router an order calls depends on its shape: with a fork it is
split, with one group it is single, and else it is sequential.
-/

namespace SwapRouter

/-- The shape of an order. -/
inductive Shape where
  | singleExactIn
  | singleExactOut
  | sequentialExactIn
  | sequentialExactOut
  | splitIn
  deriving DecidableEq, Repr

/-- The name of a shape. -/
def Shape.name : Shape → String
  | .singleExactIn => "single_exact_in"
  | .singleExactOut => "single_exact_out"
  | .sequentialExactIn => "sequential_exact_in"
  | .sequentialExactOut => "sequential_exact_out"
  | .splitIn => "split_in"

/-- The shape of an order; an order without swaps has none. -/
def Order.shape (capabilities : Capabilities) (order : Order) : Except EncodingError Shape :=
  if order.swaps.isEmpty then .error .emptyOrder
  else if !order.exactOut && Route.hasFork order.swaps then .ok .splitIn
  else
    let isSingle := (Route.group capabilities order.swaps).length = 1
    if order.exactOut then .ok (if isSingle then .singleExactOut else .sequentialExactOut)
    else .ok (if isSingle then .singleExactIn else .sequentialExactIn)

end SwapRouter
