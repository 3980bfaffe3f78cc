import SwapRouter.Chain
import SwapRouter.Route.Outgoing

/-!
# From the first token to the last

The swaps of an order must lead from its first token to its last one: every token that
is taken can be reached from the first one, and nothing but the last token is left over.
Where the native coin is wrapped, the path starts at the wrapped token; where it is
unwrapped, it ends there.

A token may come twice on the way only as both the first and the last one.
-/

namespace SwapRouter.Route

/-- Where the path of an order starts. -/
def startOf (chain : Chain) (action : Option NativeAction) (given : Address) : Address :=
  if action = some .wrap then chain.wrappedToken else given

/-- Where the path of an order ends. -/
def finishOf (chain : Chain) (action : Option NativeAction) (checked : Address) : Address :=
  if action = some .unwrap then chain.wrappedToken else checked

/-- The tokens that the swaps out of a token give, each once. -/
def targets (swaps : List Swap) (token : Address) : List Address :=
  ((outgoingOf swaps token).map Swap.tokenOut).eraseDups

/-- Extends the tokens found by what follows those in the queue, breadth first. -/
def explore (swaps : List Swap) : Nat → List Address → List Address → List Address
  | 0, found, _ => found
  | _, found, [] => found
  | steps + 1, found, token :: queue =>
    let fresh := (targets swaps token).filter fun t => !found.contains t
    explore swaps steps (found ++ fresh) (queue ++ fresh)

/-- The tokens that can be reached from a token, nearest first.  Each swap adds at most
one token, so as many steps as swaps and one more are enough. -/
def reachable (swaps : List Swap) (start : Address) : List Address :=
  explore swaps (swaps.length + 1) [start] [start]

/-- Checks that the swaps lead from one token to another. -/
def checkPathBetween (swaps : List Swap) (start finish : Address) : Except EncodingError Unit :=
  if !(sources swaps).contains start then .error (.noStart start.text)
  else
    let found := reachable swaps start
    match (sources swaps).find? fun t => !found.contains t with
    | some t => .error (.unreachableToken t.text start.text)
    | none =>
      if !found.contains finish then .error (.unreachableEnd finish.text start.text)
      else match found.find? fun t => t ≠ finish && !(sources swaps).contains t with
        | some t => .error (.deadEnd t.text)
        | none => .ok ()

/-- Checks that the swaps lead from the given token to the checked one. -/
def checkPath (chain : Chain) (action : Option NativeAction) (swaps : List Swap)
    (given checked : Address) : Except EncodingError Unit :=
  checkPathBetween swaps (startOf chain action given) (finishOf chain action checked)

/-! ## Repeated tokens -/

/-- The tokens on the way: those that are taken, without those already met with a
fraction. -/
def wayFrom : List Address → List Swap → List Address
  | _, [] => []
  | skipped, s :: rest =>
    if skipped.contains s.tokenIn then wayFrom skipped rest
    else s.tokenIn :: wayFrom (if s.split.isZero then skipped else s.tokenIn :: skipped) rest

/-- Whether no token comes twice. -/
def isFreeOfRepeats : List Address → Bool
  | [] => true
  | t :: ts => !ts.contains t && isFreeOfRepeats ts

/-- Checks that a token comes twice only as both the first and the last one, and that
the native coin is then left alone.  An order without swaps is a defect. -/
def checkCycles (order : Order) : Except Failure Unit :=
  match order.swaps.head?, order.swaps.getLast? with
  | some first, some last =>
    if isFreeOfRepeats (wayFrom [] order.swaps ++ [last.tokenOut]) then .ok ()
    else if first.tokenIn ≠ last.tokenOut then .error (.encoding .innerCycle)
    else if order.nativeAction.isSome then .error (.encoding .nativeActionInCycle)
    else .ok ()
  | _, _ => .error .defect

/-! ## The native coin -/

/-- Checks that wrapping starts from the native coin and unwrapping ends at it. -/
def checkNativeAction (chain : Chain) (order : Order) : Except EncodingError Unit :=
  match order.nativeAction with
  | none => .ok ()
  | some .wrap =>
    if order.givenToken ≠ Address.native then .error .wrapOfOtherInput
    else match order.swaps.head? with
      | some first =>
        if first.tokenIn ≠ chain.wrappedToken then .error .wrapBeforeOtherSwap else .ok ()
      | none => .ok ()
  | some .unwrap =>
    if order.checkedToken ≠ Address.native then .error .unwrapToOtherOutput
    else match order.swaps.getLast? with
      | some last =>
        if last.tokenOut ≠ chain.wrappedToken then .error .unwrapAfterOtherSwap else .ok ()
      | none => .ok ()

/-- The checks that every order has to pass. -/
def checkOrder (chain : Chain) (order : Order) : Except Failure Unit := do
  if order.swaps.isEmpty then throw (.encoding .emptyOrder)
  match checkNativeAction chain order with
  | .ok () => checkCycles order
  | .error e => throw (.encoding e)

end SwapRouter.Route
