import SwapRouter.Order.Basic

/-!
# What leaves each token

The swaps of an order form a graph whose edges lead from the token a swap takes to the
token it gives.  A token that more than one swap takes is a *fork*, and the last swap
that takes a token is its *remainder*: it gets whatever the swaps before it leave.
-/

namespace SwapRouter.Route

/-- The tokens that the swaps take, each once, in the order of their first swap. -/
def sources (swaps : List Swap) : List Address := (swaps.map Swap.tokenIn).eraseDups

/-- The swaps that take a token, in their order. -/
def outgoingOf (swaps : List Swap) (token : Address) : List Swap :=
  swaps.filter (·.tokenIn = token)

/-- Every token that is taken, with the swaps that take it. -/
def outgoing (swaps : List Swap) : List (Address × List Swap) :=
  (sources swaps).map fun token => (token, outgoingOf swaps token)

/-- Whether more than one swap takes a token. -/
def isFork (swaps : List Swap) (token : Address) : Bool :=
  1 < (outgoingOf swaps token).length

/-- Whether no later swap takes the token of a swap. -/
def isLastOut (s : Swap) (later : List Swap) : Bool :=
  later.all (·.tokenIn ≠ s.tokenIn)

/-- The positions of the remainders, counting from a given one. -/
def remaindersFrom : Nat → List Swap → List Nat
  | _, [] => []
  | position, s :: later =>
    let others := remaindersFrom (position + 1) later
    if isLastOut s later then position :: others else others

/-- The positions of the remainders. -/
def remainders (swaps : List Swap) : List Nat := remaindersFrom 0 swaps

/-- Whether a token feeds more than one swap, or a swap carries a fraction. -/
def hasFork (swaps : List Swap) : Bool :=
  swaps.any (fun s => !s.split.isZero) || (sources swaps).any (isFork swaps)

theorem mem_outgoingOf {swaps : List Swap} {token : Address} {s : Swap} :
    s ∈ outgoingOf swaps token ↔ s ∈ swaps ∧ s.tokenIn = token := by
  simp [outgoingOf]

end SwapRouter.Route
