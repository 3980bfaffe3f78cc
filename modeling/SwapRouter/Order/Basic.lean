import SwapRouter.Address
import SwapRouter.Uint256

/-!
# Orders

A solution is a batch of orders.  An order sells an amount of one token for another one
and lists the swaps that fill it; a swap goes through one pool.  What a pool needs
beyond its id and tokens is kept as named byte strings.
-/

namespace SwapRouter

/-- A pool, described by the indexer. -/
structure Pool where
  id : String
  protocol : String
  tokens : List Address := []
  attributes : List (String × Bytes) := []
  deriving DecidableEq, Inhabited

/-- A swap through one pool. -/
structure Swap where
  pool : Pool
  tokenIn : Address
  tokenOut : Address
  /-- The fraction of the incoming amount that goes through this swap; zero for the rest. -/
  split : Binary64 := .zero false
  /-- Data handed on to the hook of a pool. -/
  userData : Option Bytes := none
  /-- How much is expected to flow through this swap. -/
  estimatedAmountIn : Option Uint256 := none
  deriving DecidableEq, Inhabited

/-- The protocol of the pool. -/
def Swap.protocol (s : Swap) : String := s.pool.protocol

/-- A conversion between the native coin and its wrapped token at an end of an order. -/
inductive NativeAction where
  | wrap
  | unwrap
  deriving DecidableEq, Repr

/-- The name of a conversion. -/
def NativeAction.name : NativeAction → String
  | .wrap => "wrap"
  | .unwrap => "unwrap"

/-- What to sell, what to receive, and through which swaps. -/
structure Order where
  exactOut : Bool := false
  givenToken : Address
  givenAmount : Uint256
  checkedToken : Address
  /-- The least amount of the checked token, before slippage. -/
  checkAmount : Uint256
  sender : Address
  receiver : Address
  swaps : List Swap := []
  /-- Whether a whole call of the router is wanted, or the encoded swaps alone. -/
  withCall : Bool := true
  router : Option Address := none
  slippage : Option Binary64 := none
  nativeAction : Option NativeAction := none
  deriving DecidableEq, Inhabited

/-- A batch of orders. -/
structure Solution where
  orders : List Order := []
  deriving DecidableEq, Inhabited

/-- A transaction that calls a router. -/
structure Transaction where
  target : Address
  value : Uint256 := .zero
  data : Bytes
  deriving DecidableEq, Inhabited

end SwapRouter
