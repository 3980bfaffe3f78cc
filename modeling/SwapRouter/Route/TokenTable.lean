import SwapRouter.Route.Group
import SwapRouter.Route.Path

/-!
# The table of tokens

Where an order forks, its hops name tokens by their place in a table: the first token of
the path, then all tokens between in the order of their texts, then the last one.
-/

namespace SwapRouter.Route

/-- Puts a token into a table sorted by text, unless it is there. -/
def insertToken (token : Address) : List Address → List Address
  | [] => [token]
  | t :: ts =>
    if token = t then t :: ts
    else if token.text < t.text then token :: t :: ts
    else t :: insertToken token ts

/-- The tokens of the groups other than two given ones, sorted. -/
def tokensBetween (first last : Address) (groups : List SwapGroup) : List Address :=
  let tokens := groups.flatMap fun g => [g.tokenIn, g.tokenOut]
  (tokens.filter fun t => t ≠ first && t ≠ last).foldr insertToken []

/-- The table of tokens of an order. -/
def tokenTable (chain : Chain) (order : Order) (groups : List SwapGroup) : List Address :=
  let first := startOf chain order.nativeAction order.givenToken
  let last := finishOf chain order.nativeAction order.checkedToken
  first :: tokensBetween first last groups ++ [last]

/-- The place of a token in a table. -/
def tokenPosition (table : List Address) (token : Address) : Except EncodingError Nat :=
  match table.findIdx? (· = token) with
  | some position => .ok position
  | none => .error (.unlistedToken token.text)

/-- The number of tokens that a call names; an order that returns to its first token
counts it once. -/
def tokenCount (order : Order) (table : List Address) : Nat :=
  if order.givenToken = order.checkedToken then table.length - 1 else table.length

end SwapRouter.Route
