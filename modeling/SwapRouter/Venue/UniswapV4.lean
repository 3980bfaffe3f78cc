import SwapRouter.Venue.Context

/-!
# Pools of a single manager

The balances of these pools are settled at the end of a call, so their swaps are merged
into groups.  The first swap of a group carries the ends of the group, the direction, the
transfer type and the receiver; every swap carries the parameters of its pool: the output
token, the fee, the tick spacing, the hooks, and data for the hooks behind their length.
-/

namespace SwapRouter.UniswapV4

/-- The greatest length of data for a hook. -/
def maxHookData : Nat := 65535

/-- The hooks of a pool; a pool without hooks has the zero address. -/
def hooks (s : Swap) : Except Failure Bytes :=
  match Wire.fit ((s.pool.attributes.lookup "hooks").getD (Bytes.zeros 20)) 20 with
  | .ok bs => .ok bs
  | .error e => .error (.encoding e)

/-- Encodes the parameters of a pool. -/
def poolParameters (s : Swap) : Except Failure Bytes := do
  let fee ← s.poolNumber "key_lp_fee" 3
  let spacing ← s.poolNumber "tick_spacing" 3
  let hooks ← hooks s
  let hookData := s.userData.getD []
  if maxHookData < hookData.length then
    throw (.encoding (.hookDataTooLong s.pool.id hookData.length))
  let tokenOut ← s.tokenOut.fieldBytes "token_out"
  return tokenOut ++ fee ++ spacing ++ hooks ++ Bytes.ofNat 2 hookData.length ++ hookData

/-- Encodes what stands in front of the first swap of a group. -/
def groupHeader (s : Swap) (context : SwapContext) : Except Failure Bytes := do
  let tokenIn ← s.tokenIn.fieldBytes "token_in"
  let tokenOut ← s.tokenOut.fieldBytes "token_out"
  let groupIn ← context.groupTokenIn.fieldBytes "group_token_in"
  let groupOut ← context.groupTokenOut.fieldBytes "group_token_out"
  let receiver ← context.receiver.fieldBytes "receiver"
  return groupIn ++ groupOut
    ++ [Wire.flagByte (tokenIn.isBefore tokenOut), context.transferType.byte] ++ receiver

/-- Encodes a swap. -/
def encode (s : Swap) (context : SwapContext) : Except Failure Bytes := do
  let parameters ← poolParameters s
  if s.tokenIn ≠ context.groupTokenIn then return parameters
  let header ← groupHeader s context
  return header ++ parameters

end SwapRouter.UniswapV4
