import SwapRouter.Venue.Context

/-!
# Pools with a tick spacing

The data of a swap are its two tokens, the tick spacing in three bytes, the transfer
type, the receiver, the pool and the direction.
-/

namespace SwapRouter.Slipstreams

/-- Encodes a swap. -/
def encode (s : Swap) (context : SwapContext) : Except Failure Bytes := do
  let tokenIn ← s.tokenIn.fieldBytes "token_in"
  let tokenOut ← s.tokenOut.fieldBytes "token_out"
  let pool ← s.poolBytes
  let spacing ← s.poolNumber "tick_spacing" 3
  let receiver ← context.receiver.fieldBytes "receiver"
  return tokenIn ++ tokenOut ++ spacing ++ [context.transferType.byte] ++ receiver ++ pool
    ++ [Wire.flagByte (tokenIn.isBefore tokenOut)]

end SwapRouter.Slipstreams
