import SwapRouter.Venue.Context

/-!
# Pools with a fee tier

The data of a swap are its two tokens, the fee in three bytes, the receiver, the pool,
the direction and the transfer type.
-/

namespace SwapRouter.UniswapV3

/-- Encodes a swap. -/
def encode (s : Swap) (context : SwapContext) : Except Failure Bytes := do
  let tokenIn ← s.tokenIn.fieldBytes "token_in"
  let tokenOut ← s.tokenOut.fieldBytes "token_out"
  let fee ← s.poolNumber "fee" 3
  let receiver ← context.receiver.fieldBytes "receiver"
  let pool ← s.poolBytes
  return tokenIn ++ tokenOut ++ fee ++ receiver ++ pool
    ++ [Wire.flagByte (tokenIn.isBefore tokenOut), context.transferType.byte]

end SwapRouter.UniswapV3
