import SwapRouter.Venue.Context

/-!
# Pools with a constant product

The data of a swap are the input token, the pool, the receiver, the direction and the
transfer type.
-/

namespace SwapRouter.UniswapV2

/-- Encodes a swap. -/
def encode (s : Swap) (context : SwapContext) : Except Failure Bytes := do
  let tokenIn ← s.tokenIn.fieldBytes "token_in"
  let tokenOut ← s.tokenOut.fieldBytes "token_out"
  let pool ← s.poolBytes
  let receiver ← context.receiver.fieldBytes "receiver"
  return tokenIn ++ pool ++ receiver
    ++ [Wire.flagByte (tokenIn.isBefore tokenOut), context.transferType.byte]

end SwapRouter.UniswapV2
