import SwapRouter.Venue.Context

/-!
# Protocols with signed quotes

A market maker prices the swap off the chain.  The data are the two tokens, the transfer
type, whether an approval is needed, the receiver, the quoted amount in 32 bytes, and
the signed data of the quote.
-/

namespace SwapRouter.Rfq

/-- The name under which a quote holds its signed data. -/
def payloadName : String := "calldata"

/-- The request for the quote of a swap. -/
def request (s : Swap) (context : SwapContext) (router : Address) (amount : Uint256) :
    QuoteRequest :=
  ⟨s.tokenIn, s.tokenOut, amount.toNat, router, context.receiver⟩

/-- Whether an approval is needed; the native coin needs none. -/
def isApprovalNeeded (e : SwapEncoder) (s : Swap) (context : SwapContext) : Encode Bool :=
  if s.tokenIn = Address.native then return false
  else e.isApprovalNeeded s context "settlement_address"

/-- Encodes a swap with the quotes of a source. -/
def encodeWith (e : SwapEncoder) (source : QuoteSource) (router : Address) (amount : Uint256)
    (s : Swap) (context : SwapContext) : Encode Bytes := do
  let tokenIn ← .ofExcept (s.tokenIn.fieldBytes "token_in")
  let tokenOut ← .ofExcept (s.tokenOut.fieldBytes "token_out")
  let receiver ← .ofExcept (context.receiver.fieldBytes "receiver")
  let quote ← source.request (request s context router amount)
  match quote.attributes.lookup payloadName with
  | none => .fail (.encoding (.quoteWithoutPayload s.protocol payloadName))
  | some payload =>
    let approval ← isApprovalNeeded e s context
    let amountOut ← .ofExcept (Wire.fixed 32 quote.amountOut)
    return tokenIn ++ tokenOut ++ [context.transferType.byte, Wire.flagByte approval]
      ++ receiver ++ amountOut ++ payload

/-- Encodes a swap. -/
def encode (e : SwapEncoder) (s : Swap) (context : SwapContext) : Encode Bytes :=
  if context.exactOut then .fail (.encoding .exactOutQuote)
  else match e.quotes, context.router, s.estimatedAmountIn with
    | none, _, _ => .fail (.encoding (.noQuoteSource s.protocol))
    | _, none, _ => .fail (.encoding (.quoteWithoutRouter s.protocol))
    | _, _, none => .fail (.encoding (.noEstimatedAmount s.protocol s.pool.id))
    | some source, some router, some amount => encodeWith e source router amount s context

end SwapRouter.Rfq
