import SwapRouter.Abi.Basic
import SwapRouter.Venue.Context

/-!
# Pools of a vault

One vault keeps the tokens of all pools, and whoever holds the input of a swap must have
approved it.  The data are encoded as arguments of a call: the two tokens, the id of the
pool, the receiver, whether the output is exact, and whether an approval is needed.
-/

namespace SwapRouter.BalancerV2

/-- The types of the data. -/
def dataTypes : List AbiType := [.address, .address, .bytes, .address, .bool, .bool]

/-- The 32 bytes of a pool's id. -/
def poolId (id : String) : Except EncodingError Bytes :=
  match Text.chars id with
  | '0' :: x :: _ =>
    if (x = 'x' || x = 'X') && (Text.letters id).length = 66 then
      match Bytes.ofHex? id with
      | some bs => .ok bs
      | none => .error (.poolIdDigits id)
    else .error (.poolIdShape id)
  | _ => .error (.poolIdShape id)

/-- Encodes a swap. -/
def encode (e : SwapEncoder) (s : Swap) (context : SwapContext) : Encode Bytes := do
  let tokenIn ← .ofExcept (s.tokenIn.fieldBytes "token_in")
  let tokenOut ← .ofExcept (s.tokenOut.fieldBytes "token_out")
  let receiver ← .ofExcept (context.receiver.fieldBytes "receiver")
  let pool ← .require (poolId s.pool.id)
  let approval ← e.isApprovalNeeded s context "vault_address"
  .ofExcept (Abi.encodeAll dataTypes [.bytes tokenIn, .bytes tokenOut, .bytes pool,
    .bytes receiver, .flag context.exactOut, .flag approval])

end SwapRouter.BalancerV2
