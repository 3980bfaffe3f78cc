import SwapRouter.Approval
import SwapRouter.Quote
import SwapRouter.Route.Transfer
import SwapRouter.Wire

/-!
# What the encoder of a protocol is given

Besides the swap an encoder sees the hop of its group, and it belongs to an executor with
settings of its own.
-/

namespace SwapRouter

/-- What is known about the group of a swap. -/
structure SwapContext where
  receiver : Address
  exactOut : Bool
  /-- The router that executes the swap; nothing for a direct call of the executor. -/
  router : Option Address
  transferType : TransferType
  /-- Who holds the input when the swap is executed. -/
  holder : Address
  groupTokenIn : Address
  groupTokenOut : Address
  /-- Where approvals are looked up during one call. -/
  approvals : Option ApprovalSource := none

/-- The families of protocols whose swaps are encoded alike. -/
inductive Venue where
  | uniswapV2
  | uniswapV3
  | slipstreams
  | uniswapV4
  | balancerV2
  | rfq
  deriving DecidableEq, Repr

namespace Venue

/-- The name of a family's encoder. -/
def encoderName : Venue → String
  | .uniswapV2 => "UniswapV2SwapEncoder"
  | .uniswapV3 => "UniswapV3SwapEncoder"
  | .slipstreams => "SlipstreamsSwapEncoder"
  | .uniswapV4 => "UniswapV4SwapEncoder"
  | .balancerV2 => "BalancerV2SwapEncoder"
  | .rfq => "RfqSwapEncoder"

/-- The protocols of the families, without those that are priced by quotes. -/
def protocols : List (String × Venue) := [
  ("uniswap_v2", .uniswapV2), ("sushiswap_v2", .uniswapV2), ("pancakeswap_v2", .uniswapV2),
  ("uniswap_v3", .uniswapV3), ("pancakeswap_v3", .uniswapV3),
  ("aerodrome_slipstreams", .slipstreams), ("velodrome_slipstreams", .slipstreams),
  ("uniswap_v4", .uniswapV4), ("uniswap_v4_hooks", .uniswapV4),
  ("vm:balancer_v2", .balancerV2)]

/-- Whether a protocol is priced by quotes. -/
def isQuoted (protocol : String) : Bool := "rfq:".toList.isPrefixOf protocol.toList

/-- The family of a protocol. -/
def ofProtocol? (protocol : String) : Option Venue :=
  match protocols.lookup protocol with
  | some venue => some venue
  | none => if isQuoted protocol then some .rfq else none

/-- The setting that a family cannot do without: the contract that spends its tokens. -/
def spenderSetting? : Venue → Option String
  | .balancerV2 => some "vault_address"
  | .rfq => some "settlement_address"
  | _ => none

end Venue

/-- The encoder of a protocol. -/
structure SwapEncoder where
  venue : Venue
  executor : Address
  chain : Chain
  settings : List (String × Json) := []
  /-- Where approvals are looked up if the context has no place for it. -/
  approvals : Option ApprovalSource := none
  quotes : Option QuoteSource := none

namespace SwapEncoder

/-- Sets an encoder up: the executor must be well formed, and no setting that the family
needs may be missing. -/
def create (venue : Venue) (executor : Address) (chain : Chain)
    (settings : List (String × Json)) (approvals : Option ApprovalSource)
    (quotes : Option QuoteSource) : Except EncodingError SwapEncoder :=
  if !executor.isWellFormed then .error (.invalidExecutor executor.text)
  else match venue.spenderSetting?.filter fun key => (settings.lookup key).isNone with
    | some key => .error (.missingSetting key venue.encoderName)
    | none => .ok ⟨venue, executor.normal, chain, settings, approvals, quotes⟩

/-- The contract that spends the tokens of a family, from the settings. -/
def spender (e : SwapEncoder) (key : String) : Except Failure Address := do
  let value := (e.settings.lookup key).getD .null
  match value with
  | .str text =>
    if !(Address.mk text).isWellFormed then throw (.encoding (.invalidSetting key text))
    let bs ← (Address.mk text).wellFormedBytes
    return .ofBytes bs
  | value => throw (.encoding (.invalidSetting key value.show))

/-- Whether the spender of a family needs an approval for the input of a swap; where
approvals are not looked up, it always does.  The source of the context shares its
look-ups, the encoder's own does not. -/
def isApprovalNeeded (e : SwapEncoder) (s : Swap) (context : SwapContext) (key : String) :
    Encode Bool :=
  match context.approvals, e.approvals with
  | some source, _ => do
    let spender ← .ofExcept (e.spender key)
    source.isNeeded s.tokenIn context.holder spender
  | none, some source => do
    let spender ← .ofExcept (e.spender key)
    source.lookUp s.tokenIn context.holder spender
  | none, none => return true

end SwapEncoder

namespace Swap

/-- A named byte string of the pool. -/
def poolAttribute (s : Swap) (name : String) : Except EncodingError Bytes :=
  match s.pool.attributes.lookup name with
  | some bs => .ok bs
  | none => .error (.missingAttribute name s.pool.id)

/-- A number of the pool in a field of fixed width. -/
def poolNumber (s : Swap) (name : String) (size : Nat) : Except Failure Bytes :=
  match s.poolAttribute name >>= fun bs => Wire.fit bs size with
  | .ok bs => .ok bs
  | .error e => .error (.encoding e)

/-- The bytes of the pool's address. -/
def poolBytes (s : Swap) : Except Failure Bytes :=
  (Address.mk s.pool.id).fieldBytes ("pool id for " ++ s.protocol)

end Swap

end SwapRouter
