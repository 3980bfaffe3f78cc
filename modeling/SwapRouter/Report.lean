import SwapRouter.Order.Printer
import SwapRouter.Router

/-!
# Reports

What the steps of an encoding produce, as JSON records: groups and hops, permits and
quotes, encoded orders, and the setup of a chain.  Sets are listed in the order of their
texts, each member once.
-/

namespace SwapRouter

/-- A list of texts as JSON. -/
def Json.ofTexts (texts : List String) : Json := .ofList .str texts

/-- A set of texts as JSON. -/
def Json.ofTextSet (texts : List String) : Json := .ofTexts (Text.sorted texts.eraseDups)

/-- A chain as JSON. -/
def Chain.toJson (c : Chain) : Json := .obj [
  ("name", .str c.name),
  ("id", .int c.id),
  ("native", Address.native.toJson),
  ("wrapped", c.wrappedToken.toJson)]

/-- A set of protocols as JSON. -/
def ProtocolSet.toJson (set : ProtocolSet) : Json :=
  .arr ((set.patterns.eraseDups.map Json.str ++ set.foreign).mergeSort fun a b =>
    Text.isInFront a.show b.show)

/-- A classification as JSON. -/
def Capabilities.toJson (c : Capabilities) : Json := .obj [
  ("groupable", c.groupable.toJson),
  ("in_transfer_optimizable", c.paidDirectly.toJson),
  ("unsupported_for_chained_swaps", c.unsupportedForChaining.toJson),
  ("funds_in_router", c.fundsInRouter.toJson)]

/-- The setup of a chain as JSON. -/
def Config.toJson (c : Config) : Json := .obj [
  ("chain", .str c.chain.name),
  ("executors", .ofTable Address.toJson c.executors),
  ("router_address", .ofOption Address.toJson c.router),
  ("protocol_specific", .ofTable .obj c.settings),
  ("capabilities", c.capabilities.toJson)]

/-- The settings of a run as JSON. -/
def Settings.toJson (s : Settings) : Json := .obj [
  ("rpc_url", .ofOption .str s.rpcUrl),
  ("request_timeout", .float s.requestTimeout),
  ("host", .str s.host),
  ("port", .int s.port),
  ("debug", .bool s.debug),
  ("supported_chains", .ofTextSet s.supportedChains)]

/-- A group as JSON, with the ids of its pools. -/
def SwapGroup.toJson (g : SwapGroup) : Json := .obj [
  ("protocol", .str g.protocol),
  ("token_in", g.tokenIn.toJson),
  ("token_out", g.tokenOut.toJson),
  ("split", .float g.split),
  ("pools", .ofTexts (g.swaps.map fun s => s.pool.id))]

/-- The name of a transfer type. -/
def TransferType.name : TransferType → String
  | .transferFrom => "TRANSFER_FROM"
  | .transfer => "TRANSFER"
  | .none => "NONE"

/-- A hop as JSON. -/
def Hop.toJson (h : Hop) : Json := .obj [
  ("transfer_type", .str h.transferType.name),
  ("receiver", h.receiver.toJson),
  ("address_for_approvals", h.holder.toJson),
  ("pays_next_pool", .bool h.paysNextPool)]

/-- A permit as JSON. -/
def Permit.toJson (p : Permit) : Json := .obj [
  ("details", .obj [
    ("token", p.details.token.toJson),
    ("amount", .int p.details.amount),
    ("expiration", .int p.details.expiration),
    ("nonce", .int p.details.nonce)]),
  ("spender", p.spender.toJson),
  ("sig_deadline", .int p.deadline)]

mutual

/-- An argument of a call as JSON. -/
def AbiValue.toJson : AbiValue → Json
  | .number n => .int n
  | .flag b => .bool b
  | .bytes bs => bs.toJson
  | .text s => .str s
  | .tuple parts => .arr (AbiValue.toJsonEach parts)

/-- Arguments of a call as JSON. -/
def AbiValue.toJsonEach : List AbiValue → List Json
  | [] => []
  | v :: vs => v.toJson :: AbiValue.toJsonEach vs

end

/-- An encoded order as JSON. -/
def EncodedOrder.toJson (e : EncodedOrder) : Json := .obj [
  ("swaps", e.swaps.toJson),
  ("interacting_with", e.router.toJson),
  ("function_signature", .str e.signature),
  ("n_tokens", .int e.tokenCount),
  ("permit", .ofOption Permit.toJson e.permit),
  ("signature", .ofOption Bytes.toJson e.permitSignature)]

/-- A signed quote as JSON. -/
def SignedQuote.toJson (q : SignedQuote) : Json := .obj [
  ("amount_out", .int q.amountOut),
  ("quote_attributes", .ofTable Bytes.toJson q.attributes)]

/-- A request for a quote as JSON. -/
def QuoteRequest.toJson (r : QuoteRequest) : Json := .obj [
  ("token_in", r.tokenIn.toJson),
  ("token_out", r.tokenOut.toJson),
  ("amount_in", .int r.amountIn),
  ("sender", r.sender.toJson),
  ("receiver", r.receiver.toJson)]

/-- The texts of a request, by which requests are sorted. -/
def QuoteRequest.texts (r : QuoteRequest) : List String :=
  [r.tokenIn.text, r.tokenOut.text, toString r.amountIn, r.sender.text, r.receiver.text]

/-- The texts of an approval's key. -/
def ApprovalKey.texts (k : ApprovalKey) : List String :=
  [k.token.text, k.owner.text, k.spender.text]

/-- Where the quotes of an encoder come from: the kind of the source, or the address, key
and timeout of its service. -/
def QuoteSource.toJson : QuoteSource → Json
  | .prepared .. => .str "MockQuoteProvider"
  | .service s => .arr [s.url, .ofOption .str s.key, .float s.timeout]

/-- An encoder as JSON. -/
def SwapEncoder.toJson (e : SwapEncoder) : Json := .obj [
  ("class", .str e.venue.encoderName),
  ("executor", e.executor.toJson),
  ("config", .obj e.settings),
  ("quotes", .ofOption QuoteSource.toJson e.quotes)]

namespace Session

/-- The requests for quotes of a prepared source, in the order in which they were made. -/
def quoteRequests (s : Session) (name : String) : List QuoteRequest :=
  s.asked.filterMap fun
    | .quote source r => if source = some name then some r else none
    | _ => none

/-- What was asked about approvals: the keys of look-ups, and the calls that read them. -/
def approvalQuestions (s : Session) : List (List String) :=
  s.asked.filterMap fun
    | .approval key => some key.texts
    | .read .approval contract data => some [contract.text, data.toHex]
    | _ => none

/-- The calls that read the state of permits. -/
def permitReads (s : Session) : List (List String) :=
  s.asked.filterMap fun
    | .read .permit contract data => some [contract.text, data.toHex]
    | _ => none

end Session

/-- Whether a list of texts comes before another one or is the same. -/
def textsBefore : List String → List String → Bool
  | [], _ => true
  | _ :: _, [] => false
  | a :: as, b :: bs => Text.codes a < Text.codes b || (a = b && textsBefore as bs)

end SwapRouter
