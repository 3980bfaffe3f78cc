import SwapRouter.Config.Basic
import SwapRouter.Settings
import SwapRouter.Venue.BalancerV2
import SwapRouter.Venue.Rfq
import SwapRouter.Venue.Slipstreams
import SwapRouter.Venue.UniswapV2
import SwapRouter.Venue.UniswapV3
import SwapRouter.Venue.UniswapV4

/-!
# The encoders of a chain

Every protocol with an executor and a known family has an encoder.  Protocols that are
priced by quotes get the source given for them, or else the service in their settings.
-/

namespace SwapRouter

/-- Encodes a swap. -/
def SwapEncoder.encode (e : SwapEncoder) (s : Swap) (context : SwapContext) : Encode Bytes :=
  match e.venue with
  | .uniswapV2 => .ofExcept (UniswapV2.encode s context)
  | .uniswapV3 => .ofExcept (UniswapV3.encode s context)
  | .slipstreams => .ofExcept (Slipstreams.encode s context)
  | .uniswapV4 => .ofExcept (UniswapV4.encode s context)
  | .balancerV2 => BalancerV2.encode e s context
  | .rfq => Rfq.encode e s context

/-- The encoders by protocol. -/
structure EncoderRegistry where
  entries : List (String × SwapEncoder) := []

namespace EncoderRegistry

/-- Where a run gets its quotes: the sources given for protocols, and what the services
need. -/
structure QuoteSetup where
  sources : List (String × QuoteSource) := []
  environment : Environment := []
  timeout : Binary64 := .ofInt 10
  reply : QuotePost → QuoteReply := fun _ => .offline

/-- The quote source of a protocol. -/
def quoteSource? (setup : QuoteSetup) (config : Config) (protocol : String) :
    Option QuoteSource :=
  match setup.sources.lookup protocol with
  | some source => some source
  | none =>
    if Venue.isQuoted protocol then
      match (config.settingsOf protocol).lookup "quote_url" with
      | none | some .null => none
      | some url => some (.service
          ⟨url, quoteServiceKey? setup.environment protocol, setup.timeout, setup.reply⟩)
    else none

/-- Adds the encoder of a protocol, or puts it in the place of the one before. -/
def register (r : EncoderRegistry) (protocol : String) (e : SwapEncoder) : EncoderRegistry :=
  ⟨Json.put r.entries protocol e⟩

/-- The encoders of a setup; protocols of no known family have none. -/
def ofConfig (config : Config) (approvals : Option ApprovalSource) (setup : QuoteSetup) :
    Except EncodingError EncoderRegistry :=
  config.executors.foldlM (fun r (protocol, executor) =>
    match Venue.ofProtocol? protocol with
    | none => .ok r
    | some venue => do
      let e ← SwapEncoder.create venue executor config.chain (config.settingsOf protocol)
        approvals (quoteSource? setup config protocol)
      return r.register protocol e) {}

/-- Whether a protocol has an encoder. -/
def contains (r : EncoderRegistry) (protocol : String) : Bool :=
  (r.entries.lookup protocol).isSome

/-- The encoder of a protocol. -/
def get (r : EncoderRegistry) (protocol : String) : Except EncodingError SwapEncoder :=
  match r.entries.lookup protocol with
  | some e => .ok e
  | none => .error (.unknownProtocol protocol)

/-- The protocols with an encoder, sorted. -/
def protocols (r : EncoderRegistry) : List String := Text.sorted (r.entries.map (·.1))

end EncoderRegistry

end SwapRouter
