import SwapRouter.Fault

/-!
# Why an encoding fails

`EncodingError` lists every reason for which an encoding is refused, each with the
values that its wording needs.  A reason has a kind: the caller's data are wrong, the
setup is wrong, a service is out of reach for the moment, or the wish is not supported.
Only the third kind is worth trying again.

`Failure` adds what lies beyond these reasons: a value refused while it was read, and a
defect, where a step met a value that it is not made for.
-/

namespace SwapRouter

/-- The kinds of reason. -/
inductive ErrorKind where
  | invalidInput
  | fatal
  | recoverable
  | notImplemented
  | encoding
  deriving DecidableEq, Repr

/-- The name of a kind. -/
def ErrorKind.name : ErrorKind → String
  | .invalidInput => "invalid_input"
  | .fatal => "fatal"
  | .recoverable => "recoverable"
  | .notImplemented => "not_implemented"
  | .encoding => "encoding"

/-- Why an encoding is refused. -/
inductive EncodingError where
  -- The data of the order.
  | malformedInput
  | malformedSolution (faults : List Fault)
  | unsupportedChain (name : String)
  | invalidAddress (field text : String)
  | emptyOrder
  | unknownProtocol (protocol : String)
  | slippageOutOfRange (shown : String)
  | splitOutOfRange (split : Binary64) (token pool : String)
  | splitOfOnlySwap (split : Binary64) (token : String)
  | earlyRemainder (split : Binary64) (token pool : String)
  | emptyRemainder (total : Binary64) (token : String)
  | incompleteSplits (total : Binary64) (token : String)
  | noStart (start : String)
  | unreachableToken (token start : String)
  | unreachableEnd (finish start : String)
  | deadEnd (token : String)
  | innerCycle
  | severalGroups (count : Nat)
  | splitOfSingleSwap
  | foreignSender (sender signer : String)
  | permitTooLarge (amount : Int)
  | noEstimatedAmount (protocol pool : String)
  | poolIdShape (id : String)
  | poolIdDigits (id : String)
  | unlistedToken (token : String)
  -- The setup.
  | exactOutOrder
  | noRouter (chain : String)
  | wrapOfOtherInput
  | wrapBeforeOtherSwap
  | unwrapToOtherOutput
  | unwrapAfterOtherSwap
  | nativeActionInCycle
  | unsupportedShape (shape : String)
  | configOfOtherChain (configured chain : String)
  | conflictingCapabilities (protocols : List String)
  | unreadableTable (name reason : String)
  | malformedTable (name : String)
  | noExecutors (chain : String)
  | invalidTableAddress (role shown : String)
  | invalidExecutor (text : String)
  | missingSetting (key encoder : String)
  | invalidSetting (key value : String)
  | missingAttribute (name pool : String)
  | valueTooWide (value : Bytes) (size : Int)
  | chunkTooLong (length : Nat)
  | hookDataTooLong (pool : String) (length : Nat)
  | noQuoteSource (protocol : String)
  | quoteWithoutRouter (protocol : String)
  | quoteWithoutPayload (protocol field : String)
  | quoteRejected (status : Int)
  | malformedQuote (url : String)
  | unscriptedQuote (tokenIn tokenOut : String) (amount : Int)
  | callReverted (contract reason : String)
  | unscriptedCall (contract : String) (selector : Bytes)
  | invalidApprovalAddress (role text : String)
  | undecodableAllowance (token : String) (response : Bytes)
  | invalidSignerKey
  | noNonceSource
  | undecodablePermitAllowance (response : Bytes)
  -- Services out of reach.
  | callFailed (contract reason : String)
  | quoteServiceFailed (status : Int)
  | quoteRequestFailed (reason : String)
  -- Wishes that are not supported.
  | shapeWithoutStrategy (shape : String)
  | exactOutQuote
  /-- A reason that another party reported. -/
  | reported (kind : ErrorKind) (message : String)
  deriving DecidableEq

namespace EncodingError

/-- The kind of a reason. -/
def kind : EncodingError → ErrorKind
  | malformedInput | malformedSolution _ | unsupportedChain _ | invalidAddress .. | emptyOrder
  | unknownProtocol _ | slippageOutOfRange _ | splitOutOfRange .. | splitOfOnlySwap ..
  | earlyRemainder .. | emptyRemainder .. | incompleteSplits .. | noStart _ | unreachableToken ..
  | unreachableEnd .. | deadEnd _ | innerCycle | severalGroups _ | splitOfSingleSwap
  | foreignSender .. | permitTooLarge _ | noEstimatedAmount .. | poolIdShape _ | poolIdDigits _
  | unlistedToken _ => .invalidInput
  | callFailed .. | quoteServiceFailed _ | quoteRequestFailed _ => .recoverable
  | shapeWithoutStrategy _ | exactOutQuote => .notImplemented
  | reported kind _ => kind
  | _ => .fatal

/-- The wording of a reason. -/
def message : EncodingError → String
  | malformedInput => "Input is not valid JSON"
  | malformedSolution _ => "Invalid solution"
  | unsupportedChain name => s!"Unsupported chain: {name}"
  | invalidAddress field text => s!"Invalid {field}: {text}"
  | emptyOrder => "Order has no swaps"
  | unknownProtocol protocol => s!"Swap encoder not found for protocol: {protocol}"
  | slippageOutOfRange shown => s!"Slippage must be in [0, 1), got {shown}"
  | splitOutOfRange split token pool =>
    "Split " ++ split.toText ++ s!" out of range for swap from {token} through {pool}"
  | splitOfOnlySwap split token =>
    s!"Single swap from {token} must have split 0, got " ++ split.toText
  | earlyRemainder split token pool =>
    s!"Only the last swap from {token} may be a remainder; swap through {pool} has split "
      ++ split.toText
  | emptyRemainder total token =>
    s!"Splits from {token} sum to " ++ total.toText ++ " and leave no remainder"
  | incompleteSplits total token =>
    s!"Splits from {token} must sum to 1, got " ++ total.toText
  | noStart start => s!"No swap starts from the input token {start}"
  | unreachableToken token start => s!"Token {token} is not reachable from {start}"
  | unreachableEnd finish start => s!"Output token {finish} is not reachable from {start}"
  | deadEnd token => s!"Path dead-ends at token {token}"
  | innerCycle =>
    "Cyclical swaps are only allowed if they are the first and last token of an order"
  | severalGroups count =>
    "Single strategy only supports exactly one swap for non-groupable protocols. Found "
      ++ toString count
  | splitOfSingleSwap => "Splits not supported for single swaps"
  | foreignSender sender signer =>
    s!"Order sender {sender} does not match the permit signer {signer}"
  | permitTooLarge amount => s!"Permit amount {amount} does not fit uint160"
  | noEstimatedAmount protocol pool =>
    s!"estimated_amount_in is required for {protocol} swap on {pool}"
  | poolIdShape id => s!"Invalid Balancer pool id: {id} (expected 0x and 32 bytes)"
  | poolIdDigits id => s!"Invalid Balancer pool id: {id}"
  | unlistedToken token => s!"Token {token} not found in tokens array"
  | exactOutOrder => "Currently only exact input solutions are supported"
  | noRouter chain => s!"Router address not set for chain {chain}"
  | wrapOfOtherInput => "Native token must be the input token in order to wrap"
  | wrapBeforeOtherSwap => "Wrapped token must be the first swap's input in order to wrap"
  | unwrapToOtherOutput => "Native token must be the output token in order to unwrap"
  | unwrapAfterOtherSwap => "Wrapped token must be the last swap's output in order to unwrap"
  | nativeActionInCycle => "Wrapping/Unwrapping is not available in cyclical swaps"
  | unsupportedShape shape => s!"Unsupported solution shape: {shape}"
  | configOfOtherChain configured chain => s!"Config for {configured} cannot be used on {chain}"
  | conflictingCapabilities protocols =>
    "Protocols cannot be both groupable and unsupported for chained swaps: "
      ++ Json.joined ", " protocols
  | unreadableTable name reason => s!"Cannot read config {name}: {reason}"
  | malformedTable name => s!"Invalid JSON in {name}"
  | noExecutors chain => s!"No executor addresses configured for chain {chain}"
  | invalidTableAddress role shown => s!"Invalid {role}: {shown}"
  | invalidExecutor text => s!"Invalid executor address: {text}"
  | missingSetting key encoder => s!"Missing {key} in protocol config for {encoder}"
  | invalidSetting key value => s!"Invalid {key} in protocol config: {value}"
  | missingAttribute name pool => s!"Attribute {name} not found on component {pool}"
  | valueTooWide value size => "Value " ++ value.toHex ++ s!" does not fit in {size} bytes"
  | chunkTooLong length => s!"Encoded chunk too long: {length} bytes"
  | hookDataTooLong pool length => s!"Hook data too long for {pool}: {length} bytes"
  | noQuoteSource protocol => s!"No quote provider configured for {protocol}"
  | quoteWithoutRouter protocol => s!"A router address is needed for {protocol} swaps"
  | quoteWithoutPayload protocol field =>
    s!"{protocol} quote must have a {field} attribute"
  | quoteRejected status => s!"Quote request rejected with {status}"
  | malformedQuote url => s!"Malformed quote response from {url}"
  | unscriptedQuote tokenIn tokenOut amount =>
    "No mock quote for (" ++ Text.quoted tokenIn ++ ", " ++ Text.quoted tokenOut ++ ", "
      ++ toString amount ++ ")"
  | callReverted contract reason => s!"Call to {contract} reverted: {reason}"
  | unscriptedCall contract selector =>
    s!"No mock response for {contract} selector " ++ selector.toHex
  | invalidApprovalAddress role text => s!"Invalid {role} address for approval check: {text}"
  | undecodableAllowance token response =>
    s!"Undecodable allowance response from {token}: " ++ response.toHex
  | invalidSignerKey => "Invalid swapper private key"
  | noNonceSource => "Permit2 needs an RPC endpoint to read the current nonce"
  | undecodablePermitAllowance response =>
    "Undecodable Permit2 allowance response: " ++ response.toHex
  | callFailed contract reason => s!"Call to {contract} failed: {reason}"
  | quoteServiceFailed status => s!"Quote service returned {status}"
  | quoteRequestFailed reason => s!"Quote request failed: {reason}"
  | shapeWithoutStrategy shape => s!"{shape} strategies are not implemented"
  | exactOutQuote => "Exact out is not supported for RFQ swaps"
  | reported _ message => message

/-- Whether trying again may succeed. -/
def isRetryable (e : EncodingError) : Bool := e.kind = .recoverable

/-- The line that reports a reason. -/
def line (e : EncodingError) : String := e.kind.name ++ ": " ++ e.message

end EncodingError

/-- How a computation fails. -/
inductive Failure where
  /-- An encoding is refused for a reason. -/
  | encoding (error : EncodingError)
  /-- A value is refused while it is read. -/
  | value (fault : ValueFault)
  /-- A record is refused while it is read. -/
  | record (faults : List Fault)
  /-- A step met a value that it is not made for. -/
  | defect
  deriving DecidableEq

instance : Coe EncodingError Failure := ⟨.encoding⟩

/-- The failure for faults; if one of them cannot be reported, none is. -/
def Failure.ofFaults (report : List Fault → Failure) (faults : List Fault) : Failure :=
  if faults.any Fault.isUnreportable then .defect else report faults

end SwapRouter
