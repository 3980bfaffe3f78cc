import SwapRouter.Json.Reader
import SwapRouter.Reading
import SwapRouter.Session
import SwapRouter.Url.Basic

/-!
# Signed quotes

Protocols that are priced off the chain need a signed quote for a swap.  A quote source
answers from prepared quotes, or posts the request to a quote service.

A service that is overloaded or out of reach may be asked again; one that refuses the
request or answers in another form may not.
-/

namespace SwapRouter

/-- A firm quote: the amount that is received, and the signed data of the maker. -/
structure SignedQuote where
  amountOut : Int
  attributes : List (String × Bytes) := []
  deriving DecidableEq

/-! ## Prepared quotes -/

/-- Prepared quotes: one failure for all requests, or a quote for the two tokens, in
their normal forms, and the amount.  A key may be listed without a quote. -/
structure QuoteBook where
  entries : List ((Address × Address × Int) × Option SignedQuote) := []
  default : Option SignedQuote := none
  failure : Option Failure := none

/-- The quote for a request; the last one prepared for its key counts. -/
def QuoteBook.answer (book : QuoteBook) (r : QuoteRequest) : Except Failure SignedQuote :=
  match book.failure with
  | some f => .error f
  | none =>
    let (tokenIn, tokenOut) := (r.tokenIn.normal, r.tokenOut.normal)
    match (book.entries.reverse.lookup (tokenIn, tokenOut, r.amountIn)).getD book.default with
    | some quote => .ok quote
    | none => .error (.encoding (.unscriptedQuote tokenIn.text tokenOut.text r.amountIn))

/-! ## Quote services -/

/-- A request as it is posted to a service. -/
structure QuotePost where
  url : Url
  key : Option String
  body : List (String × String)
  deriving DecidableEq

/-- What comes of a post. -/
inductive QuoteReply where
  | answered (status : Int) (body : Bytes)
  | unreachable (reason : String)

/-- The reply where there is no network. -/
def QuoteReply.offline : QuoteReply := .unreachable "network disabled"

/-- A quote service. -/
structure QuoteService where
  /-- Its address, as the settings give it. -/
  url : Json
  key : Option String
  timeout : Binary64
  reply : QuotePost → QuoteReply := fun _ => .offline

namespace QuoteService

/-- What is posted for a request. -/
def postBody (r : QuoteRequest) : List (String × String) := [
  ("sell_token", r.tokenIn.normal.text),
  ("buy_token", r.tokenOut.normal.text),
  ("sell_amount", toString r.amountIn),
  ("taker_address", r.sender.normal.text),
  ("receiver_address", r.receiver.normal.text)]

/-- The address to which requests are posted; a text that is no address and a value that
is no text are defects. -/
def postUrl (s : QuoteService) : Except Failure Url :=
  match s.url with
  | .str text => match (Url.parse? text).bind ({} : Url).resolve with
    | some url => .ok url
    | none => .error .defect
  | _ => .error .defect

/-- The post for a request.  The key is sent in ASCII and the body as UTF-8; what has no
such form is a defect. -/
def post (s : QuoteService) (r : QuoteRequest) : Except Failure QuotePost := do
  let url ← s.postUrl
  let key := s.key.filter (· ≠ "")
  if key.any fun key => key.toList.any fun c => 0x7F < c.toNat then throw .defect
  if (postBody r).any fun (_, value) => Text.hasHalf value then throw .defect
  return ⟨url, key, postBody r⟩

/-- Reads the quote in the body of an answer. -/
def readQuote : Json → Reading SignedQuote := Reading.record fun fields =>
  (fun (amount : Uint256) attributes => SignedQuote.mk amount.toNat attributes)
    <$> Reading.required "amount_out" Reading.amount fields
    <*> Reading.withDefault "attributes" [] (Reading.table Reading.bytes) fields

/-- The quote in the body of an answer of a service with this address. -/
def quoteOf (url : String) (body : Bytes) : Except Failure SignedQuote :=
  match Json.readSent body with
  | .error _ => .error (.encoding (.malformedQuote url))
  | .ok j => match readQuote j with
    | .ok quote => .ok quote
    | .refused _ => .error (.encoding (.malformedQuote url))

/-- What a reply means.  An answer from an address without scheme or host is a defect. -/
def ofReply (s : QuoteService) (url : Url) : QuoteReply → Except Failure SignedQuote
  | .unreachable reason => .error (.encoding (.quoteRequestFailed reason))
  | .answered status body =>
    if !url.isAbsolute then .error .defect
    else if 200 ≤ status ∧ status < 300 then quoteOf s.url.show body
    else if status = 429 ∨ 500 ≤ status then .error (.encoding (.quoteServiceFailed status))
    else .error (.encoding (.quoteRejected status))

/-- The quote of a service. -/
def answer (s : QuoteService) (r : QuoteRequest) : Except Failure SignedQuote := do
  let post ← s.post r
  s.ofReply post.url (s.reply post)

end QuoteService

/-- Where signed quotes come from; prepared quotes have a name under which the requests
are recorded. -/
inductive QuoteSource where
  | prepared (name : String) (book : QuoteBook)
  | service (service : QuoteService)

/-- Asks a source for a quote. -/
def QuoteSource.request (source : QuoteSource) (r : QuoteRequest) : Encode SignedQuote :=
  match source with
  | .prepared name book => do
    .ask (.quote (some name) r)
    .ofExcept (book.answer r)
  | .service s => do
    .ask (.quote none r)
    .ofExcept (s.answer r)

end SwapRouter
