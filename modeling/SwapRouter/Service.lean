import SwapRouter.Json.Reader
import SwapRouter.Order.Printer
import SwapRouter.Order.Reader
import SwapRouter.Surroundings
import SwapRouter.Text.Integer
import SwapRouter.Url.Basic

/-!
# The service over HTTP

A service encodes the solutions in the body of a post to `/<chain>/encode`, and reports
on `/health` which chains it serves.  A few pages describe it; they are not part of this
library, and their text is left out.

Several things may be wrong with one request, and the answer names the first of them in
this order: a body that is announced as too large, an unknown path, a method that the
path does not have, a body that is no JSON, a chain that is not served, a body of the
wrong form, and last a refused encoding.

## How a path is found

The address of a request is completed by that of the service, so dots in it lead through
its parts and escapes stand for bytes.  A line end behind a path does not count.  A path
with slashes at its end is sent on to the same path without them.
-/

namespace SwapRouter

/-- A request. -/
structure HttpRequest where
  method : String := "POST"
  /-- The address, or the part of it behind that of the service. -/
  path : String
  headers : List (String × String) := []
  /-- The body; a request without one has an empty body. -/
  body : Bytes := []

/-- An answer. -/
structure HttpResponse where
  status : Nat
  /-- The body, if it is JSON. -/
  body : Option Json := none

/-- The status of a refused encoding. -/
def ErrorKind.status : ErrorKind → Nat
  | .invalidInput => 400
  | .notImplemented => 501
  | .recoverable => 503
  | .fatal | .encoding => 500

/-- A service: the chains it serves, and their encoders. -/
structure Service where
  served : List String
  /-- The encoder for the chain that a path names; nothing if the chain is not served. -/
  encoderOf : String → Except Failure (Option RouterEncoder)
  /-- How many levels of a body there is room for, if that is limited. -/
  room : Option Nat := none

namespace Service

/-- The largest body, in bytes. -/
def maxBodySize : Int := 10 * 1024 * 1024

/-- The service of the chains that the settings list. -/
def ofSurroundings (around : Surroundings) : Except Failure Service := do
  let settings ← Settings.ofEnvironment around.environment
  return {
    served := settings.supportedChains
    encoderOf := fun name =>
      let name := Text.lowercase name
      match Chain.all.find? (·.name = name) with
      | none => .ok none
      | some chain =>
        if settings.supportedChains.contains name then
          (RouterEncoder.ofSurroundings around chain).map some
        else .ok none
    room := around.rooms.body }

/-! ## Paths and headers -/

/-- The places of the service. -/
inductive Place where
  | health
  | encode (chain : String)
  /-- A page that describes the service. -/
  | page
  deriving DecidableEq, Repr

/-- The pages that describe the service. -/
def pages : List String := ["openapi.json", "docs", "docs/oauth2-redirect", "redoc"]

/-- The address of the service. -/
def base : Url := { scheme := "http".toList, host := "test".toList }

/-- A path without a line end behind it. -/
def withoutLineEnd (path : List Char) : List Char :=
  if path.getLast? = some '\n' then path.dropLast else path

/-- The place of a path. -/
def Place.ofPath? (path : List Char) : Option Place :=
  match withoutLineEnd path with
  | '/' :: rest =>
    if pages.contains (String.ofList rest) then some .page
    else match rest.splitOn '/' with
      | [name] => if String.ofList name = "health" then some .health else none
      | [chain, name] =>
        if chain ≠ [] && String.ofList name = "encode" then some (.encode (String.ofList chain))
        else none
      | _ => none
  | _ => none

/-- Whether a path leads to a place once the slashes at its end are taken off. -/
def isSentOn (path : List Char) : Bool :=
  path.getLast? = some '/'
    && (Place.ofPath? (path.reverse.dropWhile (· = '/')).reverse).isSome

/-- The methods of a place. -/
def Place.methods : Place → List String
  | .health => ["GET"]
  | .encode _ => ["POST"]
  | .page => ["GET", "HEAD"]

/-- A header; the case of its name does not count, and neither does an empty one. -/
def header? (r : HttpRequest) (name : String) : Option String :=
  (r.headers.findSome? fun (key, value) =>
    if Text.lowercase key = name then some value else none).bind nonEmpty?

/-- Headers are sent in ASCII. -/
def areHeadersPlain (r : HttpRequest) : Bool :=
  r.headers.all fun (key, value) => (key ++ value).toList.all fun c => c.toNat < 0x80

/-- Whether a body of the announced kind is JSON; a body without a kind is. -/
def isJson (r : HttpRequest) : Bool :=
  match header? r "content-type" with
  | none => true
  | some kind =>
    let own := Text.lowercase (String.ofList
      (Text.trimBoth Text.isTrimmed (kind.toList.takeWhile (· ≠ ';'))))
    match own.toList.splitOn '/' with
    | [main, sub] =>
      String.ofList main = "application" &&
        (String.ofList sub = "json" || "+json".toList.isSuffixOf sub)
    | _ => false

/-- Whether the body is announced as too large; a size that is no number is a defect.
Unless a header does, the body announces itself. -/
def isTooLarge (r : HttpRequest) : Except Failure Bool :=
  if r.headers.any fun (key, _) => Text.lowercase key = "content-length" then
    match header? r "content-length" with
    | none => .ok false
    | some size => match Text.decimalInteger? size with
      | some size => .ok (decide (maxBodySize < size))
      | none => .error .defect
  else .ok (decide (maxBodySize < r.body.length))

/-! ## Answers -/

/-- An answer that only says what is wrong. -/
def plainly (status : Nat) (detail : String) : HttpResponse :=
  ⟨status, some (.obj [("detail", .str detail)])⟩

/-- The body of a refusal. -/
def refusal (kind : ErrorKind) (detail : Json) : Json :=
  .obj [("kind", .str kind.name), ("detail", detail),
    ("retryable", .bool (kind = .recoverable))]

/-- How a fault is reported. -/
def faultReport (fault : Fault) : Json :=
  .obj ([("loc", .ofList .str fault.path)]
    ++ match fault.cause.message? with
      | some message => [("msg", .str message)]
      | none => [])

/-- The answer to a body with faults; faults that cannot be reported are a defect. -/
def faulty (faults : List Fault) : Except Failure HttpResponse :=
  if faults.any Fault.isUnreportable then .error .defect
  else .ok ⟨400, some (refusal .invalidInput
    (.ofList faultReport (faults.map (Fault.within "body"))))⟩

/-- Reads the solutions in a body; no list stands for an empty one. -/
def readBody : Option Json → Reading (List Solution)
  | none => .refuse .missing
  | some j => Reading.record (Reading.withDefault "solutions" [] (Reading.list Solution.read)) j

/-- The answer of an encoder; a reason without a UTF-8 form cannot be sent. -/
def encode (encoder : RouterEncoder) (solutions : List Solution) : Except Failure HttpResponse :=
  match ((encoder.encodeSolutions solutions).run {}).1 with
  | .ok transactions => .ok
    ⟨200, some (.obj [("transactions", .ofList (Json.ofList Transaction.toJson) transactions)])⟩
  | .error (.encoding e) =>
    if Text.hasHalf e.message then .error .defect
    else .ok ⟨e.kind.status, some (refusal e.kind (.str e.message))⟩
  | .error _ => .ok ⟨500, some (refusal .fatal (.str "Internal error"))⟩

/-- What a body is. -/
inductive SentBody where
  | absent
  | json (value : Json)
  /-- Bytes of a kind that is not read. -/
  | other
  /-- A body that should be JSON and is not. -/
  | malformed
  | unreadable

/-- The body of a request. -/
def bodyOf (r : HttpRequest) (room : Option Nat) : SentBody :=
  if r.body = [] then .absent
  else if isJson r then match Json.readSent r.body room with
    | .ok .null => .absent
    | .ok j => .json j
    | .error .malformed => .malformed
    | .error _ => .unreadable
  else .other

/-- The answer to a post of solutions. -/
def encodePosted (s : Service) (chain : String) (value : Option Json) :
    Except Failure HttpResponse := do
  match ← s.encoderOf chain with
  | none => return plainly 404 ("Unsupported chain: " ++ chain)
  | some encoder => match readBody value with
    | .refused faults => faulty faults
    | .ok solutions => encode encoder solutions

/-- The answer at a place, for a method that it has. -/
def answerAt (s : Service) (r : HttpRequest) : Place → Except Failure HttpResponse
  | .page => .ok ⟨200, none⟩
  | .health => .ok ⟨200, some (.obj [("status", .str "ok"),
      ("supported_chains", .ofList .str (Text.sorted s.served.eraseDups))])⟩
  | .encode chain => match bodyOf r s.room with
    | .malformed => faulty [⟨[], .missing⟩]
    | .unreadable => .ok (plainly 400 "There was an error parsing the body")
    | .absent => s.encodePosted chain none
    | .json j => s.encodePosted chain (some j)
    | .other => s.encodePosted chain (some (.str ""))

/-- The answer to a request with a certain path, headers being in order. -/
def answerPath (s : Service) (r : HttpRequest) (method : String) (path : List Char) :
    Except Failure HttpResponse :=
  match Place.ofPath? path with
  | none => .ok (if isSentOn path then ⟨307, none⟩ else plainly 404 "Not Found")
  | some place =>
    if place.methods.contains method then s.answerAt r place
    else .ok (plainly 405 "Method Not Allowed")

/-- Answers a request.  One that cannot be sent as it is, and an answer that cannot, are
defects; an answer to a question for the head has no body. -/
def answer (s : Service) (r : HttpRequest) : Except Failure HttpResponse := do
  let url ← match (Url.parse? r.path).bind base.resolve with
    | some url => pure url
    | none => throw .defect
  if !areHeadersPlain r then throw .defect
  let method := Text.uppercase r.method
  let response ←
    if ← isTooLarge r then pure (plainly 413 "Request too large")
    else s.answerPath r method url.plainPath.toList
  if method = "HEAD" then return { response with body := none }
  return response

end Service

end SwapRouter
