import SwapRouter.Strategy

/-!
# From solutions to transactions

A router encoder turns every order of every solution into a transaction that calls the
router.  The orders are encoded side by side; an approval that several of them need is
looked up once.
-/

namespace SwapRouter

/-- Encodes the orders of a chain. -/
structure RouterEncoder where
  strategies : Strategies
  /-- Where approvals are looked up. -/
  approvals : Option ApprovalSource := none
  /-- The router of orders that name none; without it, the router of the setup. -/
  router : Option Address := none

namespace RouterEncoder

/-- Sets an encoder up for a chain with a setup of that chain. -/
def create (chain : Chain) (config : Config) (approvals : Option ApprovalSource)
    (signer : Option Signer) (quotes : EncoderRegistry.QuoteSetup) (router : Option Address) :
    Except EncodingError RouterEncoder := do
  if config.chain ≠ chain then
    throw (.configOfOtherChain config.chain.name chain.name)
  let encoders ← EncoderRegistry.ofConfig config approvals quotes
  return ⟨⟨config, encoders, signer⟩, approvals, router⟩

/-- The address of a router that is given; an empty one counts as none. -/
def given? (router : Option Address) : Option Address := router.filter (·.text ≠ "")

/-- The router of an order: its own, else the encoder's, else the one of the setup. -/
def routerOf (r : RouterEncoder) (order : Order) : Except EncodingError Address :=
  let config := r.strategies.config
  let chosen := match given? order.router, given? r.router with
    | some router, _ => some router
    | none, some router => some router
    | none, none => config.router
  match chosen with
  | some router => .ok router.normal
  | none => .error (.noRouter config.chain.name)

/-- The transaction of an encoded order. -/
def transaction (order : Order) (e : EncodedOrder) : Except Failure Transaction := do
  let data ← if order.withCall then e.callData order else pure e.swaps
  let value := if order.nativeAction = some .wrap then order.givenAmount else .zero
  match e.router.checked with
  | .ok target => return ⟨target, value, data⟩
  | .error fault => throw (.record [⟨["to"], .value fault⟩])

/-- Encodes an order with a source for approvals. -/
def encodeOrder (r : RouterEncoder) (approvals : Option ApprovalSource) (order : Order) :
    Encode Transaction := do
  if order.exactOut then .fail (.encoding .exactOutOrder)
  else
    let router ← .require (r.routerOf order)
    let f ← .ofExcept (r.strategies.choose order)
    let encoded ← r.strategies.encodeFor f order router approvals
    .ofExcept (transaction order encoded)

/-- Cuts a list into parts of the lengths of other lists. -/
def align {α β : Type} : List (List α) → List β → List (List β)
  | [], _ => []
  | part :: parts, bs => bs.take part.length :: align parts (bs.drop part.length)

/-- Runs a computation that looks every approval up at most once, and that knows of none
when it starts. -/
def withApprovalsKept {α : Type} (x : Encode α) : Encode α where
  course c := x.together.course { c with known := some [] }
  steady _ h := x.together.steady (by rfl) h

/-- Encodes every order of every solution, and lists the transactions by solution. -/
def encodeSolutions (r : RouterEncoder) (solutions : List Solution) :
    Encode (List (List Transaction)) :=
  withApprovalsKept do
    let orders := solutions.flatMap Solution.orders
    let transactions ← .sideBySide (orders.map (r.encodeOrder r.approvals))
    return align (solutions.map Solution.orders) transactions

end RouterEncoder

end SwapRouter
