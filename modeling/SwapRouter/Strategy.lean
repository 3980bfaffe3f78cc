import SwapRouter.Route.Path
import SwapRouter.Route.Shape
import SwapRouter.Route.Split
import SwapRouter.Route.TokenTable
import SwapRouter.RouterCall
import SwapRouter.Venue.Registry

/-!
# Encoding the swaps of an order

An order is encoded for one of three functions of the router.  Each of them groups the
swaps and has every group encoded by the encoder of its protocol; a single order has one
group, a sequential one joins its groups as chunks, and a split one puts a header in
front of every chunk.  The header names the two tokens of the group by their place in the
token table and says which fraction of the input the group takes, zero for the rest.
-/

namespace SwapRouter

/-- What the orders of a chain are encoded with. -/
structure Strategies where
  config : Config
  encoders : EncoderRegistry
  signer : Option Signer := none

/-- A hop of an order: a group with its context. -/
structure PlannedGroup where
  group : SwapGroup
  context : SwapContext

namespace Strategies

/-- Whether the tokens of an order are pulled with a permit: there is a signer, and the
input is not the native coin. -/
def usesPermit (t : Strategies) (order : Order) : Bool :=
  t.signer.isSome && order.nativeAction ≠ some .wrap

/-- What the transfers of an order depend on. -/
def transfers (t : Strategies) (order : Order) (router : Address) : TransferSetting where
  chain := t.config.chain
  capabilities := t.config.capabilities
  userTransfer := if t.usesPermit order then .transferFromPermit else .transferFrom
  router := router

/-- The context of a group. -/
def contextOf (order : Order) (g : SwapGroup) (router : Address) (hop : Hop)
    (approvals : Option ApprovalSource) : SwapContext where
  receiver := hop.receiver
  exactOut := order.exactOut
  router := some router
  transferType := hop.transferType
  holder := hop.holder
  groupTokenIn := g.tokenIn
  groupTokenOut := g.tokenOut
  approvals := approvals

/-- Joins the data of a group: the first swap's as it is, the others' as chunks. -/
def joinGroup : List Bytes → Except EncodingError Bytes
  | [] => .ok []
  | first :: later => do
    let chunks ← Wire.join later
    return first ++ chunks

/-- Encodes a group: the executor and the data of the swaps. -/
def encodeGroup (t : Strategies) (p : PlannedGroup) : Encode Bytes := do
  let e ← .require (t.encoders.get p.group.protocol)
  let parts ← .sideBySide (p.group.swaps.map fun s => e.encode s p.context)
  let data ← .require (joinGroup parts)
  let executor ← .ofExcept (e.executor.fieldBytes "executor address")
  return executor ++ data

/-- The signature of the function that an order calls. -/
def signatureOf (t : Strategies) (f : RouterFunction) (order : Order) : String :=
  routerSignature f.name (t.usesPermit order) f.takesTokenCount

/-- Completes the encoded swaps of an order, with a signed permit if one is used. -/
def finish (t : Strategies) (f : RouterFunction) (order : Order) (router : Address)
    (swaps : Bytes) (tokenCount : Nat) : Encode EncodedOrder := do
  let signature := t.signatureOf f order
  match if t.usesPermit order then t.signer else none with
  | none => return ⟨swaps, router, signature, tokenCount, none, none⟩
  | some signer =>
    let permit ← signer.permit router order.sender order.givenToken order.givenAmount.toNat
    let permitSignature ← .ofExcept (signer.sign permit)
    return ⟨swaps, router, signature, tokenCount, some permit, some permitSignature⟩

/-- Checks the path of an order. -/
def checkPath (t : Strategies) (order : Order) : Except EncodingError Unit :=
  Route.checkPath t.config.chain order.nativeAction order.swaps order.givenToken
    order.checkedToken

/-- The groups of an order, each with its context, for an order without forks. -/
def planLinear (t : Strategies) (order : Order) (router : Address)
    (approvals : Option ApprovalSource) (groups : List SwapGroup) : List PlannedGroup :=
  let hops := (t.transfers order router).plan order.givenToken order.receiver
    (order.nativeAction = some .wrap) (order.nativeAction = some .unwrap) false groups
  List.zipWith (fun g hop => ⟨g, contextOf order g router hop approvals⟩) groups hops

/-- Encodes an order with one group. -/
def encodeSingle (t : Strategies) (order : Order) (router : Address)
    (approvals : Option ApprovalSource) : Encode EncodedOrder := do
  let groups := Route.group t.config.capabilities order.swaps
  match groups with
  | [g] =>
    if !g.split.isZero then .fail (.encoding .splitOfSingleSwap)
    else
      .require (t.checkPath order)
      match t.planLinear order router approvals [g] with
      | [p] =>
        let swaps ← t.encodeGroup p
        t.finish .single order router swaps 0
      | _ => .fail .defect
  | groups => .fail (.encoding (.severalGroups groups.length))

/-- Encodes an order whose groups follow each other. -/
def encodeSequential (t : Strategies) (order : Order) (router : Address)
    (approvals : Option ApprovalSource) : Encode EncodedOrder := do
  .require (t.checkPath order)
  let groups := Route.group t.config.capabilities order.swaps
  let hops ← .sideBySide ((t.planLinear order router approvals groups).map t.encodeGroup)
  let swaps ← .require (Wire.join hops)
  t.finish .sequential order router swaps 0

/-- Where the output of a group of a split order goes.  Groups of such an order never pay
each other. -/
def splitHop (t : Strategies) (order : Order) (router : Address) (g : SwapGroup) : Hop where
  transferType := (t.transfers order router).transferType g order.givenToken
    (order.nativeAction = some .wrap) false
  receiver :=
    if order.nativeAction ≠ some .unwrap ∧ g.tokenOut = order.checkedToken then
      order.receiver.normal
    else router.normal
  holder := router.normal
  paysNextPool := false

/-- The header of a group of a split order; `later` are the swaps behind its first one.  Swaps are
told apart by their positions: two entries of the list are two swaps, also where they are equal.
The position stands for the identity of a swap as an object; the two come to the same as long as no
object stands in the list twice, and in a list that is read from an input none does. -/
def splitHeader (table : List Address) (g : SwapGroup) (later : List Swap) :
    Except Failure Bytes := do
  let parts ← if Route.isLastOut g.first later then pure 0 else Wire.fractionParts g.split
  let tokenIn ← position g.tokenIn
  let tokenOut ← position g.tokenOut
  let inByte ← Wire.fixed 1 tokenIn
  let outByte ← Wire.fixed 1 tokenOut
  let partBytes ← Wire.fixed 3 parts
  return inByte ++ outByte ++ partBytes
where
  /-- The place of a token in the table. -/
  position (token : Address) : Except Failure Nat :=
    match Route.tokenPosition table token with
    | .ok n => .ok n
    | .error e => .error (.encoding e)

/-- The headers of the groups of a split order. -/
def splitHeaders (table : List Address) : List SwapGroup → Except Failure (List Bytes)
  | [] => .ok []
  | g :: groups => do
    let first ← splitHeader table g (g.later ++ groups.flatMap SwapGroup.swaps)
    let others ← splitHeaders table groups
    return first :: others

/-- Encodes an order with forks. -/
def encodeSplit (t : Strategies) (order : Order) (router : Address)
    (approvals : Option ApprovalSource) : Encode EncodedOrder := do
  .require (Route.checkSplits order.swaps)
  .require (t.checkPath order)
  let groups := Route.group t.config.capabilities order.swaps
  let table := Route.tokenTable t.config.chain order groups
  let headers ← .ofExcept (splitHeaders table groups)
  let hops ← .sideBySide (groups.map fun g =>
    t.encodeGroup ⟨g, contextOf order g router (t.splitHop order router g) approvals⟩)
  let swaps ← .require (Wire.join (List.zipWith (· ++ ·) headers hops))
  t.finish .split order router swaps (Route.tokenCount order table)

/-- Encodes an order for a function of the router. -/
def encodeFor (t : Strategies) (f : RouterFunction) (order : Order) (router : Address)
    (approvals : Option ApprovalSource) : Encode EncodedOrder :=
  match f with
  | .single => t.encodeSingle order router approvals
  | .sequential => t.encodeSequential order router approvals
  | .split => t.encodeSplit order router approvals

/-- Refuses the first swap whose protocol has no encoder. -/
def checkProtocols (t : Strategies) (order : Order) : Except EncodingError Unit :=
  match order.swaps.find? fun s => !t.encoders.contains s.protocol with
  | some s => .error (.unknownProtocol s.protocol)
  | none => .ok ()

/-- The shapes that have a function, in the order of their names. -/
def shapes : List Shape := [.sequentialExactIn, .singleExactIn, .splitIn]

/-- The function for a shape. -/
def functionOf : Shape → Except EncodingError RouterFunction
  | .singleExactIn => .ok .single
  | .sequentialExactIn => .ok .sequential
  | .splitIn => .ok .split
  | shape => .error (.shapeWithoutStrategy shape.name)

/-- The function that an order calls, once the order has passed all checks. -/
def choose (t : Strategies) (order : Order) : Except Failure RouterFunction := do
  match t.checkProtocols order with
  | .ok () => pure ()
  | .error e => throw (.encoding e)
  Route.checkOrder t.config.chain order
  match order.shape t.config.capabilities >>= functionOf with
  | .ok f => return f
  | .error e => throw (.encoding e)

end Strategies

end SwapRouter
