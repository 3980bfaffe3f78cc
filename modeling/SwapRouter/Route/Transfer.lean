import SwapRouter.Chain
import SwapRouter.Route.Group

/-!
# How tokens reach a pool

A group gets its input from the router, which pulls it from the user for the first group
and pushes its own balance later, or straight from the pool before it, which saves one
transfer.
-/

namespace SwapRouter

/-- How the input of a group reaches its pool. -/
inductive TransferType where
  /-- The router pulls the funds of the user. -/
  | transferFrom
  /-- The router pushes its own balance. -/
  | transfer
  /-- The funds are already there. -/
  | none
  deriving DecidableEq, Repr

/-- The byte of a transfer type. -/
def TransferType.byte : TransferType → UInt8
  | .transferFrom => 0
  | .transfer => 1
  | .none => 2

/-- Whether and how the funds of the user enter the router. -/
inductive UserTransfer where
  | transferFromPermit
  | transferFrom
  | none
  deriving DecidableEq, Repr

/-- Where a group takes its input from and where its output goes. -/
structure Hop where
  transferType : TransferType
  receiver : Address
  /-- Who holds the input when the group swaps. -/
  holder : Address
  /-- Whether the receiver is the pool of the next group. -/
  paysNextPool : Bool
  deriving DecidableEq

/-- What transfer decisions depend on, apart from the groups. -/
structure TransferSetting where
  chain : Chain
  capabilities : Capabilities
  userTransfer : UserTransfer
  router : Address

namespace TransferSetting

/-- How the input of a group reaches its pool. -/
def transferType (s : TransferSetting) (g : SwapGroup) (given : Address) (wraps isPaid : Bool) :
    TransferType :=
  let needsInTransfer := s.capabilities.needsInTransfer g.protocol
  let userPays := s.userTransfer ≠ .none
  if g.tokenIn = Address.native then .none
  else if wraps && g.tokenIn = s.chain.wrappedToken then .transfer
  else if g.tokenIn = given then
    if userPays then .transferFrom
    else if needsInTransfer then .transfer else .none
  else if !needsInTransfer || isPaid then .none
  else .transfer

/-- Who receives the output of a group, and whether that is the next pool. -/
def receiver (s : TransferSetting) (g : SwapGroup) (next : Option SwapGroup)
    (orderReceiver : Address) (unwraps : Bool) : Address × Bool :=
  match next with
  | none => (if unwraps then s.router.normal else orderReceiver.normal, false)
  | some next =>
    if s.capabilities.allowsDirectTransfer g.protocol next.protocol
        && next.entryPool.isWellFormed then
      (next.entryPool.normal, true)
    else (s.router.normal, false)

/-- Who holds the input of a group when it swaps. -/
def holder (s : TransferSetting) (g : SwapGroup) (isPaid : Bool) : Address :=
  if isPaid && g.entryPool.isWellFormed then g.entryPool.normal else s.router.normal

/-- The hops of groups that follow each other; `isPaid` says whether the first one is paid
by a pool. -/
def plan (s : TransferSetting) (given orderReceiver : Address) (wraps unwraps : Bool) :
    Bool → List SwapGroup → List Hop
  | _, [] => []
  | isPaid, g :: groups =>
    let (receiver, paysNext) := s.receiver g groups.head? orderReceiver unwraps
    ⟨s.transferType g given wraps isPaid, receiver, s.holder g isPaid, paysNext⟩
      :: s.plan given orderReceiver wraps unwraps paysNext groups

end TransferSetting

end SwapRouter
