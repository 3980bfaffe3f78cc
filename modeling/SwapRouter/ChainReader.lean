import SwapRouter.Address

/-!
# Reading the state of the chain

A reader calls a contract and returns what it answers.  `ChainReader.script` answers from
a list of prepared responses, and `ChainReader.ofNode` asks a node of the chain.
-/

namespace SwapRouter

/-- A function that calls a contract with the given data. -/
abbrev ChainReader := Address → Bytes → Except Failure Bytes

namespace ChainReader

/-! ## Prepared responses -/

/-- A prepared response. -/
inductive Response where
  | returns (data : Bytes)
  | fails (failure : Failure)
  /-- Answers with the data of the call less its first bytes. -/
  | echo (skipped : Nat)

/-- The prepared responses of contracts, each for the first four bytes of the data. -/
structure Script where
  responses : List (Address × Bytes × Response) := []

/-- The response to a call; the last one prepared for it counts. -/
def Script.response? (script : Script) (contract : Address) (data : Bytes) : Option Response :=
  let selector := data.take 4
  (script.responses.reverse.find? fun (address, prepared, _) =>
    address.normal = contract.normal && prepared = selector).map (·.2.2)

/-- A reader that answers from prepared responses. -/
def script (s : Script) : ChainReader := fun contract data =>
  match s.response? contract data with
  | none => .error (.encoding (.unscriptedCall contract.text (data.take 4)))
  | some (.returns bs) => .ok bs
  | some (.fails f) => .error f
  | some (.echo skipped) => .ok (data.drop skipped)

/-! ## A node of the chain -/

/-- A call as it is sent to a node: the contract in mixed case, and the data. -/
structure NodeCall where
  contract : String
  data : Bytes
  deriving DecidableEq

/-- What comes of a call. -/
inductive NodeReply where
  | returned (data : Bytes)
  | reverted (reason : String)
  | unreachable (reason : String)
  | misused

/-- A node of the chain. -/
abbrev Node := NodeCall → NodeReply

/-- A node where there is no network. -/
def offline : Node := fun _ => .unreachable "network disabled"

/-- The call that is sent for a read; an address without 20 bytes is a defect. -/
def nodeCall (contract : Address) (data : Bytes) : Except Failure NodeCall :=
  match contract.strictBytes? with
  | some bs => .ok ⟨Address.checksummed bs, data⟩
  | none => .error .defect

/-- A reader that asks a node. -/
def ofNode (node : Node) : ChainReader := fun contract data => do
  let call ← nodeCall contract data
  match node call with
  | .returned bs => return bs
  | .reverted reason =>
    throw (.encoding (.callReverted contract.text ("(" ++ Text.quoted reason ++ ", None)")))
  | .unreachable reason => throw (.encoding (.callFailed contract.text reason))
  | .misused => throw .defect

end ChainReader

end SwapRouter
