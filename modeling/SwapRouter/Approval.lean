import SwapRouter.Abi.Signature
import SwapRouter.ChainReader
import SwapRouter.Session

/-!
# Approvals of tokens

Whether a spender still needs an approval for tokens of an owner is answered by an
approval source: from prepared answers, or from the allowance that the chain holds, which
is enough once it reaches half of the range of amounts.

`ApprovalSource.isNeeded` asks a source.  Where approvals are kept, each of them is asked
for once and a failure is kept like an answer.
-/

namespace SwapRouter

/-- The key of an approval; each of the three addresses must be well formed. -/
def ApprovalKey.ofAddresses (token owner spender : Address) :
    Except EncodingError ApprovalKey := do
  check "token" token
  check "owner" owner
  check "spender" spender
  return ⟨token.normal, owner.normal, spender.normal⟩
where
  /-- Refuses an address that is not well formed. -/
  check (role : String) (a : Address) : Except EncodingError Unit :=
    if a.isWellFormed then .ok () else .error (.invalidApprovalAddress role a.text)

/-- Where approvals are looked up. -/
inductive ApprovalSource where
  | answers (answer : ApprovalKey → Except Failure Bool)
  | onChain (reader : ChainReader)

/-- Prepared answers: one failure for all keys, or an answer for each key. -/
structure ApprovalBook where
  entries : List (ApprovalKey × Bool) := []
  default : Bool := false
  failure : Option Failure := none

/-- The answer to a key; the last one prepared for it counts. -/
def ApprovalBook.answer (book : ApprovalBook) (key : ApprovalKey) : Except Failure Bool :=
  match book.failure with
  | some f => .error f
  | none => .ok ((book.entries.reverse.lookup key).getD book.default)

namespace Allowance

/-- The signature of the function that tells an allowance. -/
def signature : String := "allowance(address,address)"

/-- An allowance at or above this bound needs no approval. -/
def bound : Nat := (Nat.pow 2 256 - 1) / 2

/-- The data of a call that reads an allowance; an address without 20 bytes is a defect. -/
def callData (owner spender : Address) : Except Failure Bytes := do
  match owner.strictBytes?, spender.strictBytes? with
  | some o, some s => Abi.call signature [.bytes o, .bytes s]
  | _, _ => throw .defect

/-- Reads an allowance from a response. -/
def ofResponse (token : Address) (response : Bytes) : Except Failure Nat :=
  match Abi.decodeAll? [.uint 256] response with
  | some [.number n] => .ok n.toNat
  | _ => .error (.encoding (.undecodableAllowance token.text response))

/-- Reads an allowance from the chain. -/
def read (reader : ChainReader) (token owner spender : Address) : Encode Nat := do
  let key ← .require (ApprovalKey.ofAddresses token owner spender)
  let data ← .ofExcept (callData key.owner key.spender)
  .ask (.read .approval key.token data)
  let response ← .ofExcept (reader key.token data)
  .ofExcept (ofResponse key.token response)

end Allowance

namespace ApprovalSource

/-- Asks a source, whatever has been asked before. -/
def lookUp (source : ApprovalSource) (token owner spender : Address) : Encode Bool :=
  match source with
  | .answers answer => do
    let key ← .require (ApprovalKey.ofAddresses token owner spender)
    .ask (.approval key)
    .ofExcept (answer key)
  | .onChain reader => do
    let allowance ← Allowance.read reader token owner spender
    return allowance < Allowance.bound

/-- Whether an approval is needed.  Where approvals are kept, the addresses are checked
first, and each approval is asked for at most once. -/
def isNeeded (source : ApprovalSource) (token owner spender : Address) : Encode Bool :=
  .ifKept
    (do
      let key ← .require (ApprovalKey.ofAddresses token owner spender)
      .once key (source.lookUp key.token key.owner key.spender))
    (source.lookUp token owner spender)

end ApprovalSource

end SwapRouter
