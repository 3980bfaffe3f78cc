import SwapRouter.Proofs.Abi.Size
import SwapRouter.Proofs.Reason.Address
import SwapRouter.Quote

/-!
# Asking those outside

Approvals and quotes come from others, and these may fail.  Where they fail only for a reason, so does
who asks them: an allowance is asked for with data that can be written, if the owner and the spender
are addresses with digits alone, and a response that cannot be read is a reason.

A quote is written into a field of 32 bytes, in front of its payload.  Hence its amount has to fit.

* `ApprovalSource.IsReasoned`, `QuoteSource.IsReasoned`: **what is asked of those outside.**
* `ApprovalSource.reasoned_lookUp`, `ApprovalSource.reasoned_isNeeded`, `QuoteSource.reasoned_request`:
  what asking them comes to.
-/

namespace SwapRouter

variable {token owner spender : Address} {key : ApprovalKey}

/-! ## Approvals -/

/-- A source of approvals fails for a reason only. -/
def ApprovalSource.IsReasoned : ApprovalSource → Prop
  | .answers answer => ∀ key, Reasoned (fun _ => True) (answer key)
  | .onChain reader => ∀ contract data, Reasoned (fun _ => True) (reader contract data)

/-- The key of an approval holds the addresses in their normal form. -/
theorem ApprovalKey.eq_of_ofAddresses (h : ofAddresses token owner spender = .ok key) :
    key = ⟨token.normal, owner.normal, spender.normal⟩ := by
  obtain ⟨-, -, h⟩ := bind_eq_ok_iff.1 h
  obtain ⟨-, -, h⟩ := bind_eq_ok_iff.1 h
  obtain ⟨-, -, h⟩ := bind_eq_ok_iff.1 h
  exact (Except.ok.inj h).symm

namespace Allowance

theorem argumentTypes_signature : Abi.argumentTypes signature = .ok [.address, .address] := rfl

/-- An allowance is asked for with the bytes of its owner and its spender. -/
theorem reasoned_callData (howner : owner.IsExact) (hspender : spender.IsExact) :
    Reasoned (fun _ => True) (callData owner spender) := by
  obtain ⟨ownerBytes, howner, hownerLen⟩ := howner.exists_strictBytes?
  obtain ⟨spenderBytes, hspender, hspenderLen⟩ := hspender.exists_strictBytes?
  have hfits : List.Forall₂ (Abi.Fits Abi.slot) [.address, .address]
      [.bytes ownerBytes, .bytes spenderBytes] :=
    .cons (Abi.fits_address hownerLen) (.cons (Abi.fits_address hspenderLen) .nil)
  obtain ⟨data, hdata⟩ :=
    Abi.exists_call (by decide +kernel) argumentTypes_signature hfits (by decide)
  refine reasoned_of_exists ⟨data, ?_, trivial⟩
  rw [callData, howner, hspender]
  exact hdata

theorem reasoned_read {reader : ChainReader}
    (hreader : ∀ contract data, Reasoned (fun _ => True) (reader contract data))
    (howner : owner.IsExact) (hspender : spender.IsExact) :
    (read reader token owner spender).Reasoned fun _ => True := by
  refine Encode.reasoned_require_bind fun key hkey => ?_
  obtain rfl := ApprovalKey.eq_of_ofAddresses hkey
  have hdata := reasoned_callData howner.normal hspender.normal
  refine (Encode.reasoned_ofExcept hdata).bind fun data _ => ?_
  refine Encode.reasoned_ask.bind fun _ _ => ?_
  refine (Encode.reasoned_ofExcept (hreader token.normal data)).bind fun response _ => ?_
  refine Encode.reasoned_ofExcept ?_
  rw [ofResponse]
  split
  · exact .ok trivial
  · exact .reason _

end Allowance

namespace ApprovalSource

variable {source : ApprovalSource}

/-- **A look-up** fails for a reason only, if the source does. -/
theorem reasoned_lookUp (hsource : source.IsReasoned) (howner : owner.IsExact)
    (hspender : spender.IsExact) :
    (source.lookUp token owner spender).Reasoned fun _ => True := by
  cases source with
  | answers answer =>
    refine Encode.reasoned_require_bind fun key _ => ?_
    exact Encode.reasoned_ask.bind fun _ _ => Encode.reasoned_ofExcept (hsource key)
  | onChain reader =>
    exact (Allowance.reasoned_read hsource howner hspender).bind fun _ _ =>
      Encode.reasoned_pure trivial

theorem reasoned_isNeeded (hsource : source.IsReasoned) (howner : owner.IsExact)
    (hspender : spender.IsExact) :
    (source.isNeeded token owner spender).Reasoned fun _ => True := by
  refine Encode.reasoned_ifKept (Encode.reasoned_require_bind fun key hkey => ?_)
  obtain rfl := ApprovalKey.eq_of_ofAddresses hkey
  exact Encode.reasoned_once (reasoned_lookUp hsource howner.normal hspender.normal)

end ApprovalSource

/-! ## Quotes -/

/-- More bytes than any list in a memory has. -/
def storageLimit : ℕ := 2 ^ 64

/-- The amount of a quote fits its field, and its attributes fit into a memory. -/
structure SignedQuote.Fits (q : SignedQuote) : Prop where
  nonneg : 0 ≤ q.amountOut
  isLt : q.amountOut < (Nat.pow 2 256 : ℕ)
  short : ∀ name bs, q.attributes.lookup name = some bs → bs.length < storageLimit

/-- The addresses of a request have digits alone. -/
structure QuoteRequest.IsExact (r : QuoteRequest) : Prop where
  tokenIn : r.tokenIn.IsExact
  tokenOut : r.tokenOut.IsExact
  sender : r.sender.IsExact
  receiver : r.receiver.IsExact

namespace QuoteSource

/-- What a source answers to a request. -/
def answer : QuoteSource → QuoteRequest → Except Failure SignedQuote
  | .prepared _ book, r => book.answer r
  | .service s, r => s.answer r

/-- A source of quotes fails for a reason only, and its quotes fit. -/
def IsReasoned (source : QuoteSource) : Prop :=
  ∀ r : QuoteRequest, r.IsExact → Reasoned SignedQuote.Fits (source.answer r)

/-- **A request** fails for a reason only, if the source does. -/
theorem reasoned_request {source : QuoteSource} (hsource : source.IsReasoned) {r : QuoteRequest}
    (hr : r.IsExact) : (source.request r).Reasoned SignedQuote.Fits := by
  have hanswer := Encode.reasoned_ofExcept (hsource r hr)
  cases source with
  | prepared name book => exact Encode.reasoned_ask.bind fun _ _ => hanswer
  | service s => exact Encode.reasoned_ask.bind fun _ _ => hanswer

end QuoteSource

end SwapRouter
