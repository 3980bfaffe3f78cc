import SwapRouter.Proofs.Reason.Outside
import SwapRouter.Proofs.Wire
import SwapRouter.Venue.Registry

/-!
# Swaps that are refused for a reason

Every family of protocols encodes a swap from a few addresses and numbers of its pool.  A number that
is missing or too wide is a reason, and so is an address that is not well formed; what is left are
well-formed addresses without twenty bytes.  With digits alone in all of them a swap is encoded or
refused for a reason, and the data have a bounded length, which the ABI and the chunks rely on.

* `Swap.IsExact`, `SwapContext.IsExact`, `SwapEncoder.IsExact`: what is asked of a swap, of its hop, and
  of the encoder of its protocol.
* `SwapEncoder.reasoned_encode`: **a swap is encoded or refused for a reason.**
-/

namespace SwapRouter

/-- The tokens of a swap have digits alone, and so has the id of its pool if it is an address. -/
structure Swap.IsExact (s : Swap) : Prop where
  tokenIn : s.tokenIn.IsExact
  tokenOut : s.tokenOut.IsExact
  pool : (Address.mk s.pool.id).isWellFormed = true → (Address.mk s.pool.id).hasHexDigits = true

/-- The addresses of a hop have digits alone, and its approvals are looked up where failures are
reasons. -/
structure SwapContext.IsExact (context : SwapContext) : Prop where
  receiver : context.receiver.IsExact
  router : ∀ a ∈ context.router, a.IsExact
  holder : context.holder.IsExact
  groupTokenIn : context.groupTokenIn.IsExact
  groupTokenOut : context.groupTokenOut.IsExact
  approvals : ∀ source ∈ context.approvals, source.IsReasoned

/-- The addresses of an encoder have digits alone where they are well formed, and those whom it asks
fail for a reason only. -/
structure SwapEncoder.IsExact (e : SwapEncoder) : Prop where
  executor : e.executor.IsExact
  settings : ∀ key text, e.settings.lookup key = some (.str text) →
    (Address.mk text).isWellFormed = true → (Address.mk text).hasHexDigits = true
  approvals : ∀ source ∈ e.approvals, source.IsReasoned
  quotes : ∀ source ∈ e.quotes, source.IsReasoned

/-- The data of a swap take up no more bytes than that. -/
def swapLimit : ℕ := storageLimit + 2 ^ 17

/-- The data of a swap are short enough. -/
def IsShort (bs : Bytes) : Prop := bs.length ≤ swapLimit

theorem isShort_of_le {bs : Bytes} {n : ℕ} (h : bs.length = n) (hle : n ≤ 2 ^ 17) :
    IsShort bs := by
  unfold IsShort swapLimit
  omega

variable {s : Swap} {context : SwapContext} {e : SwapEncoder}

namespace Swap

theorem IsExact.reasoned_poolBytes (h : s.IsExact) :
    Reasoned (fun bs => bs.length = 20) s.poolBytes := Address.reasoned_fieldBytes h.pool

theorem reasoned_poolNumber {name : String} {size : ℕ} :
    Reasoned (fun bs => bs.length = size) (s.poolNumber name size) := by
  rw [poolNumber]
  split
  next bs hbs =>
    obtain ⟨value, -, hfit⟩ := bind_eq_ok_iff.1 hbs
    exact .ok (Wire.length_of_fit hfit)
  next => exact .reason _

end Swap

/-! ## Pools -/

theorem UniswapV2.reasoned_encode (hs : s.IsExact) (hcontext : context.IsExact) :
    Reasoned IsShort (encode s context) := by
  refine hs.tokenIn.reasoned_fieldBytes.bind fun tokenIn hin => ?_
  refine hs.tokenOut.reasoned_fieldBytes.bind fun tokenOut _ => ?_
  refine hs.reasoned_poolBytes.bind fun pool hpool => ?_
  refine hcontext.receiver.reasoned_fieldBytes.bind fun receiver hreceiver => ?_
  refine .ok (isShort_of_le (n := 62) ?_ (by decide))
  simp only [List.length_append, hin, hpool, hreceiver, List.length_cons, List.length_nil]

theorem UniswapV3.reasoned_encode (hs : s.IsExact) (hcontext : context.IsExact) :
    Reasoned IsShort (encode s context) := by
  refine hs.tokenIn.reasoned_fieldBytes.bind fun tokenIn hin => ?_
  refine hs.tokenOut.reasoned_fieldBytes.bind fun tokenOut hout => ?_
  refine Swap.reasoned_poolNumber.bind fun fee hfee => ?_
  refine hcontext.receiver.reasoned_fieldBytes.bind fun receiver hreceiver => ?_
  refine hs.reasoned_poolBytes.bind fun pool hpool => ?_
  refine .ok (isShort_of_le (n := 85) ?_ (by decide))
  simp only [List.length_append, hin, hout, hfee, hpool, hreceiver, List.length_cons,
    List.length_nil]

theorem Slipstreams.reasoned_encode (hs : s.IsExact) (hcontext : context.IsExact) :
    Reasoned IsShort (encode s context) := by
  refine hs.tokenIn.reasoned_fieldBytes.bind fun tokenIn hin => ?_
  refine hs.tokenOut.reasoned_fieldBytes.bind fun tokenOut hout => ?_
  refine hs.reasoned_poolBytes.bind fun pool hpool => ?_
  refine Swap.reasoned_poolNumber.bind fun spacing hspacing => ?_
  refine hcontext.receiver.reasoned_fieldBytes.bind fun receiver hreceiver => ?_
  refine .ok (isShort_of_le (n := 85) ?_ (by decide))
  simp only [List.length_append, hin, hout, hspacing, hpool, hreceiver, List.length_cons,
    List.length_nil]

namespace UniswapV4

theorem reasoned_hooks : Reasoned (fun bs => bs.length = 20) (hooks s) := by
  unfold hooks
  generalize (s.pool.attributes.lookup "hooks").getD (Bytes.zeros 20) = value
  cases hfit : Wire.fit value 20 with
  | ok bs => exact .ok (Wire.length_of_fit hfit)
  | error e => exact .reason e

/-- The parameters of a pool: its data for a hook are not too long, or this is the reason. -/
theorem reasoned_poolParameters (hs : s.IsExact) :
    Reasoned (fun bs => bs.length ≤ 48 + maxHookData) (poolParameters s) := by
  refine Swap.reasoned_poolNumber.bind fun fee hfee => ?_
  refine Swap.reasoned_poolNumber.bind fun spacing hspacing => ?_
  refine reasoned_hooks.bind fun hooks hhooks => ?_
  dsimp only
  split
  · exact .reason _
  next hshort =>
    refine hs.tokenOut.reasoned_fieldBytes.bind fun tokenOut hout => ?_
    refine .ok ?_
    simp only [List.length_append, hout, hfee, hspacing, hhooks, Bytes.length_ofNat]
    omega

theorem reasoned_groupHeader (hs : s.IsExact) (hcontext : context.IsExact) :
    Reasoned (fun bs => bs.length = 62) (groupHeader s context) := by
  refine hs.tokenIn.reasoned_fieldBytes.bind fun tokenIn _ => ?_
  refine hs.tokenOut.reasoned_fieldBytes.bind fun tokenOut _ => ?_
  refine hcontext.groupTokenIn.reasoned_fieldBytes.bind fun groupIn hin => ?_
  refine hcontext.groupTokenOut.reasoned_fieldBytes.bind fun groupOut hout => ?_
  refine hcontext.receiver.reasoned_fieldBytes.bind fun receiver hreceiver => ?_
  refine .ok ?_
  simp only [List.length_append, hin, hout, hreceiver, List.length_cons, List.length_nil]

theorem reasoned_encode (hs : s.IsExact) (hcontext : context.IsExact) :
    Reasoned IsShort (encode s context) := by
  have hlimit : 62 + (48 + maxHookData) ≤ swapLimit := by decide
  refine (reasoned_poolParameters hs).bind fun parameters hparameters => ?_
  split
  · exact .ok (by rw [IsShort]; omega)
  · refine (reasoned_groupHeader hs hcontext).bind fun header hheader => ?_
    refine .ok ?_
    rw [IsShort, List.length_append, hheader]
    omega

end UniswapV4

/-! ## Protocols with an approval -/

namespace SwapEncoder

/-- The spender of a setting that is read has digits alone. -/
theorem IsExact.reasoned_spender (h : e.IsExact) (key : String) :
    Reasoned Address.IsExact (e.spender key) := by
  rw [spender]
  dsimp only
  split
  next text htext =>
    have hsetting : e.settings.lookup key = some (.str text) := by
      cases hlookup : e.settings.lookup key with
      | none =>
        rw [hlookup] at htext
        cases htext
      | some j =>
        rw [hlookup] at htext
        exact congrArg some htext
    split
    · exact .reason _
    next hformed =>
      have hformed : (Address.mk text).isWellFormed = true := by simpa using hformed
      obtain ⟨bs, hbs, hlen⟩ :=
        Address.IsExact.exists_bytes ⟨hformed, h.settings key text hsetting hformed⟩
      rw [hbs]
      exact .ok (Address.isExact_ofBytes hlen)
  · exact .reason _

/-- Whether an approval is needed is answered, or refused for a reason. -/
theorem IsExact.reasoned_isApprovalNeeded (h : e.IsExact) (hcontext : context.IsExact)
    (key : String) : (e.isApprovalNeeded s context key).Reasoned fun _ => True := by
  have hspender := Encode.reasoned_ofExcept (h.reasoned_spender key)
  rw [isApprovalNeeded]
  cases hkept : context.approvals with
  | some source =>
    exact hspender.bind fun spender hexact =>
      ApprovalSource.reasoned_isNeeded (hcontext.approvals source hkept) hcontext.holder hexact
  | none =>
    cases hown : e.approvals with
    | some source =>
      exact hspender.bind fun spender hexact =>
        ApprovalSource.reasoned_lookUp (h.approvals source hown) hcontext.holder hexact
    | none => exact Encode.reasoned_pure trivial

end SwapEncoder

namespace BalancerV2

/-- The id of a pool has no more than 32 bytes. -/
theorem length_of_poolId {id : String} {bs : Bytes} (h : poolId id = .ok bs) : bs.length ≤ 32 := by
  obtain ⟨x, rest, -, -, hlen, hread⟩ := poolId_eq_ok_iff.1 h
  have hcount := (Bytes.length_of_spacedPairs? hread).1
  omega

theorem reasoned_encode (he : e.IsExact) (hs : s.IsExact) (hcontext : context.IsExact) :
    (encode e s context).Reasoned IsShort := by
  refine (Encode.reasoned_ofExcept hs.tokenIn.reasoned_fieldBytes).bind fun tokenIn hin => ?_
  refine (Encode.reasoned_ofExcept hs.tokenOut.reasoned_fieldBytes).bind fun tokenOut hout => ?_
  refine (Encode.reasoned_ofExcept hcontext.receiver.reasoned_fieldBytes).bind
    fun receiver hreceiver => ?_
  refine Encode.reasoned_require_bind fun pool hpool => ?_
  refine (he.reasoned_isApprovalNeeded hcontext _).bind fun approval _ => ?_
  refine Encode.reasoned_ofExcept ?_
  -- only the id of the pool stands behind the heads
  have hpoolLen := length_of_poolId hpool
  have hshort : pool.length < Nat.pow 2 256 := hpoolLen.trans_lt (by decide)
  have hslot : Abi.slot ≤ 96 := by decide
  have hpoolFits : Abi.Fits 96 .bytes (.bytes pool) :=
    (Abi.fits_bytes hshort).mono (by rw [Abi.slot]; omega)
  have hfits : List.Forall₂ (Abi.Fits 96) dataTypes [.bytes tokenIn, .bytes tokenOut, .bytes pool,
      .bytes receiver, .flag context.exactOut, .flag approval] :=
    .cons ((Abi.fits_address hin).mono hslot) (.cons ((Abi.fits_address hout).mono hslot)
      (.cons hpoolFits (.cons ((Abi.fits_address hreceiver).mono hslot)
        (.cons ((Abi.fits_bool _).mono hslot) (.cons ((Abi.fits_bool _).mono hslot) .nil)))))
  obtain ⟨bs, hbs, hlen⟩ := Abi.exists_encodeAll? hfits (by decide)
  refine reasoned_of_exists ⟨bs, Abi.encodeAll_eq_ok_iff.2 hbs, hlen.trans ?_⟩
  decide

end BalancerV2

namespace Rfq

theorem reasoned_isApprovalNeeded (he : e.IsExact) (hcontext : context.IsExact) :
    (isApprovalNeeded e s context).Reasoned fun _ => True := by
  rw [isApprovalNeeded]
  split
  · exact Encode.reasoned_pure trivial
  · exact he.reasoned_isApprovalNeeded hcontext _

theorem reasoned_encodeWith {source : QuoteSource} {router : Address} {amount : Uint256}
    (hsource : source.IsReasoned) (hrouter : router.IsExact) (he : e.IsExact) (hs : s.IsExact)
    (hcontext : context.IsExact) :
    (encodeWith e source router amount s context).Reasoned IsShort := by
  refine (Encode.reasoned_ofExcept hs.tokenIn.reasoned_fieldBytes).bind fun tokenIn hin => ?_
  refine (Encode.reasoned_ofExcept hs.tokenOut.reasoned_fieldBytes).bind fun tokenOut hout => ?_
  refine (Encode.reasoned_ofExcept hcontext.receiver.reasoned_fieldBytes).bind
    fun receiver hreceiver => ?_
  have hrequest : (request s context router amount).IsExact :=
    ⟨hs.tokenIn, hs.tokenOut, hrouter, hcontext.receiver⟩
  refine (QuoteSource.reasoned_request hsource hrequest).bind fun quote hquote => ?_
  split
  · exact Encode.reasoned_fail
  next payload hpayload =>
    refine (reasoned_isApprovalNeeded he hcontext).bind fun approval _ => ?_
    obtain ⟨amountOut, hamount⟩ := Int.eq_ofNat_of_zero_le hquote.nonneg
    have hlt : amountOut < Nat.pow 256 32 := by
      have hlt := hquote.isLt
      rw [hamount] at hlt
      exact Int.ofNat_lt.1 hlt
    have hfield := Wire.exists_fixed hlt
    rw [hamount]
    refine (Encode.reasoned_ofExcept (reasoned_of_exists hfield)).bind fun field hfieldLen => ?_
    have hshort := hquote.short payloadName payload hpayload
    refine Encode.reasoned_pure ?_
    unfold IsShort swapLimit
    simp only [List.length_append, hin, hout, hreceiver, hfieldLen, List.length_cons,
      List.length_nil]
    omega

theorem reasoned_encode (he : e.IsExact) (hs : s.IsExact) (hcontext : context.IsExact) :
    (encode e s context).Reasoned IsShort := by
  rw [encode]
  split
  · exact Encode.reasoned_fail
  · split
    · exact Encode.reasoned_fail
    · exact Encode.reasoned_fail
    · exact Encode.reasoned_fail
    next source router amount hsource hrouter _ =>
      exact reasoned_encodeWith (he.quotes source hsource) (hcontext.router router hrouter) he hs
        hcontext

end Rfq

/-- **A swap is encoded or refused for a reason**, whatever its protocol. -/
theorem SwapEncoder.reasoned_encode (he : e.IsExact) (hs : s.IsExact) (hcontext : context.IsExact) :
    (e.encode s context).Reasoned IsShort := by
  rw [encode]
  cases e.venue with
  | uniswapV2 => exact Encode.reasoned_ofExcept (UniswapV2.reasoned_encode hs hcontext)
  | uniswapV3 => exact Encode.reasoned_ofExcept (UniswapV3.reasoned_encode hs hcontext)
  | slipstreams => exact Encode.reasoned_ofExcept (Slipstreams.reasoned_encode hs hcontext)
  | uniswapV4 => exact Encode.reasoned_ofExcept (UniswapV4.reasoned_encode hs hcontext)
  | balancerV2 => exact BalancerV2.reasoned_encode he hs hcontext
  | rfq => exact Rfq.reasoned_encode he hs hcontext

end SwapRouter
