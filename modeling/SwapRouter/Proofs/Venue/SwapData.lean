import SwapRouter.Proofs.Reason.Venue
import SwapRouter.Proofs.Venue.PoolSwap

/-!
# The data of a swap

A contract that executes a swap knows of it what its data hold.  Each family of protocols has a layout
of its own, four packed ones and one that is encoded as the arguments of a call, so the same fields
stand in different places.  For each layout this file has a record of what is read from it, and shows
that the data of a swap are read as a record that describes the swap.

A packed layout with a signed quote ends with what the market maker signed, which may be of any length;
everything in front has a fixed width, so what is left behind it is that text and nothing else.  The
arguments of a vault hold the id of the pool as a byte string of any length, and it is read with the
32 bytes that the id stands for.

The direction tells which of the two tokens is the smaller number.  A swap and its reversal thus differ
in it, unless they take and give the same token: then they are the same swap.

* `Rfq.SwapRecord`, `BalancerV2.SwapRecord`: what the data of the other two families hold.
* `Rfq.outcome_encode_eq_ok_iff`, `BalancerV2.outcome_encode_eq_ok_iff`: when their swaps are encoded,
  and as what.
* `SwapEncoder.ReadsBack`: the data of a swap are read as a record that describes it.
* `SwapEncoder.readsSwap`: **what is encoded is read back, a number that is too wide is refused, and
  the direction tells a swap from its reversal.**
-/

namespace SwapRouter

variable {e : SwapEncoder} {s : Swap} {context : SwapContext} {c : Circumstances} {bs : Bytes}

/-! ## Signed quotes -/

/-- Asking a source for a quote comes to its answer. -/
theorem QuoteSource.outcome_request (source : QuoteSource) (r : QuoteRequest) :
    (source.request r).outcome c = source.answer r := by
  cases source with
  | prepared name book => exact Encode.outcome_ofExcept (c := c.movedTo _) _
  | service service => exact Encode.outcome_ofExcept (c := c.movedTo _) _

namespace Rfq

/-- Whom a swap asks for a quote, and for which one; nobody if a part of the request is missing. -/
def request? (e : SwapEncoder) (s : Swap) (context : SwapContext) :
    Option (QuoteSource × QuoteRequest) := do
  let source ← e.quotes
  let router ← context.router
  let amount ← s.estimatedAmountIn
  return (source, request s context router amount)

theorem request?_eq_some_iff {source : QuoteSource} {req : QuoteRequest} :
    request? e s context = some (source, req) ↔ ∃ router amount, e.quotes = some source ∧
      context.router = some router ∧ s.estimatedAmountIn = some amount ∧
      request s context router amount = req := by
  constructor
  · intro h
    obtain ⟨source', hsource, h⟩ := Option.bind_eq_some_iff.1 h
    obtain ⟨router, hrouter, h⟩ := Option.bind_eq_some_iff.1 h
    obtain ⟨amount, hamount, h⟩ := Option.bind_eq_some_iff.1 h
    obtain ⟨rfl, hreq⟩ := Prod.mk.inj (Option.some.inj h)
    exact ⟨router, amount, hsource, hrouter, hamount, hreq⟩
  · rintro ⟨router, amount, hsource, hrouter, hamount, rfl⟩
    rw [request?, hsource, hrouter, hamount]
    rfl

/-- What the data of a swap hold in front of the signed text. -/
structure SwapHeader where
  tokenIn : { bs : Bytes // bs.length = 20 }
  tokenOut : { bs : Bytes // bs.length = 20 }
  transferType : TransferType
  isApprovalNeeded : Bool
  receiver : { bs : Bytes // bs.length = 20 }
  amountOut : Fin (Nat.pow 256 32)

/-- The fields one after the other. -/
def SwapHeader.codec : Codec SwapHeader :=
  ((Codec.field 20).pair <| (Codec.field 20).pair <| UniswapV4.transferCodec.pair <|
    UniswapV4.flagCodec.pair <| (Codec.field 20).pair (Codec.number 32)).map
    { toFun := fun (tokenIn, tokenOut, transferType, isApprovalNeeded, receiver, amountOut) =>
        ⟨tokenIn, tokenOut, transferType, isApprovalNeeded, receiver, amountOut⟩
      invFun := fun h => (h.tokenIn, h.tokenOut, h.transferType, h.isApprovalNeeded, h.receiver,
        h.amountOut)
      left_inv := fun _ => rfl
      right_inv := fun _ => rfl }

theorem SwapHeader.write_eq (h : SwapHeader) :
    codec.write h = h.tokenIn ++ h.tokenOut ++ [h.transferType.byte, Wire.flagByte h.isApprovalNeeded] ++
      h.receiver ++ Bytes.ofNat 32 h.amountOut := by
  simp only [List.append_assoc]
  rfl

/-- What the data of a swap hold: the header, and the signed text behind it. -/
structure SwapRecord where
  header : SwapHeader
  payload : Bytes

namespace SwapRecord

def write (r : SwapRecord) : Bytes := SwapHeader.codec.write r.header ++ r.payload

/-- Reads the header; what is left is the signed text. -/
def read? (bs : Bytes) : Option SwapRecord :=
  (SwapHeader.codec.read? bs).map fun (header, payload) => ⟨header, payload⟩

/-- **Data are read as what they are written for**, and as nothing else. -/
theorem read?_eq_some_iff {r : SwapRecord} : read? bs = some r ↔ bs = r.write := by
  rw [write, ← SwapHeader.codec.read?_eq_some_iff, read?, Option.map_eq_some_iff]
  constructor
  · rintro ⟨⟨header, payload⟩, hread, rfl⟩
    exact hread
  · exact fun hread => ⟨_, hread, rfl⟩

/-- A record says what a swap and its hop give, whether an approval is needed, and the amount and the
signed text of the quote that is answered. -/
structure Describes (r : SwapRecord) (e : SwapEncoder) (s : Swap) (context : SwapContext)
    (c : Circumstances) : Prop where
  tokenIn : s.tokenIn.StandsFor r.header.tokenIn
  tokenOut : s.tokenOut.StandsFor r.header.tokenOut
  transferType : r.header.transferType = context.transferType
  isApprovalNeeded : (isApprovalNeeded e s context).outcome c = .ok r.header.isApprovalNeeded
  receiver : context.receiver.StandsFor r.header.receiver
  quote : ∃ source request quote, request? e s context = some (source, request) ∧
    source.answer request = .ok quote ∧ quote.amountOut = r.header.amountOut.val ∧
    quote.attributes.lookup payloadName = some r.payload
  exactOut : context.exactOut = false

end SwapRecord

/-- **When a swap for a quote is encoded**: its request is complete and answered with a signed text, its
addresses are well formed, it is known whether an approval is needed, and the amount fits. -/
theorem outcome_encode_eq_ok_iff :
    (encode e s context).outcome c = .ok bs ↔ context.exactOut = false ∧
      ∃ source request quote payload tokenIn tokenOut receiver approval amountOut,
        request? e s context = some (source, request) ∧ source.answer request = .ok quote ∧
        quote.attributes.lookup payloadName = some payload ∧
        s.tokenIn.fieldBytes "token_in" = .ok tokenIn ∧
        s.tokenOut.fieldBytes "token_out" = .ok tokenOut ∧
        context.receiver.fieldBytes "receiver" = .ok receiver ∧
        (isApprovalNeeded e s context).outcome c = .ok approval ∧
        Wire.fixed 32 quote.amountOut = .ok amountOut ∧
        tokenIn ++ tokenOut ++ [context.transferType.byte, Wire.flagByte approval] ++ receiver ++
          amountOut ++ payload = bs := by
  constructor
  · intro h
    unfold encode at h
    split at h
    · cases h
    next hexact =>
      refine ⟨Bool.eq_false_iff.2 hexact, ?_⟩
      split at h
      · cases h
      · cases h
      · cases h
      next source router amount hsource hrouter hamount =>
        obtain ⟨tokenIn, htokenIn, h⟩ := Encode.outcome_bind_eq_ok_iff.1 h
        obtain ⟨tokenOut, htokenOut, h⟩ := Encode.outcome_bind_eq_ok_iff.1 h
        obtain ⟨receiver, hreceiver, h⟩ := Encode.outcome_bind_eq_ok_iff.1 h
        obtain ⟨quote, hquote, h⟩ := Encode.outcome_bind_eq_ok_iff.1 h
        rw [Encode.outcome_ofExcept] at htokenIn htokenOut hreceiver
        rw [QuoteSource.outcome_request] at hquote
        split at h
        · cases h
        next payload hpayload =>
          obtain ⟨approval, happroval, h⟩ := Encode.outcome_bind_eq_ok_iff.1 h
          obtain ⟨amountOut, hamountOut, h⟩ := Encode.outcome_bind_eq_ok_iff.1 h
          rw [Encode.outcome_ofExcept] at hamountOut
          have hrequest : request? e s context = some (source, request s context router amount) :=
            request?_eq_some_iff.2 ⟨router, amount, hsource, hrouter, hamount, rfl⟩
          exact ⟨source, _, quote, payload, tokenIn, tokenOut, receiver, approval, amountOut, hrequest,
            hquote, hpayload, htokenIn, htokenOut, hreceiver, happroval, hamountOut,
            Except.ok.inj h⟩
  · rintro ⟨hexact, source, req, quote, payload, tokenIn, tokenOut, receiver, approval, amountOut,
      hrequest, hquote, hpayload, htokenIn, htokenOut, hreceiver, happroval, hamountOut, rfl⟩
    obtain ⟨router, amount, hsource, hrouter, hamount, rfl⟩ := request?_eq_some_iff.1 hrequest
    rw [encode, hexact, if_neg Bool.false_ne_true, hsource, hrouter, hamount]
    refine Encode.outcome_bind_eq_ok_iff.2 ⟨tokenIn, by rw [Encode.outcome_ofExcept, htokenIn], ?_⟩
    refine Encode.outcome_bind_eq_ok_iff.2 ⟨tokenOut, by rw [Encode.outcome_ofExcept, htokenOut], ?_⟩
    refine Encode.outcome_bind_eq_ok_iff.2 ⟨receiver, by rw [Encode.outcome_ofExcept, hreceiver], ?_⟩
    refine Encode.outcome_bind_eq_ok_iff.2 ⟨quote, by rw [QuoteSource.outcome_request, hquote], ?_⟩
    rw [hpayload]
    refine Encode.outcome_bind_eq_ok_iff.2 ⟨approval, happroval, ?_⟩
    exact Encode.outcome_bind_eq_ok_iff.2 ⟨amountOut, by rw [Encode.outcome_ofExcept, hamountOut], rfl⟩

/-- **A swap for a quote is encoded as the record that describes it.** -/
theorem outcome_encode_eq_ok_iff_describes (hin : s.tokenIn.IsExact) (hout : s.tokenOut.IsExact)
    (hreceiver : context.receiver.IsExact) :
    (encode e s context).outcome c = .ok bs ↔
      ∃ r : SwapRecord, r.Describes e s context c ∧ r.write = bs := by
  rw [outcome_encode_eq_ok_iff]
  constructor
  · rintro ⟨hexact, source, req, quote, payload, tokenIn, tokenOut, receiver, approval, amountOut,
      hrequest, hquote, hpayload, htokenIn, htokenOut, hreceived, happroval, hamountOut, rfl⟩
    obtain ⟨⟨hnonneg, hlt⟩, rfl⟩ := Wire.fixed_eq_ok_iff.1 hamountOut
    have hin' := hin.standsFor htokenIn
    have hout' := hout.standsFor htokenOut
    have hreceiver' := hreceiver.standsFor hreceived
    refine ⟨⟨⟨⟨tokenIn, hin'.2⟩, ⟨tokenOut, hout'.2⟩, context.transferType, approval,
      ⟨receiver, hreceiver'.2⟩, ⟨quote.amountOut.toNat, hlt⟩⟩, payload⟩, ⟨hin', hout', rfl, happroval,
      hreceiver', ⟨source, req, quote, hrequest, hquote, (Int.toNat_of_nonneg hnonneg).symm,
        hpayload⟩, hexact⟩, ?_⟩
    rw [SwapRecord.write, SwapHeader.write_eq]
  · rintro ⟨r, hr, rfl⟩
    obtain ⟨source, req, quote, hrequest, hquote, hamount, hpayload⟩ := hr.quote
    refine ⟨hr.exactOut, source, req, quote, r.payload, r.header.tokenIn, r.header.tokenOut,
      r.header.receiver, r.header.isApprovalNeeded, Bytes.ofNat 32 r.header.amountOut, hrequest, hquote,
      hpayload, (Address.fieldBytes_eq_ok_iff hin).2 hr.tokenIn,
      (Address.fieldBytes_eq_ok_iff hout).2 hr.tokenOut,
      (Address.fieldBytes_eq_ok_iff hreceiver).2 hr.receiver, hr.isApprovalNeeded, ?_, ?_⟩
    · rw [hamount, Wire.fixed_eq_ok_iff, Int.toNat_natCast]
      exact ⟨⟨Int.natCast_nonneg _, r.header.amountOut.isLt⟩, rfl⟩
    · rw [← hr.transferType, SwapRecord.write, SwapHeader.write_eq]

end Rfq

/-! ## Vaults -/

namespace BalancerV2

/-- The id of a pool is accepted and has digits alone. -/
structure IsPoolId (id : String) : Prop where
  accepted : (poolId id).toOption.isSome = true
  digits : hasHexDigits id = true

theorem IsPoolId.length_eq {id : String} (h : IsPoolId id) (hbs : poolId id = .ok bs) :
    bs.length = 32 := by
  have hfixed := isFixed_poolId_iff.2 fun _ => h.digits
  rw [hbs] at hfixed
  exact hfixed

/-- What the data of a swap hold. -/
structure SwapRecord where
  tokenIn : { bs : Bytes // bs.length = 20 }
  tokenOut : { bs : Bytes // bs.length = 20 }
  pool : { bs : Bytes // bs.length = 32 }
  receiver : { bs : Bytes // bs.length = 20 }
  exactOut : Bool
  isApprovalNeeded : Bool

namespace SwapRecord

/-- The arguments that the fields are. -/
def arguments (r : SwapRecord) : List AbiValue :=
  [.bytes r.tokenIn, .bytes r.tokenOut, .bytes r.pool, .bytes r.receiver, .flag r.exactOut,
    .flag r.isApprovalNeeded]

def write (r : SwapRecord) : Except Failure Bytes := Abi.encodeAll dataTypes r.arguments

/-- Decodes the arguments, and takes them for the fields if their widths are right. -/
def read? (bs : Bytes) : Option SwapRecord :=
  match Abi.decodeAll? dataTypes bs with
  | some [.bytes tokenIn, .bytes tokenOut, .bytes pool, .bytes receiver, .flag exactOut,
      .flag isApprovalNeeded] =>
    if h : (tokenIn.length = 20 ∧ tokenOut.length = 20) ∧ pool.length = 32 ∧ receiver.length = 20 then
      some ⟨⟨tokenIn, h.1.1⟩, ⟨tokenOut, h.1.2⟩, ⟨pool, h.2.1⟩, ⟨receiver, h.2.2⟩, exactOut,
        isApprovalNeeded⟩
    else none
  | _ => none

/-- **Every record is written, and read back.** -/
theorem exists_write (r : SwapRecord) : ∃ bs, r.write = .ok bs ∧ read? bs = some r := by
  have hslot : Abi.slot ≤ 96 := by decide
  have hpool : Abi.Fits 96 .bytes (.bytes r.pool) := by
    have hlen := r.pool.property
    exact (Abi.fits_bytes (hlen.trans_lt (by decide))).mono (by rw [Abi.slot]; omega)
  have hfits : List.Forall₂ (Abi.Fits 96) dataTypes r.arguments :=
    .cons ((Abi.fits_address r.tokenIn.property).mono hslot)
      (.cons ((Abi.fits_address r.tokenOut.property).mono hslot) (.cons hpool
        (.cons ((Abi.fits_address r.receiver.property).mono hslot)
          (.cons ((Abi.fits_bool _).mono hslot) (.cons ((Abi.fits_bool _).mono hslot) .nil)))))
  obtain ⟨bs, hbs, -⟩ := Abi.exists_encodeAll? hfits (by decide)
  have hread := Abi.decodeAll?_encodeAll? rfl hbs []
  rw [List.append_nil] at hread
  refine ⟨bs, Abi.encodeAll_eq_ok_iff.2 hbs, ?_⟩
  rw [read?, hread]
  exact dif_pos ⟨⟨r.tokenIn.property, r.tokenOut.property⟩, r.pool.property, r.receiver.property⟩

/-- A record says what a swap and its hop give, and whether an approval is needed. -/
structure Describes (r : SwapRecord) (e : SwapEncoder) (s : Swap) (context : SwapContext)
    (c : Circumstances) : Prop where
  tokenIn : s.tokenIn.StandsFor r.tokenIn
  tokenOut : s.tokenOut.StandsFor r.tokenOut
  pool : poolId s.pool.id = .ok r.pool
  receiver : context.receiver.StandsFor r.receiver
  exactOut : r.exactOut = context.exactOut
  isApprovalNeeded : (e.isApprovalNeeded s context "vault_address").outcome c = .ok r.isApprovalNeeded

end SwapRecord

/-- **A swap in a vault is encoded as the record that describes it.** -/
theorem outcome_encode_eq_ok_iff (hin : s.tokenIn.IsExact) (hout : s.tokenOut.IsExact)
    (hpool : IsPoolId s.pool.id) (hreceiver : context.receiver.IsExact) :
    (encode e s context).outcome c = .ok bs ↔
      ∃ r : SwapRecord, r.Describes e s context c ∧ r.write = .ok bs := by
  constructor
  · intro h
    obtain ⟨tokenIn, htokenIn, h⟩ := Encode.outcome_bind_eq_ok_iff.1 h
    obtain ⟨tokenOut, htokenOut, h⟩ := Encode.outcome_bind_eq_ok_iff.1 h
    obtain ⟨receiver, hreceived, h⟩ := Encode.outcome_bind_eq_ok_iff.1 h
    obtain ⟨pool, hpools, h⟩ := Encode.outcome_bind_eq_ok_iff.1 h
    obtain ⟨approval, happroval, h⟩ := Encode.outcome_bind_eq_ok_iff.1 h
    rw [Encode.outcome_ofExcept] at htokenIn htokenOut hreceived h
    rw [Encode.outcome_require_eq_ok_iff] at hpools
    have hin' := hin.standsFor htokenIn
    have hout' := hout.standsFor htokenOut
    have hreceiver' := hreceiver.standsFor hreceived
    exact ⟨⟨⟨tokenIn, hin'.2⟩, ⟨tokenOut, hout'.2⟩, ⟨pool, hpool.length_eq hpools⟩,
      ⟨receiver, hreceiver'.2⟩, context.exactOut, approval⟩,
      ⟨hin', hout', hpools, hreceiver', rfl, happroval⟩, h⟩
  · rintro ⟨r, hr, hwrite⟩
    have htokenIn : s.tokenIn.fieldBytes "token_in" = .ok r.tokenIn :=
      (Address.fieldBytes_eq_ok_iff hin).2 hr.tokenIn
    have htokenOut : s.tokenOut.fieldBytes "token_out" = .ok r.tokenOut :=
      (Address.fieldBytes_eq_ok_iff hout).2 hr.tokenOut
    have hreceived : context.receiver.fieldBytes "receiver" = .ok r.receiver :=
      (Address.fieldBytes_eq_ok_iff hreceiver).2 hr.receiver
    refine Encode.outcome_bind_eq_ok_iff.2 ⟨_, (Encode.outcome_ofExcept _).trans htokenIn, ?_⟩
    refine Encode.outcome_bind_eq_ok_iff.2 ⟨_, (Encode.outcome_ofExcept _).trans htokenOut, ?_⟩
    refine Encode.outcome_bind_eq_ok_iff.2 ⟨_, (Encode.outcome_ofExcept _).trans hreceived, ?_⟩
    refine Encode.outcome_bind_eq_ok_iff.2 ⟨_, Encode.outcome_require_eq_ok_iff.2 hr.pool, ?_⟩
    refine Encode.outcome_bind_eq_ok_iff.2 ⟨_, hr.isApprovalNeeded, ?_⟩
    rw [Encode.outcome_ofExcept, ← hr.exactOut]
    exact hwrite

end BalancerV2

/-! ## All families -/

/-- The attribute of a pool that a family writes as a number. -/
def Venue.numberName? : Venue → Option String
  | .uniswapV3 => some "fee"
  | .slipstreams => some "tick_spacing"
  | _ => none

/-- Whether the data of a family hold a direction for each swap. -/
def Venue.hasDirection : Venue → Bool
  | .uniswapV2 | .uniswapV3 | .slipstreams => true
  | _ => false

/-- The direction that is read from the data of a swap. -/
def Venue.direction? : Venue → Bytes → Option Bool
  | .uniswapV2, bs => (UniswapV2.SwapRecord.codec.readAll? bs).map (·.isAscending)
  | .uniswapV3, bs => (UniswapV3.codec.readAll? bs).map (·.isAscending)
  | .slipstreams, bs => (Slipstreams.codec.readAll? bs).map (·.isAscending)
  | _, _ => none

/-- A swap that takes what another one gives, and gives what that one takes. -/
def Swap.reversed (s : Swap) : Swap := { s with tokenIn := s.tokenOut, tokenOut := s.tokenIn }

namespace SwapEncoder

/-- The addresses of a swap and its hop have digits alone, and so has what its family takes for the
pool. -/
structure IsSpelledOut (e : SwapEncoder) (s : Swap) (context : SwapContext) : Prop where
  tokenIn : s.tokenIn.IsExact
  tokenOut : s.tokenOut.IsExact
  receiver : context.receiver.IsExact
  address : e.venue.hasDirection = true → (Address.mk s.pool.id).IsExact
  poolId : e.venue = .balancerV2 → BalancerV2.IsPoolId s.pool.id

/-- The data of a swap are read, in the layout of its family, as a record that describes the swap.  The
pools that a single manager runs have no such layout, as their data are those of a group. -/
def ReadsBack (e : SwapEncoder) (s : Swap) (context : SwapContext) (c : Circumstances) (bs : Bytes) :
    Prop :=
  match e.venue with
  | .uniswapV2 => ∃ r, UniswapV2.SwapRecord.codec.readAll? bs = some r ∧ r.Describes s context
  | .uniswapV3 => ∃ r, UniswapV3.codec.readAll? bs = some r ∧ r.Describes "fee" s context
  | .slipstreams => ∃ r, Slipstreams.codec.readAll? bs = some r ∧ r.Describes "tick_spacing" s context
  | .rfq => ∃ r, Rfq.SwapRecord.read? bs = some r ∧ r.Describes e s context c
  | .balancerV2 => ∃ r, BalancerV2.SwapRecord.read? bs = some r ∧ r.Describes e s context c
  | .uniswapV4 => False

/-- **What is encoded is read back.** -/
theorem readsBack_of_encode (hvenue : e.venue ≠ .uniswapV4) (h : e.IsSpelledOut s context)
    (hbs : (e.encode s context).outcome c = .ok bs) : e.ReadsBack s context c bs := by
  have haddress := h.address
  unfold encode at hbs
  unfold ReadsBack
  cases hfamily : e.venue with
  | uniswapV2 =>
    rw [hfamily] at hbs haddress
    obtain ⟨r, hr, hwrite⟩ := (UniswapV2.encode_eq_ok_iff h.tokenIn h.tokenOut (haddress rfl)
      h.receiver).1 ((Encode.outcome_ofExcept _).symm.trans hbs)
    exact ⟨r, Codec.readAll?_eq_some_iff.2 hwrite.symm, hr⟩
  | uniswapV3 =>
    rw [hfamily] at hbs haddress
    obtain ⟨r, hr, hwrite⟩ := (UniswapV3.encode_eq_ok_iff h.tokenIn h.tokenOut (haddress rfl)
      h.receiver).1 ((Encode.outcome_ofExcept _).symm.trans hbs)
    exact ⟨r, Codec.readAll?_eq_some_iff.2 hwrite.symm, hr⟩
  | slipstreams =>
    rw [hfamily] at hbs haddress
    obtain ⟨r, hr, hwrite⟩ := (Slipstreams.encode_eq_ok_iff h.tokenIn h.tokenOut (haddress rfl)
      h.receiver).1 ((Encode.outcome_ofExcept _).symm.trans hbs)
    exact ⟨r, Codec.readAll?_eq_some_iff.2 hwrite.symm, hr⟩
  | uniswapV4 => exact absurd hfamily hvenue
  | balancerV2 =>
    rw [hfamily] at hbs
    obtain ⟨r, hr, hwrite⟩ := (BalancerV2.outcome_encode_eq_ok_iff h.tokenIn h.tokenOut
      (h.poolId hfamily) h.receiver).1 hbs
    obtain ⟨bs', hbs', hread⟩ := r.exists_write
    obtain rfl := Except.ok.inj (hwrite.symm.trans hbs')
    exact ⟨r, hread, hr⟩
  | rfq =>
    rw [hfamily] at hbs
    obtain ⟨r, hr, hwrite⟩ := (Rfq.outcome_encode_eq_ok_iff_describes h.tokenIn h.tokenOut
      h.receiver).1 hbs
    exact ⟨r, Rfq.SwapRecord.read?_eq_some_iff.2 hwrite.symm, hr⟩

/-- **A number that is too wide is refused**, and this is fatal. -/
theorem outcome_encode_of_le (h : e.IsSpelledOut s context) {name : String} {value : Bytes}
    (hname : e.venue.numberName? = some name) (hvalue : s.pool.attributes.lookup name = some value)
    (hle : Nat.pow 256 3 ≤ Bytes.toNat value) :
    (e.encode s context).outcome c = .error (.encoding (.valueTooWide value 3)) := by
  have hnumber : s.poolNumber name 3 = .error (.encoding (.valueTooWide value 3)) :=
    Swap.poolNumber_of_le hvalue hle
  obtain ⟨tokenIn, htokenIn⟩ := h.tokenIn.exists_standsFor
  obtain ⟨tokenOut, htokenOut⟩ := h.tokenOut.exists_standsFor
  have hin : s.tokenIn.fieldBytes "token_in" = .ok tokenIn :=
    (Address.fieldBytes_eq_ok_iff h.tokenIn).2 htokenIn
  have hout : s.tokenOut.fieldBytes "token_out" = .ok tokenOut :=
    (Address.fieldBytes_eq_ok_iff h.tokenOut).2 htokenOut
  have haddress := h.address
  unfold encode
  cases hfamily : e.venue with
  | uniswapV3 =>
    rw [hfamily] at hname
    obtain rfl := Option.some.inj hname
    rw [Encode.outcome_ofExcept, UniswapV3.encode, hin, hout, hnumber]
    rfl
  | slipstreams =>
    rw [hfamily] at hname haddress
    obtain rfl := Option.some.inj hname
    obtain ⟨pool, hpool⟩ := (haddress rfl).exists_standsFor
    have hpools : s.poolBytes = .ok pool := (Address.fieldBytes_eq_ok_iff (haddress rfl)).2 hpool
    rw [Encode.outcome_ofExcept, Slipstreams.encode, hin, hout, hpools, hnumber]
    rfl
  | uniswapV2 | uniswapV4 | balancerV2 | rfq =>
    rw [hfamily] at hname
    cases hname

/-- The direction of a swap that is read back tells whether its input is the smaller number. -/
theorem ReadsBack.exists_direction (h : e.ReadsBack s context c bs)
    (hvenue : e.venue.hasDirection = true) :
    ∃ d, e.venue.direction? bs = some d ∧ (d = true ↔ s.IsAscending) := by
  unfold ReadsBack at h
  cases hfamily : e.venue with
  | uniswapV2 | uniswapV3 | slipstreams =>
    rw [hfamily] at h
    obtain ⟨r, hread, hr⟩ := h
    exact ⟨r.isAscending, by rw [Venue.direction?, hread]; rfl, hr.direction⟩
  | uniswapV4 | balancerV2 | rfq =>
    rw [hfamily] at hvenue
    cases hvenue

end SwapEncoder

/-- One of a swap and its reversal has the smaller number as its input, unless both tokens are the
same. -/
theorem Swap.isAscending_reversed_iff (hin : s.tokenIn.IsExact) (hout : s.tokenOut.IsExact) :
    ¬ (s.IsAscending ↔ s.reversed.IsAscending) ↔ s.tokenIn.toBytes ≠ s.tokenOut.toBytes := by
  obtain ⟨tokenIn, htokenIn⟩ := hin.exists_standsFor
  obtain ⟨tokenOut, htokenOut⟩ := hout.exists_standsFor
  have hswap : s.IsAscending ↔ Bytes.toNat tokenIn < Bytes.toNat tokenOut := by
    rw [← isBefore_iff_isAscending htokenIn htokenOut,
      Bytes.isBefore_iff_toNat_lt (htokenIn.2.trans htokenOut.2.symm)]
  have hreversed : s.reversed.IsAscending ↔ Bytes.toNat tokenOut < Bytes.toNat tokenIn := by
    rw [← isBefore_iff_isAscending (s := s.reversed) htokenOut htokenIn,
      Bytes.isBefore_iff_toNat_lt (htokenOut.2.trans htokenIn.2.symm)]
  have hsame : s.tokenIn.toBytes = s.tokenOut.toBytes ↔ Bytes.toNat tokenIn = Bytes.toNat tokenOut := by
    rw [htokenIn.1, htokenOut.1, Except.ok.injEq]
    exact ⟨congrArg Bytes.toNat, Bytes.toNat_injective (htokenIn.2.trans htokenOut.2.symm)⟩
  rw [hswap, hreversed, ne_eq, hsame]
  omega

/-- **The data of a swap.**  Where the addresses and the id of the pool have digits alone, what is encoded
is read back as a record that describes the swap; a fee or a tick spacing that needs more than three
bytes is refused, which is fatal; and the direction of a swap is another one than that of its reversal
exactly if the two tokens are not the same. -/
theorem SwapEncoder.readsSwap (hvenue : e.venue ≠ .uniswapV4) (h : e.IsSpelledOut s context) :
    (∀ c bs, (e.encode s context).outcome c = .ok bs → e.ReadsBack s context c bs) ∧
      (∀ name value, e.venue.numberName? = some name → s.pool.attributes.lookup name = some value →
        Nat.pow 256 3 ≤ Bytes.toNat value → ∀ c, ∃ error : EncodingError,
          (e.encode s context).outcome c = .error (.encoding error) ∧ error.kind = .fatal) ∧
      (e.venue.hasDirection = true → ∀ context' c c' bs bs', context'.receiver.IsExact →
        (e.encode s context).outcome c = .ok bs →
        (e.encode s.reversed context').outcome c' = .ok bs' →
          (e.venue.direction? bs ≠ e.venue.direction? bs' ↔ s.tokenIn.toBytes ≠ s.tokenOut.toBytes)) := by
  refine ⟨fun c bs hbs => readsBack_of_encode hvenue h hbs, ?_, ?_⟩
  · intro name value hname hvalue hle c
    exact ⟨_, outcome_encode_of_le h hname hvalue hle, rfl⟩
  · intro hdirection context' c c' bs bs' hreceiver hbs hbs'
    have hreversed : e.IsSpelledOut s.reversed context' :=
      ⟨h.tokenOut, h.tokenIn, hreceiver, h.address, h.poolId⟩
    obtain ⟨d, hd, hiff⟩ := (readsBack_of_encode hvenue h hbs).exists_direction hdirection
    obtain ⟨d', hd', hiff'⟩ := (readsBack_of_encode hvenue hreversed hbs').exists_direction hdirection
    rw [hd, hd', ← Swap.isAscending_reversed_iff h.tokenIn h.tokenOut, ← hiff, ← hiff', ne_eq,
      Option.some_inj, Bool.eq_iff_iff]

namespace Sample

/-- A pool with a fee of 500, which its attribute holds in two bytes. -/
def tieredUsdcWeth : Pool where
  id := "0x88e6a0c2ddd26feeb64f039a2c41296fcb3f5640"
  protocol := "uniswap_v3"
  tokens := [usdc, weth]
  attributes := [("fee", [0x01, 0xf4])]

/-- An encoder for pools with a fee tier. -/
def tierEncoder : SwapEncoder := ⟨.uniswapV3, executor, .ethereum, [], none, none⟩

/-- An encoder for pools with a constant product. -/
def productEncoder : SwapEncoder := ⟨.uniswapV2, executor, .ethereum, [], none, none⟩

/-- A hop from the router to the user. -/
def userContext : SwapContext := ⟨user, false, some router, .transfer, router, weth, usdc, none⟩

/-- A sale of the greater token for the smaller one, at a fee of 500. -/
example :
    ((UniswapV3.encode (swap tieredUsdcWeth weth usdc) userContext).toOption.bind
      UniswapV3.codec.readAll?).map (fun r => (r.number.val, r.isAscending, r.transferType)) =
      some (500, false, .transfer) := by
  decide +kernel

theorem readsSwap_tieredUsdcWeth : ∃ bs,
    (tierEncoder.venue ≠ .uniswapV4 ∧
      tierEncoder.IsSpelledOut (swap tieredUsdcWeth weth usdc) userContext) ∧
    (tierEncoder.encode (swap tieredUsdcWeth weth usdc) userContext).outcome {} = .ok bs ∧
    tierEncoder.ReadsBack (swap tieredUsdcWeth weth usdc) userContext {} bs := by
  have hpool : (Address.mk tieredUsdcWeth.id).IsExact := ⟨by decide +kernel, by decide +kernel⟩
  have hplain : tierEncoder.IsSpelledOut (swap tieredUsdcWeth weth usdc) userContext :=
    ⟨isExact_of_mem_tokens (by decide), isExact_of_mem_tokens (by decide),
      isExact_of_mem_tokens (by decide), fun _ => hpool, fun h => by cases h⟩
  have hrun : ((tierEncoder.encode (swap tieredUsdcWeth weth usdc) userContext).outcome
      {}).toOption.isSome = true := by
    decide +kernel
  obtain ⟨bs, hbs⟩ := exists_eq_ok_of_isSome hrun
  exact ⟨bs, ⟨by decide, hplain⟩, hbs, (SwapEncoder.readsSwap (by decide) hplain).1 {} bs hbs⟩

/-- A sale of a token for itself is its own reversal, and keeps its direction. -/
theorem not_differs_selfSwap :
    ¬ ∀ (e : SwapEncoder) (s : Swap) (context : SwapContext) (bs bs' : Bytes),
      e.IsSpelledOut s context → e.venue.hasDirection = true →
        (e.encode s context).outcome {} = .ok bs →
        (e.encode s.reversed context).outcome {} = .ok bs' →
          e.venue.direction? bs ≠ e.venue.direction? bs' := by
  intro h
  have hpool : (Address.mk usdcWeth.id).IsExact := ⟨by decide +kernel, by decide +kernel⟩
  have hplain : productEncoder.IsSpelledOut (swap usdcWeth weth weth) userContext :=
    ⟨isExact_of_mem_tokens (by decide), isExact_of_mem_tokens (by decide),
      isExact_of_mem_tokens (by decide), fun _ => hpool, fun h => by cases h⟩
  have hrun : ((productEncoder.encode (swap usdcWeth weth weth) userContext).outcome
      {}).toOption.isSome = true := by
    decide +kernel
  obtain ⟨bs, hbs⟩ := exists_eq_ok_of_isSome hrun
  exact h productEncoder (swap usdcWeth weth weth) userContext bs bs hplain rfl hbs hbs rfl

end Sample

end SwapRouter
