import SwapRouter.Proofs.LeastAmount
import SwapRouter.Proofs.Permit.Binding
import SwapRouter.Proofs.Reason.Outside
import SwapRouter.Proofs.Route.TokenTable

/-!
# The two forms of a transaction

The transaction of an order either calls the router or holds the encoded swaps alone.  Both forms go
the same way up to the last step: the router is picked, a function is chosen and the swaps are encoded
without a look at the form.  What the call adds are its arguments, so the question is which of them can
fail once the swaps are there.

The amounts are numbers of 256 bits, and the least amount is one as well.  The three addresses of the
order have twenty bytes.  The number of tokens is bounded by the length of the swaps, since every group
is a chunk among them.  A permit has been signed by then, and what is signed are its fields in the very
types in which the call writes them.  The slippage is left: nothing but the least amount depends on it,
so nobody looks at it where the swaps stand alone.

* `Permit.fits_tuple`: a permit that is signed is encoded.
* `EncodedOrder.exists_callData`: **the call of an encoded order is written** unless its slippage is out
  of range.
* `RouterEncoder.modesAgree`: **an order is encoded with a call exactly if it is encoded without one
  and its slippage is in range**, and the call takes what the other form holds.
-/

namespace SwapRouter

variable {r : RouterEncoder} {t : Strategies} {f : RouterFunction} {order : Order} {router : Address}
  {approvals : Option ApprovalSource} {c : Circumstances} {e : EncodedOrder} {tx : Transaction}

namespace Order

/-- The order as one that calls the router. -/
def calling (order : Order) : Order := { order with withCall := true }

/-- The order as one for the encoded swaps alone. -/
def bare (order : Order) : Order := { order with withCall := false }

/-- The slippage of an order is at least zero and less than one, if it has one. -/
def HasSlippageInRange (order : Order) : Prop :=
  ∀ x ∈ order.slippage, (Binary64.zero false).le x = true ∧ x.lt .one = true

end Order

/-! ## The permit -/

namespace Permit

variable {chain : Chain} {token spender digest : Bytes} {amount expiration nonce deadline : ℤ}

/-- **A permit that is signed is encoded**: its fields have been encoded for the signature. -/
theorem fits_tuple
    (h : digestOf? chain (tuple token amount expiration nonce spender deadline) = some digest) :
    Abi.Fits (6 * Abi.slot) Abi.permitAbi (tuple token amount expiration nonce spender deadline) := by
  obtain ⟨details, hdetails, h⟩ := Option.bind_eq_some_iff.1 h
  obtain ⟨fields, hfields, -⟩ := Option.bind_eq_some_iff.1 h
  obtain ⟨values, parts, -, -, hvalues, hparts, -⟩ := Abi.encode?_tuple_eq_some_iff.1 hfields
  cases hvalues
  obtain ⟨_, _, _, _, hvalues, hspender, hparts, -⟩ := Abi.parts?_cons_eq_some_iff.1 hparts
  cases hvalues
  obtain ⟨_, _, _, _, hvalues, hdeadline, -⟩ := Abi.parts?_cons_eq_some_iff.1 hparts
  cases hvalues
  have hsize {ty : AbiType} {v : AbiValue} {bs : Bytes} (hreads : ty.readsBack = true)
      (hstatic : Abi.isDynamic ty = false) (hle : Abi.staticSize ty ≤ 6 * Abi.slot)
      (hbs : Abi.encode? ty v = some bs) : Abi.Fits (6 * Abi.slot) ty v :=
    ⟨bs, hbs, (Abi.length_encode? ty hreads hstatic hbs).trans_le hle⟩
  have hall := Abi.exists_encodeAll?
    (.cons (hsize rfl rfl (by decide) hdetails) <| .cons (hsize rfl rfl (by decide) hspender) <|
      .cons (hsize rfl rfl (by decide) hdeadline) .nil) (by decide)
  obtain ⟨bs, hbs, -⟩ := hall
  exact hsize rfl rfl (by decide) hbs

end Permit

/-- **An encoded order has a permit that is encoded**, or a flag in its place. -/
theorem exists_permission (he : (t.encodeFor f order router approvals).outcome c = .ok e)
    (hgiven : order.givenToken.IsExact) (hrouter : e.router.isWellFormed = true) :
    ∃ permission : List AbiValue,
      (if t.usesPermit order then
        ∃ permit signature value, e.permit = some permit ∧ e.permitSignature = some signature ∧
          permit.toAbi = .ok value ∧ permission = [value, .bytes signature]
      else permission = [.flag (order.nativeAction ≠ some .wrap)]) ∧
      List.Forall₂ (Abi.Fits (6 * Abi.slot))
        (if t.usesPermit order then [Abi.permitAbi, .bytes] else [.bool]) permission := by
  cases huses : t.usesPermit order with
  | false => exact ⟨_, rfl, .cons ((Abi.fits_bool _).mono (by decide)) .nil⟩
  | true =>
    obtain ⟨signer, hsigner⟩ : ∃ signer, t.signer = some signer := by
      rw [Strategies.usesPermit, Bool.and_eq_true] at huses
      exact Option.isSome_iff_exists.1 huses.1
    obtain ⟨p, signature, hp, hsignature, hsame, hpermit, hpermitSignature⟩ :=
      RouterEncoder.exists_permit_of_encodeFor hsigner
        ((Strategies.usesPermit_iff hsigner).1 huses) he
    obtain ⟨-, -, nonce, start, -, -, hfields⟩ := Signer.outcome_permit_eq_ok_iff.1 hp
    have htoken : p.details.token.isWellFormed = true := by
      rw [hfields]
      exact hgiven.normal.wellFormed
    have hspender : p.spender.isWellFormed = true := by
      rw [hsame] at hrouter
      rw [hfields]
      exact Address.isWellFormed_normal hrouter
    obtain ⟨token, spender, -, -, -, habi, digest, found, hdigest, -, hfound⟩ :=
      Signer.exists_tuple_of_sign hsignature htoken hspender
    have hlen : signature.length = 65 := by rw [hfound, found.length_toBytes]
    have hsigned : Abi.Fits (6 * Abi.slot) .bytes (.bytes signature) :=
      (Abi.fits_bytes (by rw [hlen]; decide)).mono (by rw [hlen]; decide)
    exact ⟨_, ⟨p, signature, _, hpermit, hpermitSignature, habi, rfl⟩,
      .cons (Permit.fits_tuple hdigest) (.cons hsigned .nil)⟩

/-! ## The number of tokens -/

/-- Every chunk takes two bytes, at least. -/
theorem Wire.two_mul_length_le_of_join {bodies : List Bytes} {bs : Bytes}
    (h : join bodies = .ok bs) : 2 * bodies.length ≤ bs.length := by
  induction bodies generalizing bs with
  | nil => exact Nat.zero_le _
  | cons body bodies ih =>
    obtain ⟨first, hfirst, h⟩ := bind_eq_ok_iff.1 h
    obtain ⟨others, hothers, h⟩ := bind_eq_ok_iff.1 h
    cases h
    obtain ⟨-, rfl⟩ := chunk_eq_ok_iff.1 hfirst
    have hrest := ih hothers
    rw [List.length_append, List.length_append, Bytes.length_ofNat, List.length_cons]
    omega

theorem length_of_splitHeaders {table : List Address} {groups : List SwapGroup}
    {headers : List Bytes} (h : Strategies.splitHeaders table groups = .ok headers) :
    headers.length = groups.length := by
  induction groups generalizing headers with
  | nil => cases h; rfl
  | cons g groups ih =>
    obtain ⟨first, -, h⟩ := bind_eq_ok_iff.1 h
    obtain ⟨others, hothers, h⟩ := bind_eq_ok_iff.1 h
    cases h
    rw [List.length_cons, List.length_cons, ih hothers]

/-- **The tokens of an encoded order are no more than its bytes**, but for the two ends. -/
theorem exists_tokenCount (he : (t.encodeFor f order router approvals).outcome c = .ok e) :
    ∃ swaps count, t.IsFinished f order swaps count e ∧ (count = 0 ↔ f ≠ .split) ∧
      count ≤ e.swaps.length + 2 := by
  by_cases hf : f = .split
  · subst hf
    obtain ⟨-, -, headers, hops, swaps, hheaders, hlen, hjoin, hfinished⟩ :=
      Strategies.exists_of_encodeSplit he
    refine ⟨swaps, _, hfinished, iff_of_false ?_ fun hne => hne rfl, ?_⟩
    · exact Strategies.tokenCount_ne_zero t.config.chain order _
    · have hchunks := Wire.two_mul_length_le_of_join hjoin
      have hheaderLen := length_of_splitHeaders hheaders
      have htable := Route.length_tokenTable_le t.config.chain order
        (Route.group t.config.capabilities order.swaps)
      have hcount : Route.tokenCount order (Route.tokenTable t.config.chain order
          (Route.group t.config.capabilities order.swaps)) ≤ (Route.tokenTable t.config.chain order
            (Route.group t.config.capabilities order.swaps)).length := by
        rw [Route.tokenCount]
        split <;> omega
      rw [List.length_zipWith, hheaderLen, hlen, min_self] at hchunks
      rw [hfinished.swaps]
      omega
  · obtain ⟨swaps, count, hfinished, hcount⟩ := Strategies.isFinished_of_encodeFor he
    exact ⟨swaps, count, hfinished, hcount, (hcount.2 hf).le.trans (Nat.zero_le _)⟩

/-! ## The arguments of a call -/

/-- The least amount can be told exactly if the slippage is in range. -/
theorem exists_leastAmount_iff (amount : ℕ) :
    (∃ least, leastAmount amount (order.slippage.map fun x => ⟨x, x.toText⟩) = .ok least) ↔
      order.HasSlippageInRange := by
  unfold Order.HasSlippageInRange
  cases order.slippage with
  | none => exact iff_of_true ⟨_, rfl⟩ fun x hx => by cases hx
  | some x =>
    rw [Option.map_some]
    constructor
    · rintro ⟨least, h⟩ y hy
      cases hy
      rw [leastAmount] at h
      split at h
      next haccepted => exact Bool.and_eq_true_iff.1 haccepted
      next => cases h
    · intro h
      obtain ⟨hnonneg, hlt⟩ := h x rfl
      obtain ⟨d, hd, -⟩ := exists_toDecimal? hnonneg hlt
      refine ⟨((Decimal.ofInt amount).mul (.oneMinus d)).floor, ?_⟩
      rw [leastAmount, hnonneg, hlt, hd]
      rfl

namespace EncodedOrder

variable {swaps : Bytes} {count : ℕ} {a : CallArguments}

/-- The arguments of an order are written in the order of its signature. -/
theorem arguments_eq (hfinished : t.IsFinished f order swaps count e) (hcount : count = 0 ↔ f ≠ .split)
    (ha : a.AreOf t order e) : e.arguments order = .ok (a.toList f order e) := by
  have htokens : (if e.tokenCount = 0 then [] else [AbiValue.number e.tokenCount]) =
      if f = .split then [AbiValue.number e.tokenCount] else [] := by
    rw [hfinished.tokenCount]
    by_cases hf : f = .split
    · rw [if_pos hf, if_neg fun h => hcount.1 (Int.ofNat_eq_zero.1 h) hf]
    · rw [if_neg hf, hcount.2 hf]
      rfl
  have hpermission := ha.permission
  unfold arguments
  rw [ha.given, ha.checked, ha.receiver, htokens]
  dsimp only
  rw [ha.least, CallArguments.toList]
  split at hpermission
  next huses =>
    obtain ⟨permit, signature, value, hpermit, hsignature, hvalue, hpermission⟩ := hpermission
    rw [hpermit, hsignature, hpermission]
    dsimp only
    rw [hvalue]
    rfl
  next huses =>
    have hnone : e.permit = none := by
      rw [← Option.isNone_iff_eq_none, ← Option.not_isSome, hfinished.permit]
      simpa using huses
    rw [hnone, hpermission, decide_not]
    rfl

/-- What is encoded of an order fits the types of its call. -/
structure FitsCall (t : Strategies) (f : RouterFunction) (order : Order) (e : EncodedOrder)
    (a : CallArguments) : Prop where
  given : a.given.length = 20
  checked : a.checked.length = 20
  least : 0 ≤ a.least ∧ a.least < (Nat.pow 2 256 : ℕ)
  receiver : a.receiver.length = 20
  permission : List.Forall₂ (Abi.Fits (6 * Abi.slot))
    (if t.usesPermit order then [Abi.permitAbi, .bytes] else [.bool]) a.permission
  tokenCount : ∃ count : ℕ, e.tokenCount = count ∧ count < Nat.pow 2 256
  swaps : e.swaps.length < storageLimit

/-- **The arguments of an order fit their types.** -/
theorem FitsCall.fits_toList (h : FitsCall t f order e a) :
    List.Forall₂ (Abi.Fits (e.swaps.length + 6 * Abi.slot))
      (Abi.callTypes (t.usesPermit order) f.takesTokenCount) (a.toList f order e) := by
  have hslot : Abi.slot ≤ e.swaps.length + 6 * Abi.slot := by omega
  have haddress : ∀ {bs : Bytes}, bs.length = 20 →
      Abi.Fits (e.swaps.length + 6 * Abi.slot) .address (.bytes bs) := fun hlen =>
    (Abi.fits_address hlen).mono hslot
  have hflag : ∀ b, Abi.Fits (e.swaps.length + 6 * Abi.slot) .bool (.flag b) := fun b =>
    (Abi.fits_bool b).mono hslot
  have hnumber : ∀ {n : ℤ}, 0 ≤ n → n < (Nat.pow 2 256 : ℕ) →
      Abi.Fits (e.swaps.length + 6 * Abi.slot) (.uint 256) (.number n) := fun hnonneg hlt =>
    (Abi.fits_uint hnonneg hlt).mono hslot
  have hamounts : List.Forall₂ (Abi.Fits (e.swaps.length + 6 * Abi.slot))
      [.uint 256, .address, .address, .uint 256, .bool, .bool]
      [.number order.givenAmount.toNat, .bytes a.given, .bytes a.checked, .number a.least,
        .flag (order.nativeAction = some .wrap), .flag (order.nativeAction = some .unwrap)] :=
    .cons (hnumber (Int.natCast_nonneg _) (Int.ofNat_lt.2 order.givenAmount.isLt)) <|
      .cons (haddress h.given) <| .cons (haddress h.checked) <|
        .cons (hnumber h.least.1 h.least.2) <| .cons (hflag _) <| .cons (hflag _) .nil
  have hcounted : List.Forall₂ (Abi.Fits (e.swaps.length + 6 * Abi.slot))
      (if f.takesTokenCount then [.uint 256] else [])
      (if f = .split then [.number e.tokenCount] else []) := by
    obtain ⟨count, hcount, hlt⟩ := h.tokenCount
    by_cases hf : f = .split
    · rw [RouterFunction.takesTokenCount, decide_eq_true hf, if_pos rfl, if_pos hf, hcount]
      exact .cons (hnumber (Int.natCast_nonneg _) (Int.ofNat_lt.2 hlt)) .nil
    · rw [RouterFunction.takesTokenCount, decide_eq_false hf, if_neg Bool.false_ne_true, if_neg hf]
      exact .nil
  have hswaps : Abi.Fits (e.swaps.length + 6 * Abi.slot) .bytes (.bytes e.swaps) :=
    (Abi.fits_bytes (h.swaps.trans (by decide))).mono (by omega)
  have hpermission := h.permission.imp fun _ _ hfits =>
    Abi.Fits.mono hfits (Nat.le_add_left _ e.swaps.length)
  exact List.rel_append (List.rel_append (List.rel_append (List.rel_append hamounts hcounted)
    (.cons (haddress h.receiver) .nil)) hpermission) (.cons hswaps .nil)

/-- **The call of an order is written** if what is encoded of it fits. -/
theorem FitsCall.exists_callData (h : FitsCall t f order e a)
    (hfinished : t.IsFinished f order swaps count e) (hcount : count = 0 ↔ f ≠ .split)
    (ha : a.AreOf t order e) : ∃ data, e.callData order = .ok data := by
  have hsize : Abi.headSizes (Abi.callTypes (t.usesPermit order) f.takesTokenCount) +
      (Abi.callTypes (t.usesPermit order) f.takesTokenCount).length *
        (e.swaps.length + 6 * Abi.slot) < Nat.pow 2 256 := by
    have hbound : ∀ b b', Abi.headSizes (Abi.callTypes b b') ≤ 640 ∧ (Abi.callTypes b b').length ≤ 11 := by
      decide
    obtain ⟨hheads, hlength⟩ := hbound (t.usesPermit order) f.takesTokenCount
    have hscaled := Nat.mul_le_mul_right (e.swaps.length + 6 * Abi.slot) hlength
    have hshort := h.swaps
    have hlimit : 640 + 11 * (storageLimit + 6 * Abi.slot) < Nat.pow 2 256 := by decide
    omega
  have hcall := Abi.exists_call (Abi.hasHalf_routerSignature f (t.usesPermit order))
    (Abi.argumentTypes_eq_callTypes f (t.usesPermit order)) h.fits_toList hsize
  rw [EncodedOrder.callData, arguments_eq hfinished hcount ha]
  rw [← Strategies.signatureOf, ← hfinished.signature] at hcall
  exact hcall

end EncodedOrder

/-! ## Transactions -/

namespace RouterEncoder

/-- An order is encoded for a function of the router, and for a router that a transaction can name. -/
structure IsEncodedAs (r : RouterEncoder) (approvals : Option ApprovalSource) (order : Order)
    (c : Circumstances) (f : RouterFunction) (e : EncodedOrder) : Prop where
  exactIn : order.exactOut = false
  chosen : r.strategies.choose order = .ok f
  encoded : ∃ router, r.routerOf order = .ok router ∧
    (r.strategies.encodeFor f order router approvals).outcome c = .ok e
  formed : e.router.isWellFormed = true

/-- There is one way in which an order is encoded. -/
theorem IsEncodedAs.eq {f' : RouterFunction} {e' : EncodedOrder}
    (h : IsEncodedAs r approvals order c f e) (h' : IsEncodedAs r approvals order c f' e') :
    e = e' := by
  obtain rfl : f = f' := Except.ok.inj (h.chosen.symm.trans h'.chosen)
  obtain ⟨router, hrouter, he⟩ := h.encoded
  obtain ⟨router', hrouter', he'⟩ := h'.encoded
  obtain rfl : router = router' := Except.ok.inj (hrouter.symm.trans hrouter')
  exact Except.ok.inj (he.symm.trans he')

/-- The amount that a transaction takes along. -/
def valueOf (order : Order) : Uint256 :=
  if order.nativeAction = some .wrap then order.givenAmount else .zero

theorem transaction_eq_ok_iff : transaction order e = .ok tx ↔
    e.router.isWellFormed = true ∧
      ∃ data, (if order.withCall then e.callData order else .ok e.swaps) = .ok data ∧
        tx = ⟨e.router.normal, valueOf order, data⟩ := by
  constructor
  · intro h
    obtain ⟨hformed, htarget, hvalue⟩ := target_of_transaction h
    exact ⟨hformed, tx.data, data_of_transaction h, by rw [valueOf, ← htarget, ← hvalue]⟩
  · rintro ⟨hformed, data, hdata, rfl⟩
    rw [transaction_eq, hdata, Address.checked, if_pos hformed]
    rfl

/-- **Both forms of an order go the same way** up to the data of the transaction. -/
theorem outcome_encodeOrder_form_eq_ok_iff (withCall : Bool) :
    (r.encodeOrder approvals { order with withCall }).outcome c = .ok tx ↔
      ∃ f e data, IsEncodedAs r approvals order c f e ∧
        (if withCall then e.callData order else .ok e.swaps) = .ok data ∧
          tx = ⟨e.router.normal, valueOf order, data⟩ := by
  have hencode : ∀ f router, r.strategies.encodeFor f { order with withCall } router approvals =
      r.strategies.encodeFor f order router approvals := fun f router => by cases f <;> rfl
  rw [outcome_encodeOrder_eq_ok_iff]
  simp only [hencode, transaction_eq_ok_iff]
  constructor
  · rintro ⟨hout, router, f, e, hrouter, hf, he, hformed, data, hdata, htx⟩
    exact ⟨f, e, data, ⟨hout, hf, ⟨router, hrouter, he⟩, hformed⟩, hdata, htx⟩
  · rintro ⟨f, e, data, ⟨hout, hf, ⟨router, hrouter, he⟩, hformed⟩, hdata, htx⟩
    exact ⟨hout, router, f, e, hrouter, hf, he, hformed, data, hdata, htx⟩

theorem outcome_calling_eq_ok_iff :
    (r.encodeOrder approvals order.calling).outcome c = .ok tx ↔
      ∃ f e data, IsEncodedAs r approvals order c f e ∧ e.callData order = .ok data ∧
        tx = ⟨e.router.normal, valueOf order, data⟩ :=
  outcome_encodeOrder_form_eq_ok_iff true

theorem outcome_bare_eq_ok_iff :
    (r.encodeOrder approvals order.bare).outcome c = .ok tx ↔
      ∃ f e, IsEncodedAs r approvals order c f e ∧
        tx = ⟨e.router.normal, valueOf order, e.swaps⟩ := by
  refine (outcome_encodeOrder_form_eq_ok_iff false).trans ?_
  constructor
  · rintro ⟨f, e, data, he, hdata, rfl⟩
    cases hdata
    exact ⟨f, e, he, rfl⟩
  · rintro ⟨f, e, he, rfl⟩
    exact ⟨f, e, e.swaps, he, rfl, rfl⟩

/-- What is encoded of an order with three plain addresses fits its call, if its slippage is in
range. -/
theorem IsEncodedAs.exists_callData (h : IsEncodedAs r approvals order c f e)
    (hgiven : order.givenToken.IsExact) (hchecked : order.checkedToken.IsExact)
    (hreceiver : order.receiver.IsExact) (hslippage : order.HasSlippageInRange)
    (hshort : e.swaps.length < storageLimit) : ∃ data, e.callData order = .ok data := by
  obtain ⟨router, -, he⟩ := h.encoded
  obtain ⟨swaps, count, hfinished, hcount, hle⟩ := exists_tokenCount he
  obtain ⟨permission, hpermission, hpermits⟩ := exists_permission he hgiven h.formed
  obtain ⟨least, hleast⟩ := (exists_leastAmount_iff order.checkAmount.toNat).2 hslippage
  have hbytes : ∀ (field : String) {a : Address}, a.IsExact →
      ∃ bs, a.fieldBytes field = .ok bs ∧ bs.length = 20 := fun field a ha => by
    obtain ⟨bs, hbs, hlen⟩ := ha.exists_bytes
    exact ⟨bs, by rw [Address.fieldBytes, if_pos ha.wellFormed, hbs], hlen⟩
  obtain ⟨given, hgiven, hgivenLen⟩ := hbytes "given token" hgiven
  obtain ⟨checked, hchecked, hcheckedLen⟩ := hbytes "checked token" hchecked
  obtain ⟨receiver, hreceiver, hreceiverLen⟩ := hbytes "receiver" hreceiver
  have hlimit : storageLimit + 2 < Nat.pow 2 256 := by decide
  have hfits : EncodedOrder.FitsCall r.strategies f order e
      ⟨given, checked, least, receiver, permission⟩ :=
    ⟨hgivenLen, hcheckedLen, leastAmount_range order.checkAmount.isLt hleast, hreceiverLen, hpermits,
      ⟨count, hfinished.tokenCount, by omega⟩, hshort⟩
  exact hfits.exists_callData hfinished hcount ⟨hgiven, hchecked, hleast, hreceiver, hpermission⟩

/-- The slippage of an order whose call is written is in range. -/
theorem IsEncodedAs.hasSlippageInRange (h : IsEncodedAs r approvals order c f e) {data : Bytes}
    (hdata : e.callData order = .ok data) : order.HasSlippageInRange := by
  obtain ⟨router, -, he⟩ := h.encoded
  obtain ⟨swaps, count, hfinished, hcount⟩ := Strategies.isFinished_of_encodeFor he
  obtain ⟨values, hvalues, -⟩ := bind_eq_ok_iff.1 hdata
  obtain ⟨a, ha, -⟩ := hfinished.exists_arguments hcount hvalues
  exact (exists_leastAmount_iff order.checkAmount.toNat).1 ⟨a.least, ha.least⟩

/-- The two forms of the transaction of an order agree. -/
structure ModesAgree (r : RouterEncoder) (approvals : Option ApprovalSource) (order : Order)
    (c : Circumstances) : Prop where
  succeeds_iff : (∃ tx, (r.encodeOrder approvals order.calling).outcome c = .ok tx) ↔
    (∃ tx, (r.encodeOrder approvals order.bare).outcome c = .ok tx) ∧ order.HasSlippageInRange
  agrees : ∀ tx bare, (r.encodeOrder approvals order.calling).outcome c = .ok tx →
    (r.encodeOrder approvals order.bare).outcome c = .ok bare →
      tx.target = bare.target ∧ tx.value = bare.value ∧ ∃ f e a texts types,
        IsCallOf r.strategies f order.calling e tx.data a texts types ∧
          (a.toList f order.calling e).getLast? = some (.bytes bare.data)

/-- **An order is encoded with a call exactly if it is encoded without one and its slippage is in
range.**  Then both transactions have one target and one value, and the data of the call reads as
arguments of which the last one is the data of the other form. -/
theorem modesAgree (r : RouterEncoder) (order : Order) (hgiven : order.givenToken.IsExact)
    (hchecked : order.checkedToken.IsExact) (hreceiver : order.receiver.IsExact)
    (approvals : Option ApprovalSource) (c : Circumstances)
    (hshort : ∀ tx, (r.encodeOrder approvals order.bare).outcome c = .ok tx →
      tx.data.length < storageLimit) : r.ModesAgree approvals order c := by
  constructor
  case succeeds_iff =>
    constructor
    · rintro ⟨tx, htx⟩
      obtain ⟨f, e, data, he, hdata, -⟩ := outcome_calling_eq_ok_iff.1 htx
      exact ⟨⟨_, outcome_bare_eq_ok_iff.2 ⟨f, e, he, rfl⟩⟩, he.hasSlippageInRange hdata⟩
    · rintro ⟨⟨bare, hbare⟩, hslippage⟩
      have hlen := hshort bare hbare
      obtain ⟨f, e, he, rfl⟩ := outcome_bare_eq_ok_iff.1 hbare
      obtain ⟨data, hdata⟩ := he.exists_callData hgiven hchecked hreceiver hslippage hlen
      exact ⟨_, outcome_calling_eq_ok_iff.2 ⟨f, e, data, he, hdata, rfl⟩⟩
  case agrees =>
    intro tx bare htx hbare
    obtain ⟨f, e, data, he, hdata, rfl⟩ := outcome_calling_eq_ok_iff.1 htx
    obtain ⟨f', e', he', rfl⟩ := outcome_bare_eq_ok_iff.1 hbare
    obtain rfl := he.eq he'
    obtain ⟨router, -, hencoded⟩ := he.encoded
    obtain ⟨swaps, count, hfinished, hcount⟩ := Strategies.isFinished_of_encodeFor hencoded
    have hcalling : r.strategies.IsFinished f order.calling swaps count e :=
      ⟨hfinished.swaps, hfinished.signature, hfinished.tokenCount, hfinished.permit,
        hfinished.permitSignature⟩
    obtain ⟨a, texts, types, hcall⟩ := exists_isCallOf rfl hcalling hcount
      (transaction_eq_ok_iff.2 ⟨he.formed, data, hdata, rfl⟩)
    refine ⟨rfl, rfl, f, e, a, texts, types, hcall, ?_⟩
    rw [CallArguments.toList, List.getLast?_concat]

end RouterEncoder

namespace Sample

/-- The two forms of an order that forks and joins again. -/
theorem modesAgree_forkedCall :
    (forkedCall.givenToken.IsExact ∧ forkedCall.checkedToken.IsExact ∧ forkedCall.receiver.IsExact) ∧
      encoder.ModesAgree none forkedCall {} := by
  have hexact : ∀ a ∈ [weth, dai, user], a.IsExact := fun a ha => by
    have hrun : ∀ a ∈ [weth, dai, user], a.isWellFormed = true ∧ a.hasHexDigits = true := by
      decide +kernel
    exact ⟨(hrun a ha).1, (hrun a ha).2⟩
  have hgiven := hexact weth (by decide)
  have hchecked := hexact dai (by decide)
  have hreceiver := hexact user (by decide)
  have hlen : ((encoder.encodeOrder none forkedCall.bare).outcome {}).toOption.map
      (fun tx => tx.data.length) = some 267 := by decide +kernel
  refine ⟨⟨hgiven, hchecked, hreceiver⟩, ?_⟩
  refine encoder.modesAgree forkedCall hgiven hchecked hreceiver none {} fun tx htx => ?_
  rw [htx] at hlen
  have hlen : tx.data.length = 267 := Option.some.inj hlen
  rw [hlen]
  decide

/-- An order that would go without any output. -/
def freeSale : Order :=
  { sale [swap daiWeth weth dai] with slippage := some .one }

/-- **A slippage out of range is refused where the router is called**, and nowhere else. -/
theorem not_succeeds_iff_freeSale :
    (∃ tx, (encoder.encodeOrder none freeSale.bare).outcome {} = .ok tx) ∧
      (encoder.encodeOrder none freeSale.calling).outcome {} =
        .error (.encoding (.slippageOutOfRange "1.0")) := by
  have hbare : ((encoder.encodeOrder none freeSale.bare).outcome {}).toOption.isSome = true := by
    decide +kernel
  exact ⟨exists_eq_ok_of_isSome hbare, by decide +kernel⟩

end Sample

end SwapRouter
