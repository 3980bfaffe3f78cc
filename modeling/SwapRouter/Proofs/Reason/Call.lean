import SwapRouter.Proofs.Batch
import SwapRouter.Proofs.LeastAmount
import SwapRouter.Proofs.Reason.Order

/-!
# Calls that are refused for a reason

The last step of an order is the call of the router.  Its arguments fit their types: the amounts are
numbers of 256 bits, and so is the least amount after slippage; the addresses have twenty bytes; and
the swaps are short enough for an offset behind them.  So if all steps before fail for a reason only,
then so does an order, and with it a call for many of them.

* `EncodedOrder.IsCallable.reasoned_arguments`: the arguments fit their types.
* `RouterEncoder.reasoned_encodeOrder`: an order is encoded or refused for a reason.
* `RouterEncoder.encodeSolutions_ok_or_reason`: **solutions are encoded or refused for a reason.**
-/

namespace SwapRouter

/-! ## The call of the router -/

/-- The types of the arguments of a call without a permit. -/
def routerTypes (withTokenCount : Bool) : List AbiType :=
  [.uint 256, .address, .address, .uint 256, .bool, .bool]
    ++ (if withTokenCount then [.uint 256] else [])
    ++ [.address] ++ [.bool] ++ [.bytes]

theorem argumentTypes_routerSignature (f : RouterFunction) :
    Abi.argumentTypes (routerSignature f.name false f.takesTokenCount) =
      .ok (routerTypes f.takesTokenCount) := Abi.argumentTypes_eq_callTypes f false

namespace EncodedOrder

variable {order : Order} {config : Config} {e : EncodedOrder} {f : RouterFunction}

/-- No argument of a call takes up more bytes than that. -/
def argumentLimit (e : EncodedOrder) : ℕ := e.swaps.length + 2 * Abi.slot

theorem slot_le_argumentLimit (e : EncodedOrder) : Abi.slot ≤ e.argumentLimit := by
  rw [argumentLimit]
  omega

/-- **The arguments of a call fit their types**, or there is a reason against the order. -/
theorem IsCallable.reasoned_arguments (he : e.IsCallable f) (horder : order.IsExact config) :
    Reasoned (List.Forall₂ (Abi.Fits e.argumentLimit) (routerTypes f.takesTokenCount))
      (e.arguments order) := by
  have hslot := slot_le_argumentLimit e
  have hamount : ∀ n : Uint256, Abi.Fits e.argumentLimit (.uint 256) (.number n.toNat) := fun n =>
    (Abi.fits_uint (Int.natCast_nonneg _) (Int.ofNat_lt.2 n.isLt)).mono hslot
  have haddress : ∀ {bs : Bytes}, bs.length = 20 → Abi.Fits e.argumentLimit .address (.bytes bs) :=
    fun h => (Abi.fits_address h).mono hslot
  have hflag : ∀ b, Abi.Fits e.argumentLimit .bool (.flag b) := fun b => (Abi.fits_bool b).mono hslot
  obtain ⟨count, hcount, htokens, hzero⟩ := he.tokenCount
  have hcount256 : count < Nat.pow 2 256 := hcount.trans (by decide)
  have hshort : e.swaps.length < Nat.pow 2 256 := he.short.trans (by decide)
  have hswaps : Abi.Fits e.argumentLimit .bytes (.bytes e.swaps) := Abi.fits_bytes hshort
  unfold arguments
  refine horder.givenToken.reasoned_fieldBytes.bind fun given hgiven => ?_
  refine horder.checkedToken.reasoned_fieldBytes.bind fun checked hchecked => ?_
  dsimp only
  cases hleast : leastAmount order.checkAmount.toNat
      (order.slippage.map fun x => (⟨x, x.toText⟩ : Slippage)) with
  | error fault => exact .reason fault
  | ok least =>
    obtain ⟨hnonneg, hlt⟩ := leastAmount_range order.checkAmount.isLt hleast
    simp only [pure_bind]
    refine horder.receiver.reasoned_fieldBytes.bind fun receiver hreceiver => ?_
    rw [he.permit, htokens]
    refine .ok ?_
    have hamounts : List.Forall₂ (Abi.Fits e.argumentLimit)
        [.uint 256, .address, .address, .uint 256, .bool, .bool]
        [.number order.givenAmount.toNat, .bytes given, .bytes checked, .number least,
          .flag (order.nativeAction = some .wrap), .flag (order.nativeAction = some .unwrap)] :=
      .cons (hamount _) <| .cons (haddress hgiven) <| .cons (haddress hchecked) <|
        .cons ((Abi.fits_uint hnonneg hlt).mono hslot) <| .cons (hflag _) <| .cons (hflag _) .nil
    have hcounted : List.Forall₂ (Abi.Fits e.argumentLimit)
        (if f.takesTokenCount then [.uint 256] else [])
        (if (count : ℤ) = 0 then [] else [.number (count : ℤ)]) := by
      by_cases hf : f = .split
      · have hne : (count : ℤ) ≠ 0 := fun h => hzero.1 (Int.ofNat_eq_zero.1 h) hf
        rw [RouterFunction.takesTokenCount, decide_eq_true hf, if_pos rfl, if_neg hne]
        exact .cons ((Abi.fits_uint (Int.natCast_nonneg _) (Int.ofNat_lt.2 hcount256)).mono hslot)
          .nil
      · rw [RouterFunction.takesTokenCount, decide_eq_false hf, if_neg Bool.false_ne_true,
          hzero.2 hf]
        exact .nil
    have hreceived : List.Forall₂ (Abi.Fits e.argumentLimit) [.address] [.bytes receiver] :=
      .cons (haddress hreceiver) .nil
    have hpermitted : List.Forall₂ (Abi.Fits e.argumentLimit) [.bool]
        [.flag !decide (order.nativeAction = some .wrap)] := .cons (hflag _) .nil
    have hswapped : List.Forall₂ (Abi.Fits e.argumentLimit) [.bytes] [.bytes e.swaps] :=
      .cons hswaps .nil
    exact List.rel_append (List.rel_append (List.rel_append (List.rel_append hamounts hcounted)
      hreceived) hpermitted) hswapped

/-- **The data of a call** can be written, or there is a reason against the order. -/
theorem IsCallable.reasoned_callData (he : e.IsCallable f) (horder : order.IsExact config) :
    Reasoned (fun _ => True) (e.callData order) := by
  refine (he.reasoned_arguments horder).bind fun values hvalues => ?_
  have hsize : Abi.headSizes (routerTypes f.takesTokenCount) +
      (routerTypes f.takesTokenCount).length * e.argumentLimit < Nat.pow 2 256 := by
    have hbound : ∀ b, Abi.headSizes (routerTypes b) ≤ 320 ∧ (routerTypes b).length ≤ 10 := by
      decide
    obtain ⟨hheads, hlength⟩ := hbound f.takesTokenCount
    have hshort := he.short
    have hlimit : Nat.pow 2 256 = 2 ^ 160 * 2 ^ 96 := by decide
    have hscaled := Nat.mul_le_mul_right e.argumentLimit hlength
    rw [argumentLimit, Abi.slot] at hscaled ⊢
    omega
  have hcall := Abi.exists_call (Abi.hasHalf_routerSignature f false) (argumentTypes_routerSignature f)
    hvalues hsize
  rw [← he.signature] at hcall
  obtain ⟨data, hdata⟩ := hcall
  exact reasoned_of_exists ⟨data, hdata, trivial⟩

end EncodedOrder

/-! ## Orders and solutions -/

namespace RouterEncoder

variable {r : RouterEncoder} {order : Order} {e : EncodedOrder} {f : RouterFunction}

/-- The transaction of an encoded order can be made, or there is a reason against it. -/
theorem reasoned_transaction {config : Config} (he : e.IsCallable f) (horder : order.IsExact config) :
    Reasoned (fun _ => True) (transaction order e) := by
  have htarget : e.router.checked = .ok e.router.normal := by
    rw [Address.checked, if_pos he.router.wellFormed]
  unfold transaction
  rw [htarget]
  dsimp only
  split
  · exact (he.reasoned_callData horder).bind fun data _ => .ok trivial
  · exact .ok trivial

/-- The router of an order has digits alone. -/
theorem isExact_of_routerOf (hr : r.IsExact) (hgiven : ∀ a ∈ given? order.router, a.IsExact)
    {router : Address} (h : r.routerOf order = .ok router) : router.IsExact := by
  unfold routerOf at h
  dsimp only at h
  split at h
  next chosen hchosen =>
    cases h
    refine Address.IsExact.normal ?_
    split at hchosen
    next own hown =>
      cases hchosen
      exact hgiven _ hown
    next usual _ husual =>
      cases hchosen
      exact hr.router _ husual
    next => exact hr.tableRouter chosen hchosen
  next => cases h

/-- **An order is encoded or refused for a reason.** -/
theorem reasoned_encodeOrder (hr : r.IsExact) (horder : order.IsExact r.strategies.config) :
    (r.encodeOrder r.approvals order).Reasoned fun _ => True := by
  rw [encodeOrder]
  split
  · exact Encode.reasoned_fail
  · refine Encode.reasoned_require_bind fun router hrouter => ?_
    refine (Encode.reasoned_ofExcept Strategies.reasoned_choose).bind fun f hf => ?_
    have hexact := isExact_of_routerOf hr horder.router hrouter
    refine (Strategies.reasoned_encodeFor ⟨hr.encoders, hr.signer⟩ horder hexact hr.approvals
      hf).bind fun encoded hencoded => ?_
    exact Encode.reasoned_ofExcept (reasoned_transaction hencoded horder)

variable {solutions : List Solution}

/-- The orders of a call are encoded, or one of them is refused for a reason. -/
theorem reasoned_encodeAligned (hr : r.IsExact)
    (horders : ∀ s ∈ solutions, ∀ o ∈ s.orders, o.IsExact r.strategies.config) :
    (r.encodeAligned solutions).Reasoned fun _ => True := by
  have hjobs : ∀ job ∈ (solutions.flatMap Solution.orders).map (r.encodeOrder r.approvals),
      job.Reasoned fun _ => True := by
    refine List.forall_mem_map.2 fun o ho => ?_
    obtain ⟨s, hs, ho⟩ := List.mem_flatMap.1 ho
    exact reasoned_encodeOrder hr (horders s hs o ho)
  exact (Encode.reasoned_sideBySide hjobs).bind fun _ _ => Encode.reasoned_pure trivial

/-- **Solutions are encoded or refused for a reason.**  Whatever the tables of a setup are, an
encoder that is made of them without a signer comes to transactions or to a reason, if those whom it
asks do, the addresses of its tables and of the orders have digits alone, and an order that forks has
no more tokens than a byte can name. -/
theorem encodeSolutions_ok_or_reason {files : Files} {paths : TablePaths} {chain chain' : Chain}
    {config : Config} {approvals : Option ApprovalSource} {setup : EncoderRegistry.QuoteSetup}
    {router : Option Address} {room : Option ℕ} (hload : Config.load files paths chain room = .ok config)
    (hcreate : create chain' config approvals none setup router = .ok r)
    (happrovals : ∀ source ∈ approvals, source.IsReasoned) (hquotes : setup.IsReasoned config)
    (hconfig : config.IsExact) (hrouter : ∀ a ∈ given? router, a.IsExact)
    (horders : ∀ s ∈ solutions, ∀ o ∈ s.orders, o.IsExact config) (c : Circumstances) :
    (∃ lists, (r.encodeSolutions solutions).outcome c = .ok lists) ∨
      ∃ e, (r.encodeSolutions solutions).outcome c = .error (.encoding e) := by
  have hr := isExact_of_create hload hconfig happrovals hquotes hrouter hcreate
  rw [← config_of_create hcreate] at horders
  exact (reasoned_encodeAligned hr horders (r.foundIn solutions c) known_foundIn).ok_or_reason

end RouterEncoder

namespace Sample

/-- Quotes of makers whom no quote is prepared for. -/
def quietQuotes : EncoderRegistry.QuoteSetup where
  sources := [("rfq:bebop", .prepared "rfq:bebop" {}), ("rfq:hashflow", .prepared "rfq:hashflow" {})]

/-- Approvals that are all given. -/
def allApproved : ApprovalSource := .answers fun _ => .ok true

theorem isReasoned_quietQuotes : quietQuotes.IsReasoned (.bundled .ethereum) := by
  have hlisted : ∀ entry ∈ (Config.bundled .ethereum).executors,
      Venue.isQuoted entry.1 = true → (quietQuotes.sources.lookup entry.1).isSome = true := by
    decide +kernel
  rintro entry hentry source hsource r -
  rw [EncoderRegistry.quoteSource?] at hsource
  split at hsource
  next found hfound =>
    cases hsource
    have hmem : (entry.1, source) ∈ quietQuotes.sources := mem_of_lookup hfound
    rw [quietQuotes, List.mem_cons, List.mem_singleton] at hmem
    rcases hmem with hbebop | hhashflow
    · rw [(Prod.mk.inj hbebop).2]
      exact .reason _
    · rw [(Prod.mk.inj hhashflow).2]
      exact .reason _
  next hmissing =>
    split at hsource
    next hquoted =>
      have hsome := hlisted entry hentry hquoted
      rw [hmissing] at hsome
      cases hsome
    next => cases hsource

/-- The sample addresses have digits alone. -/
theorem isExact_of_mem {a : Address}
    (h : a ∈ [user, router, executor] ++ tokens ++ pools.map fun p => ⟨p.id⟩) : a.IsExact :=
  (isPlain_of_mem h).isExact

theorem isExact_sale {swaps : List Swap} {config : Config} (hswaps : ∀ s ∈ swaps, IsSample s)
    (hlen : swaps.length < storageLimit)
    (htokens : (Route.tokenTable config.chain (sale swaps)
      (Route.group config.capabilities swaps)).dedup.length ≤ 256) :
    (sale swaps).IsExact config := by
  have htoken : ∀ a ∈ tokens, a.IsExact := fun a ha =>
    isExact_of_mem (List.mem_append_left _ (List.mem_append_right _ ha))
  refine ⟨htoken weth (by decide), htoken dai (by decide), isExact_of_mem (a := user) (by decide),
    fun a ha => (Option.some_ne_none a ha.symm).elim, fun s hs => ?_, hlen, fun _ => htokens⟩
  obtain ⟨hpool, hin, hout, -⟩ := hswaps s hs
  exact ⟨htoken _ hin, htoken _ hout,
    fun _ => (isExact_of_mem (List.mem_append_right _ (List.mem_map_of_mem hpool))).digits⟩

/-- The forked order is encoded by the encoder of its chain. -/
theorem encodeSolutions_forkedCall :
    ∃ r, RouterEncoder.create .ethereum (.bundled .ethereum) (some allApproved) none quietQuotes none =
        .ok r ∧
      ((∃ lists, (r.encodeSolutions [⟨[forkedCall]⟩]).outcome {} = .ok lists) ∨
        ∃ e, (r.encodeSolutions [⟨[forkedCall]⟩]).outcome {} = .error (.encoding e)) := by
  have hrun : (RouterEncoder.create .ethereum (.bundled .ethereum) (some allApproved) none quietQuotes
      none).toOption.isSome = true := by decide +kernel
  obtain ⟨r, hcreate⟩ := exists_eq_ok_of_isSome hrun
  have hload : Config.load {} {} .ethereum none = .ok (.bundled .ethereum) := rfl
  refine ⟨r, hcreate, RouterEncoder.encodeSolutions_ok_or_reason hload hcreate ?_
    isReasoned_quietQuotes (Config.isExact_bundled .ethereum) (fun a ha => by cases ha) ?_ {}⟩
  · rintro source ⟨⟩ key
    exact .ok trivial
  · intro s hs o ho
    obtain rfl := List.mem_singleton.1 hs
    obtain rfl := List.mem_singleton.1 ho
    exact isExact_sale (by decide +kernel) (by decide) (by decide +kernel)

/-- An order whose receiver is accepted with an underscore between its digits. -/
def separatedSale : Order := { sale [swap daiWeth weth dai] with receiver := separated }

/-- **An underscore that is accepted ends in a defect.** -/
theorem outcome_separatedSale :
    separated.checked = .ok separated ∧
      ∃ r, RouterEncoder.create .ethereum (.bundled .ethereum) none none {} none = .ok r ∧
        (r.encodeSolutions [⟨[separatedSale]⟩]).outcome {} = .error .defect := by
  have hrun : (RouterEncoder.create .ethereum (.bundled .ethereum) none none {} none).toOption.any
      (fun r => (r.encodeSolutions [⟨[separatedSale]⟩]).outcome {} = .error .defect) = true := by
    decide +kernel
  obtain ⟨hsome, hdefect⟩ := (Option.any_eq_true_iff_get _ _).1 hrun
  exact ⟨by decide +kernel, _, eq_ok_of_toOption_eq_some (Option.some_get hsome).symm,
    of_decide_eq_true hdefect⟩

end Sample


end SwapRouter
