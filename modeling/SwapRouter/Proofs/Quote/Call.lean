import SwapRouter.Proofs.Approval.Order
import SwapRouter.Proofs.LookUp.Call
import SwapRouter.Proofs.Quote.Asked

/-!
# The quotes of one call

A signed quote binds the market maker for one swap: for its tokens and the amount that is expected to come
in, for the router that sends the amount, and for the one who receives the output.  Three parts of the
program fix these.  The router is picked before the order is planned, and is what the transaction goes to
in the end, since what is picked is normal.  The receiver comes from the hop of the group, as planned for
this router.  The tokens and the amount are the swap's.

All of them meet in the encoder of the swap, which makes its request from the values that it writes into
the data.  So it is enough to follow one swap, and to know that its request is made once: nothing is kept of
a quote, and where the same order stands twice in a call, each of the two asks.

* `Swap.HoldsQuote`: the request that is made for a swap, and what its data hold of the answer.
* `Rfq.exists_holdsQuote`: that the data of a swap which is priced by quotes do so.
* `RouterEncoder.HoldsQuotes`: what is asked for the swaps of an order, and what its transaction holds.
* `RouterEncoder.holdsQuotes_encodeSolutions`: **a call asks for one quote for each swap that is priced by
  quotes, and the data of the swap hold its answer.**
-/

namespace SwapRouter

variable {e : SwapEncoder} {s : Swap} {context : SwapContext} {c : Circumstances} {part : Bytes}
  {t : Strategies} {p : PlannedGroup} {f : RouterFunction} {order : Order} {router : Address}
  {approvals : Option ApprovalSource}

/-! ## Swaps -/

/-- **What the data of a swap hold of its quote.**  One request is made for the swap, and answered.  It has
the tokens of the swap, the estimated amount, the sender, and the receiver whose bytes are in the data;
and what the data hold behind the receiver is the amount and the signed text of the answer. -/
structure Swap.HoldsQuote (e : SwapEncoder) (sender : Address) (context : SwapContext) (s : Swap)
    (part : Bytes) (source : QuoteSource) (request : QuoteRequest) (quote : SignedQuote) : Prop where
  asked : e.quotesOf s context = [source.question request]
  provider : e.quotes = some source
  answered : source.answer request = .ok quote
  tokenIn : request.tokenIn = s.tokenIn
  tokenOut : request.tokenOut = s.tokenOut
  amountIn : s.estimatedAmountIn.map (fun amount => (amount.toNat : ℤ)) = some request.amountIn
  sender : request.sender = sender
  data : ∃ tokenIn tokenOut flags receiver payload, s.tokenIn.toBytes = .ok tokenIn ∧
    s.tokenOut.toBytes = .ok tokenOut ∧ flags.length = 2 ∧ request.receiver.toBytes = .ok receiver ∧
    (0 ≤ quote.amountOut ∧ quote.amountOut.toNat < Nat.pow 256 32) ∧
    quote.attributes.lookup Rfq.payloadName = some payload ∧
    part = tokenIn ++ tokenOut ++ flags ++ receiver ++ Bytes.ofNat 32 quote.amountOut.toNat ++ payload

/-- A swap that is priced by quotes holds one; no quote is asked for another one. -/
def Swap.StatesQuote (e : SwapEncoder) (sender : Address) (context : SwapContext) (s : Swap)
    (part : Bytes) : Prop :=
  (e.venue = .rfq → ∃ source request quote, s.HoldsQuote e sender context part source request quote) ∧
    (e.venue ≠ .rfq → e.quotesOf s context = [])

/-- **The data of a swap hold the answer to its request.** -/
theorem Rfq.exists_holdsQuote (hvenue : e.venue = .rfq) (hrouter : context.router = some router)
    (h : (Rfq.encode e s context).outcome c = .ok part) :
    ∃ source request quote, s.HoldsQuote e router context part source request quote := by
  obtain ⟨-, source, req, quote, payload, tokenIn, tokenOut, receiver, approval, amountOut, hrequest,
    hanswer, hpayload, htokenIn, htokenOut, hreceiver, -, hamountOut, rfl⟩ :=
    Rfq.outcome_encode_eq_ok_iff.1 h
  obtain ⟨hbound, rfl⟩ := Wire.fixed_eq_ok_iff.1 hamountOut
  have hasked : e.quotesOf s context = [source.question req] := by
    rw [SwapEncoder.quotesOf, if_pos hvenue, hrequest]
    rfl
  obtain ⟨router', amount, hsource, hrouter', hamount, rfl⟩ := request?_eq_some_iff.1 hrequest
  obtain rfl := Option.some.inj (hrouter.symm.trans hrouter')
  refine ⟨source, request s context router amount, quote, ?_⟩
  constructor
  case provider => exact hsource
  case asked => exact hasked
  case answered => exact hanswer
  case tokenIn => rfl
  case tokenOut => rfl
  case amountIn => rw [hamount]; rfl
  case sender => rfl
  case data =>
    exact ⟨tokenIn, tokenOut, _, receiver, payload, Address.toBytes_of_fieldBytes htokenIn,
      Address.toBytes_of_fieldBytes htokenOut, rfl, Address.toBytes_of_fieldBytes hreceiver, hbound,
      hpayload, rfl⟩

theorem Swap.statesQuote_of_encode (hrouter : context.router = some router)
    (h : (e.encode s context).outcome c = .ok part) : s.StatesQuote e router context part := by
  refine ⟨fun hvenue => ?_, SwapEncoder.quotesOf_of_ne⟩
  unfold SwapEncoder.encode at h
  rw [hvenue] at h
  exact Rfq.exists_holdsQuote hvenue hrouter h

/-! ## Groups -/

/-- The call for a group is the executor of its protocol and the data of its swaps; what is asked for the
group is asked for its swaps, and their data hold the answers. -/
def PlannedGroup.HoldsQuotes (t : Strategies) (sender : Address) (p : PlannedGroup) (call : Bytes) :
    Prop :=
  ∃ e executor parts data, t.encoders.get p.group.protocol = .ok e ∧
    (∀ s ∈ p.group.swaps, s.protocol = p.group.protocol) ∧
    t.quotesOfGroup p = p.group.swaps.flatMap (e.quotesOf · p.context) ∧
    e.executor.toBytes = .ok executor ∧ call = executor ++ data ∧
    Strategies.joinGroup parts = .ok data ∧
    List.Forall₂ (Swap.StatesQuote e sender p.context) p.group.swaps parts

/-- The groups of an order are planned with its router. -/
theorem Strategies.router_of_mem_planFor (h : p ∈ t.planFor f order router approvals) :
    p.context.router = some router := by
  have hlinear (groups : List SwapGroup) :
      ∀ p ∈ t.planLinear order router approvals groups, p.context.router = some router := by
    intro p hp
    rw [planLinear, ← List.map_uncurry_zip_eq_zipWith] at hp
    obtain ⟨pair, -, rfl⟩ := List.mem_map.1 hp
    rfl
  cases f with
  | single => exact hlinear _ p h
  | sequential => exact hlinear _ p h
  | split =>
    obtain ⟨g, -, rfl⟩ := List.mem_map.1 h
    rfl

theorem PlannedGroup.holdsQuotes_of_callsExecutor {call : Bytes}
    (hplan : p ∈ t.planFor f order router approvals) (h : t.CallsExecutor c p call) :
    p.HoldsQuotes t router call := by
  obtain ⟨e, executor, parts, data, he, hexecutor, hparts, hdata, hcall⟩ := h
  have hasked : t.quotesOfGroup p = p.group.swaps.flatMap (e.quotesOf · p.context) := by
    rw [Strategies.quotesOfGroup, he]
  refine ⟨e, executor, parts, data, he, fun s hs => Strategies.protocol_of_mem_planFor hplan hs, hasked,
    Address.toBytes_of_fieldBytes hexecutor, hcall, hdata, ?_⟩
  exact hparts.imp fun s part hpart =>
    Swap.statesQuote_of_encode (Strategies.router_of_mem_planFor hplan) hpart

/-! ## Orders and calls -/

namespace RouterEncoder

variable {r : RouterEncoder} {solutions : List Solution}

/-- **What a transaction holds of the quotes of its order.**  It goes to the router of the order.  What is
asked for the order is asked for the groups that it is made of; and the calls for these hold the answers to
requests with this router as the sender. -/
structure HoldsQuotes (r : RouterEncoder) (order : Order) (tx : Transaction) (f : RouterFunction)
    (e : EncodedOrder) (plan : List PlannedGroup) (calls : List Bytes) : Prop
    extends r.IsMadeOf order tx f e plan calls where
  router : r.routerOf order = .ok tx.target
  asked : r.quotesOfOrder r.approvals order = plan.flatMap r.strategies.quotesOfGroup
  held : List.Forall₂ (PlannedGroup.HoldsQuotes r.strategies tx.target) plan calls

theorem exists_holdsQuotes {tx : Transaction}
    (h : (r.encodeOrder r.approvals order).outcome c = .ok tx) :
    ∃ f e plan calls, r.HoldsQuotes order tx f e plan calls := by
  obtain ⟨f, e, calls, hmade, hrouter, -, hcalls⟩ := exists_isMadeOf h
  refine ⟨f, e, r.strategies.planFor f order tx.target r.approvals, calls, hmade, hrouter, ?_, ?_⟩
  · rw [quotesOfOrder, hrouter, hmade.chosen]
    rfl
  · refine ((List.forall₂_and_left _ _).2 ⟨fun p hp => hp, hcalls⟩).imp ?_
    rintro p call ⟨hp, hcall⟩
    exact PlannedGroup.holdsQuotes_of_callsExecutor hp hcall

/-- **The quotes of a call.**  A call that succeeds asks for the quotes of its orders, order by order and
swap by swap, and for no others; and each transaction holds the answers to the requests that are made for
its order. -/
theorem holdsQuotes_encodeSolutions {session : Session} {lists : List (List Transaction)}
    (h : ((r.encodeSolutions solutions).run session).1 = .ok lists) :
    (∃ asked, ((r.encodeSolutions solutions).run session).2.asked = session.asked ++ asked ∧
      asked.filter Question.isQuote =
        (solutions.flatMap Solution.orders).flatMap (r.quotesOfOrder r.approvals)) ∧
    List.Forall₂ (fun solution transactions => List.Forall₂
      (fun order tx => ∃ f e plan calls, r.HoldsQuotes order tx f e plan calls)
      solution.orders transactions) solutions lists := by
  rw [run_encodeSolutions] at h ⊢
  refine ⟨⟨_, asked_after _ _, asksQuotes_encodeAligned solutions _ lists h⟩, ?_⟩
  have hcall : (r.encodeSolutions solutions).outcome {} = .ok lists :=
    (Encode.outcome_eq_ok_iff_of_known rfl).1 h
  refine (outcome_encodeSolutions_eq_ok_iff.1 hcall).imp fun solution transactions hsolution => ?_
  exact hsolution.imp fun order tx horder => exists_holdsQuotes horder

end RouterEncoder

namespace Sample

/-- An order that is given twice asks for its quote twice: for what the router sends and the user
receives. -/
theorem holdsQuotes_quotedOrders : ∃ lists,
    ((askingEncoder.encodeSolutions [⟨[quotedOrder, quotedOrder]⟩]).run {}).1 = .ok lists ∧
    List.Forall₂ (fun (solution : Solution) transactions => List.Forall₂
      (fun order tx => ∃ f e plan calls, askingEncoder.HoldsQuotes order tx f e plan calls)
      solution.orders transactions) [⟨[quotedOrder, quotedOrder]⟩] lists ∧
    ((askingEncoder.encodeSolutions [⟨[quotedOrder, quotedOrder]⟩]).run {}).2.asked.filter
        Question.isQuote =
      List.replicate 2 (.quote (some "rfq:bebop") ⟨usdc, dai, 1000000, Sample.router, user⟩) := by
  have hrun : ((askingEncoder.encodeSolutions [⟨[quotedOrder, quotedOrder]⟩]).run {}).1.toOption.isSome =
      true := by decide +kernel
  obtain ⟨lists, hlists⟩ := exists_eq_ok_of_isSome hrun
  exact ⟨lists, hlists, (RouterEncoder.holdsQuotes_encodeSolutions hlists).2, by decide +kernel⟩

end Sample

end SwapRouter
