import SwapRouter.Proofs.Approval.Flag
import SwapRouter.Proofs.Reason.Setup
import SwapRouter.Proofs.Route.Custody

/-!
# Which swaps of an order say that an approval is needed

Whether the input of a swap is approved depends on who holds it when the swap is executed.  That is
decided hop by hop when an order is planned, long before the data of the swap are written: the router
holds the first input, and whoever a hop pays holds the next one.  In an order with forks no group pays
another one, so the router holds them all.

The encoders of a setup share one source of approvals, and the settings of each are those of its
protocol.  The swaps of a group are of one protocol, so the spender that the source is asked for is the
one that is set up for the protocol of the swap.

* `EncoderRegistry.IsSetUp`: what the encoder of a protocol is set up with.
* `Strategies.isHeldAlong_planFor`: **who holds the inputs of an order.**
* `Strategies.callsOf?`: the calls for the groups, read off the encoded swaps.
* `RouterEncoder.IsMadeOf`: what a transaction is made of.
* `RouterEncoder.StatesNeeds`: what a transaction says of the swaps of its order.
* `RouterEncoder.statesNeeds_of_create`: **no approval is needed only where the chain has one.**
-/

namespace SwapRouter

variable {config : Config} {approvals source : Option ApprovalSource}
  {setup : EncoderRegistry.QuoteSetup} {protocol : String} {order : Order} {router : Address}
  {t : Strategies} {f : RouterFunction} {c : Circumstances} {reader? : Option ChainReader}
  {plan : List PlannedGroup} {p : PlannedGroup} {e : EncodedOrder}

/-! ## The encoders of a setup -/

namespace EncoderRegistry

/-- An encoder is set up for a protocol: it is the one of the family, it calls the executor, and it has
the settings of the protocol and the source of approvals that all encoders share. -/
structure IsSetUp (config : Config) (source : Option ApprovalSource) (protocol : String)
    (e : SwapEncoder) : Prop where
  venue : Venue.ofProtocol? protocol = some e.venue
  executor : ∃ a, (protocol, a) ∈ config.executors ∧ e.executor = a.normal
  settings : e.settings = config.settingsOf protocol
  approvals : e.approvals = source

theorem isSetUp_of_ofConfig {registry : EncoderRegistry}
    (h : ofConfig config source setup = .ok registry) :
    ∀ entry ∈ registry.entries, IsSetUp config source entry.1 entry.2 := by
  rw [ofConfig] at h
  refine @foldlM_induction _ _ _ (fun r => ∀ entry ∈ r.entries, IsSetUp config source entry.1 entry.2)
    _ _ _ _ h (fun entry hentry => absurd hentry List.not_mem_nil) ?_
  rintro ⟨protocol, executor⟩ hexecutor r r' hr hstep
  dsimp only at hstep
  split at hstep
  next =>
    cases hstep
    exact hr
  next venue hvenue =>
    obtain ⟨e, he, hstep⟩ := bind_eq_ok_iff.1 hstep
    cases hstep
    intro entry hentry
    rcases Json.mem_put hentry with rfl | hentry
    · rw [SwapEncoder.create] at he
      split at he
      · cases he
      · split at he
        · cases he
        · cases he
          exact ⟨hvenue, ⟨executor, hexecutor, rfl⟩, rfl, rfl⟩
    · exact hr entry hentry

end EncoderRegistry

/-- **The encoders of a setup**, one for each protocol, and the source of approvals. -/
theorem RouterEncoder.isSetUp_of_create {r : RouterEncoder} {chain : Chain} {signer : Option Signer}
    {router : Option Address} (h : create chain config source signer setup router = .ok r) :
    r.approvals = source ∧ ∀ protocol e, r.strategies.encoders.get protocol = .ok e →
      EncoderRegistry.IsSetUp config source protocol e := by
  unfold create at h
  dsimp only at h
  split at h
  · cases h
  obtain ⟨registry, hregistry, h⟩ := bind_eq_ok_iff.1 h
  cases h
  refine ⟨rfl, fun protocol e he => ?_⟩
  rw [EncoderRegistry.get] at he
  split at he
  next e' hlookup =>
    cases he
    exact EncoderRegistry.isSetUp_of_ofConfig hregistry _ (mem_of_lookup hlookup)
  next => cases he

/-! ## Who holds the inputs -/

namespace Strategies

/-- Who holds the inputs along a plan: a router holds the first one and, in an order with forks, all of
them; else whoever receives the output of a group holds the next input. -/
structure IsHeldAlong (f : RouterFunction) (router : Address) (plan : List PlannedGroup) : Prop where
  first : ∀ p, plan[0]? = some p → p.context.holder = router
  next : ∀ i p p', plan[i]? = some p → plan[i + 1]? = some p' →
    p'.context.holder = if f = .split then router else p.context.receiver

theorem isHeldAlong_planLinear (t : Strategies) (order : Order) (router : Address)
    (approvals : Option ApprovalSource) (groups : List SwapGroup) (hf : f ≠ .split) :
    IsHeldAlong f router.normal (t.planLinear order router approvals groups) := by
  -- the context of a group takes who holds its input and who receives its output from its hop
  have hhop : ∀ (i : ℕ) (p : PlannedGroup), (t.planLinear order router approvals groups)[i]? = some p →
      ∃ hop : Hop, ((t.transfers order router).plan order.givenToken order.receiver
        (order.nativeAction = some .wrap) (order.nativeAction = some .unwrap) false groups)[i]? =
          some hop ∧ p.context.holder = hop.holder ∧ p.context.receiver = hop.receiver := by
    intro i p hp
    obtain ⟨g, hop, -, hhop, rfl⟩ := List.getElem?_zipWith_eq_some.1 hp
    exact ⟨hop, hhop, rfl, rfl⟩
  constructor
  · intro p hp
    obtain ⟨hop, hhop, hholder, -⟩ := hhop 0 p hp
    have hstart : hop.holder = (t.transfers order router).router.normal :=
      TransferSetting.holder_of_plan_zero hhop
    exact hholder.trans hstart
  · intro i p p' hp hp'
    obtain ⟨hop, hhop₁, -, hreceiver⟩ := hhop i p hp
    obtain ⟨hop', hhop₂, hholder, -⟩ := hhop (i + 1) p' hp'
    rw [if_neg hf, hholder, TransferSetting.holder_of_plan_succ hhop₁ hhop₂, hreceiver]

/-- **Who holds the inputs of an order**: the router, or whoever the group before pays. -/
theorem isHeldAlong_planFor (t : Strategies) (f : RouterFunction) (order : Order) (router : Address)
    (approvals : Option ApprovalSource) :
    IsHeldAlong f router.normal (t.planFor f order router approvals) := by
  cases f with
  | single => exact isHeldAlong_planLinear t order router approvals _ (by decide)
  | sequential => exact isHeldAlong_planLinear t order router approvals _ (by decide)
  | split =>
    have hheld : ∀ (i : ℕ) (p : PlannedGroup), (t.planFor .split order router approvals)[i]? = some p →
        p.context.holder = router.normal := by
      intro i p hp
      obtain ⟨g, -, rfl⟩ := List.mem_map.1 (List.mem_of_getElem? hp)
      rfl
    exact ⟨hheld 0, fun i p p' _ hp' => hheld (i + 1) p' hp'⟩

/-! ## The calls for the groups -/

/-- The calls for the groups, read off the encoded swaps: one call as it is, or one from each chunk, in
an order with forks behind the five bytes of its header. -/
def callsOf? (f : RouterFunction) (swaps : Bytes) : Option (List Bytes) :=
  match f with
  | .single => some [swaps]
  | .sequential => Wire.split? swaps
  | .split => (Wire.split? swaps).map (List.map (List.drop 5))

theorem map_drop_zipWith {headers : List HopHeader} {calls : List Bytes}
    (hlen : headers.length = calls.length) :
    (List.zipWith (· ++ ·) (headers.map HopHeader.bytes) calls).map (List.drop 5) = calls := by
  induction headers generalizing calls with
  | nil => rw [List.eq_nil_of_length_eq_zero hlen.symm]; rfl
  | cons header headers ih =>
    cases calls with
    | nil => cases hlen
    | cons call calls =>
      rw [List.map_cons, List.zipWith_cons_cons, List.map_cons, ih (Nat.succ.inj hlen),
        List.drop_left' (HopHeader.length_bytes header)]

/-- **The calls for the groups are read back**, one by one. -/
theorem exists_callsOf?_of_encodeFor
    (h : (t.encodeFor f order router approvals).outcome c = .ok e) :
    ∃ calls, callsOf? f e.swaps = some calls ∧
      List.Forall₂ (t.CallsExecutor c) (t.planFor f order router approvals) calls := by
  cases f with
  | single =>
    obtain ⟨p, hplan, hcall⟩ := exists_call_of_encodeSingle h
    exact ⟨[e.swaps], rfl, hplan ▸ .cons hcall .nil⟩
  | sequential =>
    obtain ⟨chunks, hsplit, hchunks⟩ := exists_chunks_of_encodeFor (by decide) h
    obtain ⟨hcalls⟩ := hchunks
    exact ⟨chunks, hsplit, hcalls⟩
  | split =>
    obtain ⟨chunks, hsplit, hchunks⟩ := exists_chunks_of_encodeFor (by decide) h
    obtain _ | ⟨hall, -, hcalls⟩ := hchunks
    refine ⟨_, ?_, hcalls⟩
    have hgroups := congrArg List.length (map_group_planFor t .split order router approvals)
    rw [List.length_map] at hgroups
    rw [callsOf?, hsplit, Option.map_some,
      map_drop_zipWith (hall.length_eq.trans (hgroups.symm.trans hcalls.length_eq))]

/-- The groups of a plan have the swaps of the order. -/
theorem flatMap_swaps_planFor (t : Strategies) (f : RouterFunction) (order : Order) (router : Address)
    (approvals : Option ApprovalSource) :
    ((t.planFor f order router approvals).flatMap fun p => p.group.swaps) = order.swaps := by
  rw [← List.flatMap_map, map_group_planFor]
  exact Route.flatMap_swaps_group t.config.capabilities order.swaps

/-- The swaps of a group of a plan have its protocol. -/
theorem protocol_of_mem_planFor (h : p ∈ t.planFor f order router approvals) {s : Swap}
    (hs : s ∈ p.group.swaps) : s.protocol = p.group.protocol := by
  have hgroup : p.group ∈ t.groupsOf order := by
    rw [← map_group_planFor t f order router approvals]
    exact List.mem_map_of_mem h
  exact Route.protocol_of_mem_group hgroup hs

end Strategies

/-! ## What swaps and groups say -/

/-- The data of a swap of a family with a spender say whether an approval is needed: none is for the
native coin of a swap for a quote, and none where the chain has an approval of the one who holds the
input for the spender that is set up for the protocol. -/
def Swap.StatesNeed (config : Config) (reader? : Option ChainReader) (context : SwapContext) (s : Swap)
    (part : Bytes) : Prop :=
  ∀ venue setting, Venue.ofProtocol? s.protocol = some venue → venue.spenderSetting? = some setting →
    ∃ flag, SwapEncoder.HoldsFlag venue s context part flag ∧
      (flag = false ↔ venue = .rfq ∧ s.tokenIn = Address.native ∨
        ∃ reader ∈ reader?, SwapEncoder.IsApproved reader (config.settingsOf s.protocol) setting s
          context.holder)

/-- The call for a group is the executor of its protocol and the data of its swaps, and these say whether
approvals are needed. -/
def PlannedGroup.StatesNeeds (config : Config) (reader? : Option ChainReader) (p : PlannedGroup)
    (call : Bytes) : Prop :=
  ∃ a executor parts data, (p.group.protocol, a) ∈ config.executors ∧
    a.normal.toBytes = .ok executor ∧ call = executor ++ data ∧
    Strategies.joinGroup parts = .ok data ∧
    List.Forall₂ (Swap.StatesNeed config reader? p.context) p.group.swaps parts

theorem PlannedGroup.statesNeeds_of_callsExecutor {call : Bytes}
    (hsetUp : ∀ protocol e, t.encoders.get protocol = .ok e →
      EncoderRegistry.IsSetUp config (reader?.map .onChain) protocol e)
    (happrovals : p.context.approvals = none ∨ p.context.approvals = reader?.map .onChain)
    (hprotocol : ∀ s ∈ p.group.swaps, s.protocol = p.group.protocol) (hc : c.Fresh)
    (h : t.CallsExecutor c p call) : p.StatesNeeds config reader? call := by
  obtain ⟨e, executor, parts, data, he, hexecutor, hparts, hdata, hcall⟩ := h
  have hsetUp := hsetUp _ e he
  obtain ⟨a, ha, heq⟩ := hsetUp.executor
  rw [heq] at hexecutor
  refine ⟨a, executor, parts, data, ha, Address.toBytes_of_fieldBytes hexecutor, hcall, hdata, ?_⟩
  have hsource : p.context.approvals.or e.approvals = reader?.map .onChain := by
    rw [hsetUp.approvals]
    rcases happrovals with hnone | hsame
    · rw [hnone, Option.none_or]
    · rw [hsame, Option.or_self]
  refine ((List.forall₂_and_left _ _).2 ⟨hprotocol, hparts⟩).imp ?_
  rintro s part ⟨hsame, hpart⟩ venue setting hvenue hsetting
  rw [hsame, hsetUp.venue] at hvenue
  obtain rfl := Option.some.inj hvenue
  have hflag := SwapEncoder.exists_flag_of_encode hsetting hsource hc hpart
  rwa [hsetUp.settings, ← hsame] at hflag

namespace RouterEncoder

/-- **What a transaction is made of.**  The encoded swaps are the data of the transaction, or an argument
of the call that they are; and they are the calls for the groups of a plan, which have all the swaps of
the order. -/
structure IsMadeOf (r : RouterEncoder) (order : Order) (tx : Transaction) (f : RouterFunction)
    (e : EncodedOrder) (plan : List PlannedGroup) (calls : List Bytes) : Prop where
  chosen : r.strategies.choose order = .ok f
  data : order.withCall = false → tx.data = e.swaps
  argument : order.withCall = true →
    ∃ a texts types, IsCallOf r.strategies f order e tx.data a texts types
  read : Strategies.callsOf? f e.swaps = some calls
  swaps : (plan.flatMap fun p => p.group.swaps) = order.swaps

/-- The router that an order picks is normal if it is well formed. -/
theorem normal_of_routerOf {r : RouterEncoder} (h : r.routerOf order = .ok router)
    (hformed : router.isWellFormed = true) : router.normal = router := by
  rw [routerOf] at h
  split at h
  · cases h
    exact Address.normal_of_isWellFormed_normal hformed
  · cases h

/-- **An order is encoded as the calls of its executors**, and the transaction goes to the router that it
picks and that its groups are planned with. -/
theorem exists_isMadeOf {r : RouterEncoder} {tx : Transaction}
    (h : (r.encodeOrder approvals order).outcome c = .ok tx) :
    ∃ f e calls, r.IsMadeOf order tx f e (r.strategies.planFor f order tx.target approvals) calls ∧
      r.routerOf order = .ok tx.target ∧ tx.target.normal = tx.target ∧
      List.Forall₂ (r.strategies.CallsExecutor c) (r.strategies.planFor f order tx.target approvals)
        calls := by
  obtain ⟨-, router, f, e, hrouter, hf, he, htx⟩ := outcome_encodeOrder_eq_ok_iff.1 h
  obtain ⟨swaps, count, hfinish, hcount⟩ := Strategies.exists_finish_of_encodeFor he
  obtain ⟨calls, hread, hcalls⟩ := Strategies.exists_callsOf?_of_encodeFor he
  have hencoded : e.router = router := by
    obtain ⟨signed, -, rfl⟩ := Strategies.exists_signed_of_finish hfinish
    rfl
  obtain ⟨hformed, htarget, -⟩ := target_of_transaction htx
  rw [hencoded] at hformed htarget
  have hnormal := normal_of_routerOf hrouter hformed
  obtain rfl : tx.target = router := htarget.trans hnormal
  refine ⟨f, e, calls, ?_, hrouter, hnormal, hcalls⟩
  constructor
  case chosen => exact hf
  case data =>
    intro hcall
    have hdata := data_of_transaction htx
    rw [hcall, if_neg Bool.false_ne_true] at hdata
    exact (Except.ok.inj hdata).symm
  case argument =>
    exact fun hcall => exists_isCallOf hcall (Strategies.isFinished_of_finish hfinish) hcount htx
  case read => exact hread
  case swaps => exact Strategies.flatMap_swaps_planFor _ f order tx.target approvals

/-- **What a transaction says of the swaps of its order.**  The encoded swaps are the data of the
transaction, or an argument of the call that they are.  They are the calls for the groups of the order
as it is planned for the router that the transaction goes to.  The groups have all swaps of the order;
the input of a group is held by that router, or by whoever the group before pays; and the swaps say
whether approvals are needed. -/
structure StatesNeeds (r : RouterEncoder) (config : Config) (reader? : Option ChainReader)
    (approvals : Option ApprovalSource) (order : Order) (tx : Transaction) (f : RouterFunction)
    (e : EncodedOrder) (calls : List Bytes) : Prop where
  chosen : r.strategies.choose order = .ok f
  data : order.withCall = false → tx.data = e.swaps
  argument : order.withCall = true →
    ∃ a texts types, IsCallOf r.strategies f order e tx.data a texts types
  read : Strategies.callsOf? f e.swaps = some calls
  swaps : ((r.strategies.planFor f order tx.target approvals).flatMap fun p => p.group.swaps) = order.swaps
  held : Strategies.IsHeldAlong f tx.target (r.strategies.planFor f order tx.target approvals)
  stated : List.Forall₂ (PlannedGroup.StatesNeeds config reader?)
    (r.strategies.planFor f order tx.target approvals) calls

/-- **What an encoder says of approvals**, for single orders and for the orders of a call. -/
structure StatesAllNeeds (r : RouterEncoder) (config : Config) (reader? : Option ChainReader) :
    Prop where
  order : ∀ order approvals c tx, (approvals = none ∨ approvals = r.approvals) →
    Circumstances.Fresh c → (r.encodeOrder approvals order).outcome c = .ok tx →
      ∃ f e calls, r.StatesNeeds config reader? approvals order tx f e calls
  call : ∀ solutions c lists, (r.encodeSolutions solutions).outcome c = .ok lists →
    List.Forall₂ (fun solution transactions => List.Forall₂
      (fun order tx => ∃ f e calls, r.StatesNeeds config reader? r.approvals order tx f e calls)
      solution.orders transactions) solutions lists

variable {r : RouterEncoder} {chain : Chain} {signer : Option Signer} {given : Option Address}

theorem exists_statesNeeds (h : create chain config (reader?.map .onChain) signer setup given = .ok r)
    {tx : Transaction} (happrovals : approvals = none ∨ approvals = r.approvals) (hc : c.Fresh)
    (horder : (r.encodeOrder approvals order).outcome c = .ok tx) :
    ∃ f e calls, r.StatesNeeds config reader? approvals order tx f e calls := by
  obtain ⟨hsource, hsetUp⟩ := isSetUp_of_create h
  obtain ⟨f, e, calls, hmade, -, hnormal, hcalls⟩ := exists_isMadeOf horder
  refine ⟨f, e, calls, ?_⟩
  constructor
  case chosen => exact hmade.chosen
  case data => exact hmade.data
  case argument => exact hmade.argument
  case read => exact hmade.read
  case swaps => exact hmade.swaps
  case held =>
    have hheld := Strategies.isHeldAlong_planFor r.strategies f order tx.target approvals
    rwa [hnormal] at hheld
  case stated =>
    refine ((List.forall₂_and_left _ _).2 ⟨fun p hp => hp, hcalls⟩).imp ?_
    rintro p call ⟨hp, hcall⟩
    have hcontext := Strategies.approvals_of_mem_planFor hp
    rw [← hcontext, hsource] at happrovals
    exact PlannedGroup.statesNeeds_of_callsExecutor hsetUp happrovals
      (fun s hs => Strategies.protocol_of_mem_planFor hp hs) hc hcall

/-- **No approval is needed only where the chain has one**, or for the native coin of a swap for a
quote. -/
theorem statesNeeds_of_create
    (h : create chain config (reader?.map .onChain) signer setup given = .ok r) :
    r.StatesAllNeeds config reader? where
  order _ _ _ _ happrovals hc horder := exists_statesNeeds h happrovals hc horder
  call _ _ _ hlists := by
    refine (outcome_encodeSolutions_eq_ok_iff.1 hlists).imp fun solution transactions hsolution => ?_
    exact hsolution.imp fun order tx horder => exists_statesNeeds h (Or.inr rfl) (Or.inr rfl) horder

end RouterEncoder

namespace Sample

/-- A chain on which every allowance is the least one that is enough. -/
def enoughReader : ChainReader := fun _ _ => .ok (Bytes.ofNat 32 (Nat.pow 2 255 - 1))

/-- The tables of a chain with the executor for the vault alone. -/
def vaultConfig : Config :=
  { Config.bundled .ethereum with
    executors := [("vm:balancer_v2", ⟨"0x1d1499e622d69689cdf9004d05ec547d650ff211"⟩)] }

/-- An order through a pool of the vault. -/
def approvedSale : Order := { sale [swap vaultPool weth usdc] usdc with withCall := false }

/-- On such a chain the order is encoded, and says that no approval is needed: the last of the arguments
behind the address of the executor is false. -/
theorem statesNeeds_approvedSale :
    ∃ r, RouterEncoder.create .ethereum vaultConfig ((some enoughReader).map .onChain) none {} none =
        .ok r ∧ r.StatesAllNeeds vaultConfig (some enoughReader) ∧
      ∃ tx, (r.encodeOrder none approvedSale).outcome {} = .ok tx ∧
        (tx.data.drop 180).take 32 = Bytes.zeros 32 := by
  have hrun : (((RouterEncoder.create .ethereum vaultConfig ((some enoughReader).map .onChain) none {}
      none).toOption.bind fun r => ((r.encodeOrder none approvedSale).outcome {}).toOption).map fun tx =>
        (tx.data.drop 180).take 32) = some (Bytes.zeros 32) := by
    decide +kernel
  obtain ⟨tx, hencodes, hflag⟩ := Option.map_eq_some_iff.1 hrun
  obtain ⟨r, hr, htx⟩ := Option.bind_eq_some_iff.1 hencodes
  have hcreates := eq_ok_of_toOption_eq_some hr
  exact ⟨r, hcreates, RouterEncoder.statesNeeds_of_create hcreates, tx,
    eq_ok_of_toOption_eq_some htx, hflag⟩

end Sample

end SwapRouter
