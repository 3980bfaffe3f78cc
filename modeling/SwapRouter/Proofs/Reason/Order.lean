import SwapRouter.Proofs.FractionSum
import SwapRouter.Proofs.Reason.Setup
import SwapRouter.Proofs.Route.HopHeader
import SwapRouter.Proofs.Route.HopRest
import SwapRouter.Proofs.Route.Plain

/-!
# Orders that are refused for a reason

The checks of an order refuse it for a reason, and so do its swaps.  In between, the places of tokens
and the fractions are written into fields of one and of three bytes.  A fraction that the checks let
pass fits; the place of a token fits if no more than 256 tokens are listed.

The router, the receiver and the pools of the hops are addresses in their normal form, and they have
digits alone if those of the order and of the setup have.

* `Order.IsExact`: what is asked of an order.
* `Strategies.reasoned_choose`, `Strategies.reasoned_encodeGroup`, `Strategies.reasoned_splitHeaders`:
  the steps of an encoding.
* `Strategies.reasoned_encodeFor`: **the swaps of an order are encoded or refused for a reason.**
-/

namespace SwapRouter

/-- A plain address has digits alone. -/
theorem Address.IsPlain.isExact {a : Address} (h : a.IsPlain) : a.IsExact :=
  ⟨h.wellFormed, (exists_wellFormedBytes_iff h.wellFormed).1 h.bytes⟩

/-- Chunks take two bytes each besides what they hold, and none of them holds too much. -/
theorem Wire.length_join_le {bodies : List Bytes} {bs : Bytes} (h : join bodies = .ok bs) :
    bs.length ≤ bodies.length * (maxChunk + 2) := by
  induction bodies generalizing bs with
  | nil =>
    cases h
    exact Nat.zero_le _
  | cons body bodies ih =>
    obtain ⟨first, hfirst, h⟩ := bind_eq_ok_iff.1 h
    obtain ⟨others, hothers, h⟩ := bind_eq_ok_iff.1 h
    cases h
    obtain ⟨hlen, rfl⟩ := chunk_eq_ok_iff.1 hfirst
    have hrest := ih hothers
    rw [List.length_append, List.length_append, Bytes.length_ofNat, List.length_cons, Nat.succ_mul]
    omega

/-- What is asked of an order: its addresses have digits alone, and its swaps fit into a memory.  If
it forks, its tokens are few enough for the byte that names one of them. -/
structure Order.IsExact (order : Order) (config : Config) : Prop where
  givenToken : order.givenToken.IsExact
  checkedToken : order.checkedToken.IsExact
  receiver : order.receiver.IsExact
  router : ∀ a ∈ RouterEncoder.given? order.router, a.IsExact
  swaps : ∀ s ∈ order.swaps, s.IsExact
  length_lt : order.swaps.length < storageLimit
  tokens : order.shape config.capabilities = .ok .splitIn →
    (Route.tokenTable config.chain order
      (Route.group config.capabilities order.swaps)).dedup.length ≤ 256

namespace Route

variable {chain : Chain} {order : Order}

/-- The checks of an order fail for a reason only. -/
theorem reasoned_checkOrder : Reasoned (fun _ => True) (checkOrder chain order) := by
  rw [checkOrder]
  cases hswaps : order.swaps with
  | nil => exact .reason _
  | cons s swaps =>
    cases checkNativeAction chain order with
    | error e => exact .reason e
    | ok u =>
      change Reasoned _ (checkCycles order)
      rw [checkCycles, hswaps, List.head?_cons, List.getLast?_cons]
      dsimp only
      split
      · exact .ok trivial
      · split
        · exact .reason _
        · split
          · exact .reason _
          · exact .ok trivial

end Route

namespace Strategies

variable {t : Strategies} {order : Order} {router : Address} {approvals : Option ApprovalSource}
  {g : SwapGroup} {context : SwapContext}

/-- **The choice of a function** fails for a reason only, and the function for forks is chosen for
orders that fork. -/
theorem reasoned_choose :
    Reasoned (fun f => f = .split → order.shape t.config.capabilities = .ok .splitIn)
      (t.choose order) := by
  unfold choose
  cases t.checkProtocols order with
  | error e => exact .reason e
  | ok u =>
    refine Route.reasoned_checkOrder.bind fun _ _ => ?_
    cases hchoice : order.shape t.config.capabilities >>= functionOf with
    | error e => exact .reason e
    | ok f =>
      refine .ok fun hsplit => ?_
      obtain ⟨shape, hshape, hf⟩ := bind_eq_ok_iff.1 hchoice
      rw [hsplit] at hf
      cases shape
      case splitIn => exact hshape
      all_goals cases hf

/-! ## Groups -/

/-- The token that a group gives is given by one of its swaps. -/
theorem exists_tokenOut (g : SwapGroup) : ∃ s ∈ g.swaps, g.tokenOut = s.tokenOut :=
  ⟨g.later.getLastD g.first, List.getLastD_mem_cons, rfl⟩

/-- There are no more groups than swaps. -/
theorem length_le_flatMap (groups : List SwapGroup) :
    groups.length ≤ (groups.flatMap SwapGroup.swaps).length := by
  induction groups with
  | nil => exact Nat.zero_le _
  | cons g groups ih =>
    rw [List.flatMap_cons, List.length_append, SwapGroup.swaps, List.length_cons, List.length_cons]
    omega

theorem length_group_le (capabilities : Capabilities) (swaps : List Swap) :
    (Route.group capabilities swaps).length ≤ swaps.length := by
  have hle := length_le_flatMap (Route.group capabilities swaps)
  rwa [Route.flatMap_swaps_group] at hle

/-- The data of so many swaps take up no more bytes than that. -/
def dataLimit (count : ℕ) : ℕ := swapLimit + 20 + count * (Wire.maxChunk + 2)

/-- The first swap of a group has no length in front, the others have. -/
theorem length_joinGroup_le {parts : List Bytes} {bs : Bytes} (h : joinGroup parts = .ok bs)
    (hparts : ∀ part ∈ parts, IsShort part) :
    bs.length ≤ swapLimit + parts.length * (Wire.maxChunk + 2) := by
  cases parts with
  | nil =>
    cases h
    exact Nat.zero_le _
  | cons first later =>
    obtain ⟨chunks, hchunks, h⟩ := bind_eq_ok_iff.1 h
    cases h
    have hfirst : first.length ≤ swapLimit := hparts first List.mem_cons_self
    have hlater := Wire.length_join_le hchunks
    rw [List.length_append, List.length_cons, Nat.succ_mul]
    omega

/-- **A group is encoded or refused for a reason.** -/
theorem reasoned_encodeGroup (hencoders : ∀ protocol e, t.encoders.get protocol = .ok e → e.IsExact)
    (hswaps : ∀ s ∈ g.swaps, s.IsExact) (hcontext : context.IsExact) :
    (t.encodeGroup ⟨g, context⟩).Reasoned fun bs => bs.length ≤ dataLimit g.swaps.length := by
  refine Encode.reasoned_require_bind fun e he => ?_
  have hjobs : ∀ job ∈ g.swaps.map fun s => e.encode s context, job.Reasoned IsShort :=
    List.forall_mem_map.2 fun s hs =>
      SwapEncoder.reasoned_encode (hencoders _ e he) (hswaps s hs) hcontext
  refine (Encode.reasoned_sideBySide hjobs).bind fun parts hall => ?_
  obtain ⟨hlen, hparts⟩ := hall
  refine Encode.reasoned_require_bind fun data hdata => ?_
  refine (Encode.reasoned_ofExcept (hencoders _ e he).executor.reasoned_fieldBytes).bind
    fun executor hexecutor => ?_
  have hdataLen := length_joinGroup_le hdata hparts
  rw [List.length_map] at hlen
  rw [hlen] at hdataLen
  refine Encode.reasoned_pure ?_
  rw [List.length_append, hexecutor, dataLimit]
  omega

/-- **Along a route** the output goes to addresses with digits alone, and the input is held by such
ones. -/
theorem isExact_of_mem_plan {setting : TransferSetting} {given receiver : Address}
    {wraps unwraps isPaid : Bool} {groups : List SwapGroup} {hop : Hop}
    (hrouter : setting.router.IsExact) (hreceiver : receiver.IsExact)
    (hpools : ∀ g ∈ groups, g.entryPool.isWellFormed = true → g.entryPool.hasHexDigits = true)
    (h : hop ∈ setting.plan given receiver wraps unwraps isPaid groups) :
    hop.receiver.IsExact ∧ hop.holder.IsExact := by
  induction groups generalizing isPaid with
  | nil => exact absurd h List.not_mem_nil
  | cons g groups ih =>
    obtain ⟨hpool, hothers⟩ := List.forall_mem_cons.1 hpools
    rw [TransferSetting.plan, List.mem_cons] at h
    rcases h with rfl | h
    · constructor
      · cases groups with
        | nil =>
          rw [List.head?_nil, TransferSetting.receiver]
          cases unwraps with
          | true => exact hrouter.normal
          | false => exact hreceiver.normal
        | cons next groups =>
          rw [List.head?_cons, TransferSetting.receiver]
          split
          next hdirect =>
            have hformed := (Bool.and_eq_true _ _ ▸ hdirect).2
            exact Address.IsExact.normal ⟨hformed, hothers next List.mem_cons_self hformed⟩
          next => exact hrouter.normal
      · rw [TransferSetting.holder]
        dsimp only
        split
        next hpaid =>
          have hformed := (Bool.and_eq_true _ _ ▸ hpaid).2
          exact Address.IsExact.normal ⟨hformed, hpool hformed⟩
        next => exact hrouter.normal
    · exact ih hothers h

/-- The context of a group of such swaps. -/
theorem isExact_contextOf {hop : Hop} (hswaps : ∀ s ∈ g.swaps, s.IsExact)
    (hrouter : router.IsExact) (hreceiver : hop.receiver.IsExact) (hholder : hop.holder.IsExact)
    (happrovals : ∀ source ∈ approvals, source.IsReasoned) :
    (contextOf order g router hop approvals).IsExact := by
  obtain ⟨last, hlast, hout⟩ := exists_tokenOut g
  have hrouters : ∀ a ∈ some router, a.IsExact := fun a ha => Option.mem_some.1 ha ▸ hrouter
  refine ⟨hreceiver, hrouters, hholder, (hswaps g.first List.mem_cons_self).tokenIn, ?_, happrovals⟩
  change g.tokenOut.IsExact
  rw [hout]
  exact (hswaps last hlast).tokenOut

/-! ## Headers -/

/-- The place of a listed token fits one byte, if there are few of them. -/
theorem reasoned_position {table : List Address} {token : Address}
    (htable : ∀ n, Route.tokenPosition table token = .ok n → n < 256) :
    Reasoned (fun n => n < Nat.pow 256 1) (splitHeader.position table token) := by
  rw [splitHeader.position]
  cases hplace : Route.tokenPosition table token with
  | ok n => exact .ok (htable n hplace)
  | error e => exact .reason e

theorem reasoned_fixed {size n : ℕ} (h : n < Nat.pow 256 size) :
    Reasoned (fun bs => bs.length = size) (Wire.fixed size n) :=
  reasoned_of_exists (Wire.exists_fixed h)

/-- **A header is written or refused for a reason.** -/
theorem reasoned_splitHeader {table : List Address} {later : List Swap}
    (htable : ∀ token n, Route.tokenPosition table token = .ok n → n < 256)
    (hfraction : Route.isFraction g.split = true) :
    Reasoned (fun bs => bs.length = 5) (splitHeader table g later) := by
  have hwrite : ∀ parts : ℕ, parts < Nat.pow 256 3 → Reasoned (fun bs => bs.length = 5) (do
      let tokenIn ← splitHeader.position table g.tokenIn
      let tokenOut ← splitHeader.position table g.tokenOut
      let inByte ← Wire.fixed 1 tokenIn
      let outByte ← Wire.fixed 1 tokenOut
      let partBytes ← Wire.fixed 3 parts
      return inByte ++ outByte ++ partBytes : Except Failure Bytes) := by
    intro parts hparts
    refine (reasoned_position (htable g.tokenIn)).bind fun tokenIn hin => ?_
    refine (reasoned_position (htable g.tokenOut)).bind fun tokenOut hout => ?_
    refine (reasoned_fixed hin).bind fun inByte hinByte => ?_
    refine (reasoned_fixed hout).bind fun outByte houtByte => ?_
    refine (reasoned_fixed hparts).bind fun partBytes hpartBytes => ?_
    refine .ok ?_
    rw [List.length_append, List.length_append, hinByte, houtByte, hpartBytes]
  rw [splitHeader]
  split
  · exact hwrite 0 (by decide)
  · have hscale : Wire.fractionScale < Nat.pow 256 3 := by decide
    rw [Wire.fractionParts_of_isFraction hfraction]
    exact hwrite _ ((Wire.partsOf_le_fractionScale hfraction).trans_lt hscale)

theorem reasoned_splitHeaders {table : List Address} {groups : List SwapGroup}
    (htable : ∀ token n, Route.tokenPosition table token = .ok n → n < 256)
    (hfractions : ∀ g ∈ groups, Route.isFraction g.split = true) :
    Reasoned (fun _ => True) (splitHeaders table groups) := by
  induction groups with
  | nil => exact .ok trivial
  | cons g groups ih =>
    obtain ⟨hg, hgroups⟩ := List.forall_mem_cons.1 hfractions
    refine (reasoned_splitHeader htable hg).bind fun first _ => ?_
    exact (ih hgroups).bind fun others _ => .ok trivial

end Strategies

/-! ## Encoding -/

/-- What an encoding without a permit hands on to the call of the router. -/
structure EncodedOrder.IsCallable (e : EncodedOrder) (f : RouterFunction) : Prop where
  router : e.router.IsExact
  signature : e.signature = routerSignature f.name false f.takesTokenCount
  permit : e.permit = none
  short : e.swaps.length < 2 ^ 96
  tokenCount : ∃ count < 2 ^ 96, e.tokenCount = (count : ℕ) ∧ (count = 0 ↔ f ≠ .split)

namespace Strategies

variable {t : Strategies} {order : Order} {router : Address} {approvals : Option ApprovalSource}
  {f : RouterFunction}

theorem dataLimit_lt {count : ℕ} (h : count ≤ storageLimit) : dataLimit count < 2 ^ 96 := by
  unfold dataLimit swapLimit Wire.maxChunk
  unfold storageLimit at h ⊢
  omega

theorem reasoned_finish (hsigner : t.signer = none) (hrouter : router.IsExact) {bs : Bytes}
    {count : ℕ} (hshort : bs.length < 2 ^ 96) (hcount : count < 2 ^ 96)
    (hzero : count = 0 ↔ f ≠ .split) :
    (t.finish f order router bs count).Reasoned fun e => e.IsCallable f := by
  have hpermit : t.usesPermit order = false := by rw [usesPermit, hsigner]; rfl
  rw [finish, hpermit]
  refine Encode.reasoned_pure ⟨hrouter, ?_, rfl, hshort, count, hcount, rfl, hzero⟩
  rw [signatureOf, hpermit]

/-- What is asked of those who encode an order. -/
structure IsExact (t : Strategies) : Prop where
  encoders : ∀ protocol e, t.encoders.get protocol = .ok e → e.IsExact
  signer : t.signer = none

section

variable (ht : t.IsExact) (horder : order.IsExact t.config) (hrouter : router.IsExact)
  (happrovals : ∀ source ∈ approvals, source.IsReasoned)

include ht horder hrouter happrovals

/-- Every group of a route is encoded or refused for a reason. -/
theorem reasoned_of_mem_planLinear {p : PlannedGroup}
    (hp : p ∈ t.planLinear order router approvals
      (Route.group t.config.capabilities order.swaps)) :
    (t.encodeGroup p).Reasoned fun bs => bs.length ≤ dataLimit p.group.swaps.length := by
  rw [planLinear, ← List.map_uncurry_zip_eq_zipWith, List.mem_map] at hp
  obtain ⟨⟨g, hop⟩, hzip, rfl⟩ := hp
  obtain ⟨hg, hhop⟩ := List.of_mem_zip hzip
  have hswaps : ∀ g ∈ Route.group t.config.capabilities order.swaps, ∀ s ∈ g.swaps, s.IsExact :=
    fun g hg s hs => horder.swaps s ((Route.sublist_of_mem_group hg).subset hs)
  obtain ⟨hreceiver, hholder⟩ := isExact_of_mem_plan hrouter horder.receiver
    (fun g hg => (hswaps g hg g.first List.mem_cons_self).pool) hhop
  exact reasoned_encodeGroup ht.encoders (hswaps g hg)
    (isExact_contextOf (hswaps g hg) hrouter hreceiver hholder happrovals)

theorem reasoned_encodeSingle :
    (t.encodeSingle order router approvals).Reasoned fun e => e.IsCallable .single := by
  rw [encodeSingle]
  split
  next g hg =>
    split
    · exact Encode.reasoned_fail
    · refine Encode.reasoned_require_bind fun _ _ => ?_
      obtain ⟨p, hp⟩ :=
        List.length_eq_one_iff.1 (length_planLinear t order router approvals [g])
      have hmem : p ∈ t.planLinear order router approvals
          (Route.group t.config.capabilities order.swaps) := by
        rw [hg, hp]
        exact List.mem_singleton_self p
      have hgroup : p.group = g := by
        rw [planLinear, ← List.map_uncurry_zip_eq_zipWith, List.map_eq_singleton_iff] at hp
        obtain ⟨⟨g', hop⟩, hzip, rfl⟩ := hp
        have hmem := (List.of_mem_zip (hzip ▸ List.mem_singleton_self (g', hop))).1
        exact List.mem_singleton.1 hmem
      have hflat := Route.flatMap_swaps_group t.config.capabilities order.swaps
      rw [hg, List.flatMap_singleton] at hflat
      rw [hp]
      refine (reasoned_of_mem_planLinear ht horder hrouter happrovals hmem).bind
        fun swaps hswaps => ?_
      rw [hgroup, hflat] at hswaps
      exact reasoned_finish ht.signer hrouter (hswaps.trans_lt (dataLimit_lt horder.length_lt.le))
        (by decide) (iff_of_true rfl (by decide))
  next => exact Encode.reasoned_fail

omit ht hrouter happrovals in
/-- Hops that are joined are short enough. -/
theorem short_of_join {hops : List Bytes} {bs : Bytes} (hjoin : Wire.join hops = .ok bs)
    (hlen : hops.length ≤ (Route.group t.config.capabilities order.swaps).length) :
    bs.length < 2 ^ 96 := by
  have hle := Wire.length_join_le hjoin
  have hcount := length_group_le t.config.capabilities order.swaps
  have hscaled := Nat.mul_le_mul_right (Wire.maxChunk + 2) (hlen.trans hcount)
  have hlimit := dataLimit_lt horder.length_lt.le
  rw [dataLimit] at hlimit
  omega

theorem reasoned_encodeSequential :
    (t.encodeSequential order router approvals).Reasoned fun e => e.IsCallable .sequential := by
  refine Encode.reasoned_require_bind fun _ _ => ?_
  have hjobs : ∀ job ∈ (t.planLinear order router approvals
      (Route.group t.config.capabilities order.swaps)).map t.encodeGroup,
      job.Reasoned fun _ => True := by
    refine List.forall_mem_map.2 fun p hp c hc => ?_
    exact (reasoned_of_mem_planLinear ht horder hrouter happrovals hp c hc).mono fun _ _ => trivial
  refine (Encode.reasoned_sideBySide hjobs).bind fun hops hall => ?_
  obtain ⟨hlen, -⟩ := hall
  rw [List.length_map, length_planLinear] at hlen
  refine Encode.reasoned_require_bind fun swaps hswaps => ?_
  exact reasoned_finish ht.signer hrouter (short_of_join horder hswaps hlen.le)
    (by decide) (iff_of_true rfl (by decide))

theorem reasoned_encodeSplit (htokens : (Route.tokenTable t.config.chain order
      (Route.group t.config.capabilities order.swaps)).dedup.length ≤ 256) :
    (t.encodeSplit order router approvals).Reasoned fun e => e.IsCallable .split := by
  refine Encode.reasoned_require_bind fun _ hsplits => ?_
  refine Encode.reasoned_require_bind fun _ _ => ?_
  have hswaps : ∀ g ∈ Route.group t.config.capabilities order.swaps,
      ∀ s ∈ g.swaps, s ∈ order.swaps := fun g hg _ hs => (Route.sublist_of_mem_group hg).subset hs
  have hheaders : Reasoned _ (splitHeaders (Route.tokenTable t.config.chain order
      (Route.group t.config.capabilities order.swaps))
      (Route.group t.config.capabilities order.swaps)) :=
    reasoned_splitHeaders (fun token n hn => (Route.lt_of_tokenPosition hn).trans_le htokens)
      fun g hg => Route.isFraction_of_checkSplits hsplits (hswaps g hg g.first List.mem_cons_self)
  refine (Encode.reasoned_ofExcept hheaders).bind fun headers _ => ?_
  have hjobs : ∀ job ∈ (Route.group t.config.capabilities order.swaps).map fun g =>
      t.encodeGroup ⟨g, contextOf order g router (t.splitHop order router g) approvals⟩,
      job.Reasoned fun _ => True := by
    refine List.forall_mem_map.2 fun g hg c hc => ?_
    have hexact : ∀ s ∈ g.swaps, s.IsExact := fun s hs => horder.swaps s (hswaps g hg s hs)
    have hreceiver : (t.splitHop order router g).receiver.IsExact := by
      rw [splitHop]
      dsimp only
      split
      · exact horder.receiver.normal
      · exact hrouter.normal
    have hcontext : (contextOf order g router (t.splitHop order router g) approvals).IsExact :=
      isExact_contextOf hexact hrouter hreceiver hrouter.normal happrovals
    exact (reasoned_encodeGroup ht.encoders hexact hcontext c hc).mono fun _ _ => trivial
  refine (Encode.reasoned_sideBySide hjobs).bind fun hops hall => ?_
  obtain ⟨hlen, -⟩ := hall
  rw [List.length_map] at hlen
  refine Encode.reasoned_require_bind fun swaps hjoin => ?_
  have hcount : (List.zipWith (· ++ ·) headers hops).length ≤
      (Route.group t.config.capabilities order.swaps).length := by
    rw [List.length_zipWith, hlen]
    exact Nat.min_le_right _ _
  refine reasoned_finish ht.signer hrouter (short_of_join horder hjoin hcount) ?_
    (iff_of_false (tokenCount_ne_zero _ order _) fun hne => hne rfl)
  -- the table lists at most one token twice
  have hdedup := Route.length_dedup_tokenTable t.config.chain order
    (Route.group t.config.capabilities order.swaps)
  rw [hdedup] at htokens
  rw [Route.tokenCount]
  split at htokens <;> split <;> omega

/-- **The swaps of an order are encoded or refused for a reason.** -/
theorem reasoned_encodeFor
    (hf : f = .split → order.shape t.config.capabilities = .ok .splitIn) :
    (t.encodeFor f order router approvals).Reasoned fun e => e.IsCallable f := by
  cases f with
  | single => exact reasoned_encodeSingle ht horder hrouter happrovals
  | sequential => exact reasoned_encodeSequential ht horder hrouter happrovals
  | split => exact reasoned_encodeSplit ht horder hrouter happrovals (horder.tokens (hf rfl))

end

end Strategies

end SwapRouter
