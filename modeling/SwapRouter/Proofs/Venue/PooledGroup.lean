import SwapRouter.Proofs.Codec
import SwapRouter.Proofs.Route.HopChunks
import SwapRouter.Proofs.Route.HopRest
import SwapRouter.Proofs.Route.Join

/-!
# The data of a group at a single manager

A contract that runs a group reads one header and, for each swap, the record of a pool: the first one
behind the header, the others as chunks.  Whether a swap is written with the header is decided for
each swap on its own, by comparing its token with the token that the group takes.  This is right
because no other swap of the group takes that token: a swap is merged only if its token is no fork,
and a token that two swaps take is one.

The data are read in one way only.  Every field has a fixed width, the data for a hook have their
length in front, and a chunk holds one record and nothing else.

* `UniswapV4.PoolRecord`, `UniswapV4.GroupHeader`, `UniswapV4.GroupRecord`: what is read.
* `UniswapV4.GroupRecord.read?_eq_some_iff`: data are read as what they are written for.
* `Route.Unforked.tokenIn_ne_of_mem`: the first swap of a group is the only one that takes its token.
* `UniswapV4.exists_groupRecord`: **the data of a group read as its swaps**, one by one.
-/

namespace SwapRouter

/-! ## The order of byte strings -/

namespace Bytes

/-- Of byte strings of the same length the one that comes first stands for the smaller number. -/
theorem isBefore_iff_toNat_lt {as bs : Bytes} (h : as.length = bs.length) :
    as.isBefore bs = true ↔ toNat as < toNat bs := by
  induction as generalizing bs with
  | nil =>
    obtain rfl := List.eq_nil_of_length_eq_zero h.symm
    decide
  | cons a as ih =>
    cases bs with
    | nil => cases h
    | cons b bs =>
      have hlen : as.length = bs.length := Nat.succ.inj h
      have has := toNat_lt as
      have hbs := toNat_lt bs
      rw [hlen] at has
      rw [isBefore, toNat_cons, toNat_cons, hlen, Bool.or_eq_true, Bool.and_eq_true,
        decide_eq_true_eq, decide_eq_true_eq, ih hlen, UInt8.lt_iff_toNat_lt, ← UInt8.toNat_inj]
      -- the first bytes decide unless they are the same
      rcases Nat.lt_trichotomy a.toNat b.toNat with hlt | heq | hgt
      · have hstep := Nat.mul_le_mul_right (Nat.pow 256 bs.length) hlt
        rw [Nat.succ_mul] at hstep
        exact iff_of_true (Or.inl hlt) (by omega)
      · rw [heq]
        simp
      · have hstep := Nat.mul_le_mul_right (Nat.pow 256 bs.length) hgt
        rw [Nat.succ_mul] at hstep
        exact iff_of_false (by omega) (by omega)

end Bytes

/-- What stands in a field for an address with digits alone are its twenty bytes. -/
theorem Address.IsExact.standsFor {a : Address} (h : a.IsExact) {field : String} {bs : Bytes}
    (hbs : a.fieldBytes field = .ok bs) : a.StandsFor bs := by
  obtain ⟨bs', hbs', hlen⟩ := h.exists_bytes
  rw [fieldBytes, if_pos h.wellFormed, hbs'] at hbs
  cases hbs
  exact ⟨by rw [toBytes, if_pos h.wellFormed, hbs'], hlen⟩

/-! ## The first swap of a group -/

namespace Route

variable {groups : List SwapGroup} {g : SwapGroup} {s : Swap}

/-- **The first swap of a group is the only one that takes its token.** -/
theorem Unforked.tokenIn_ne_of_mem (h : Unforked groups) (hg : g ∈ groups) (hs : s ∈ g.later) :
    s.tokenIn ≠ g.tokenIn := by
  have hself : ([g].flatMap SwapGroup.swaps).Sublist (groups.flatMap SwapGroup.swaps) := by
    rw [List.flatMap_singleton, List.flatMap_def]
    exact List.sublist_flatten_of_mem (List.mem_map_of_mem hg)
  have halone : Unforked [g] := by
    intro g' hg' s' hs'
    obtain rfl := List.mem_singleton.1 hg'
    exact isFork_eq_false_of_sublist hself (h g' hg s' hs')
  exact halone.tokenIn_ne List.mem_cons_self hs

end Route

namespace UniswapV4

/-! ## What is read -/

/-- The parameters of a pool. -/
structure PoolRecord where
  tokenOut : { bs : Bytes // bs.length = 20 }
  fee : Fin (Nat.pow 256 3)
  spacing : Fin (Nat.pow 256 3)
  hooks : { bs : Bytes // bs.length = 20 }
  hookData : { body : Bytes // body.length ≤ Wire.maxChunk }

/-- The parameters of a pool: the fields one after the other, and the data behind their length. -/
def PoolRecord.codec : Codec PoolRecord :=
  ((Codec.field 20).pair <| (Codec.number 3).pair <| (Codec.number 3).pair <|
    (Codec.field 20).pair Codec.chunk).map
    { toFun := fun (tokenOut, fee, spacing, hooks, hookData) =>
        ⟨tokenOut, fee, spacing, hooks, hookData⟩
      invFun := fun r => (r.tokenOut, r.fee, r.spacing, r.hooks, r.hookData)
      left_inv := fun _ => rfl
      right_inv := fun _ => rfl }

/-- What stands in front of the first swap of a group. -/
structure GroupHeader where
  tokenIn : { bs : Bytes // bs.length = 20 }
  tokenOut : { bs : Bytes // bs.length = 20 }
  isAscending : Bool
  transferType : TransferType
  receiver : { bs : Bytes // bs.length = 20 }

/-- A truth value. -/
def flagCodec : Codec Bool :=
  Codec.byte Wire.flagByte [false, true] (by decide) (by decide)

/-- A way for tokens to reach a pool. -/
def transferCodec : Codec TransferType :=
  Codec.byte TransferType.byte [.transferFrom, .transfer, .none]
    (fun a => by cases a <;> decide) (fun a b => by cases a <;> cases b <;> decide)

/-- The header of a group: the fields one after the other. -/
def GroupHeader.codec : Codec GroupHeader :=
  ((Codec.field 20).pair <| (Codec.field 20).pair <| flagCodec.pair <| transferCodec.pair <|
    Codec.field 20).map
    { toFun := fun (tokenIn, tokenOut, isAscending, transferType, receiver) =>
        ⟨tokenIn, tokenOut, isAscending, transferType, receiver⟩
      invFun := fun h => (h.tokenIn, h.tokenOut, h.isAscending, h.transferType, h.receiver)
      left_inv := fun _ => rfl
      right_inv := fun _ => rfl }

/-- The data of a group: a header, the record of the first swap, and those of the others. -/
structure GroupRecord where
  header : GroupHeader
  first : PoolRecord
  later : List PoolRecord

namespace GroupRecord

/-- Writes the records behind the first one as chunks. -/
def write (d : GroupRecord) : Except EncodingError Bytes := do
  let chunks ← Wire.join (d.later.map PoolRecord.codec.write)
  return GroupHeader.codec.write d.header ++ PoolRecord.codec.write d.first ++ chunks

/-- Reads the header, the first record, and one record from each chunk. -/
def read? (data : Bytes) : Option GroupRecord := do
  let (header, data) ← GroupHeader.codec.read? data
  let (first, data) ← PoolRecord.codec.read? data
  let chunks ← Wire.split? data
  let later ← chunks.mapM PoolRecord.codec.readAll?
  return ⟨header, first, later⟩

/-- **Data are read as what they are written for**, and as nothing else. -/
theorem read?_eq_some_iff {data : Bytes} {d : GroupRecord} :
    read? data = some d ↔ d.write = .ok data := by
  constructor
  · intro h
    obtain ⟨⟨header, behind⟩, hheader, h⟩ := Option.bind_eq_some_iff.1 h
    obtain ⟨⟨first, rest⟩, hfirst, h⟩ := Option.bind_eq_some_iff.1 h
    obtain ⟨chunks, hchunks, h⟩ := Option.bind_eq_some_iff.1 h
    obtain ⟨later, hlater, h⟩ := Option.bind_eq_some_iff.1 h
    cases h
    rw [GroupHeader.codec.read?_eq_some_iff.1 hheader, PoolRecord.codec.read?_eq_some_iff.1 hfirst,
      ← List.append_assoc]
    rw [Codec.mapM_readAll?_eq_some_iff.1 hlater] at hchunks
    rw [write, Wire.join_of_split? hchunks]
    rfl
  · intro h
    obtain ⟨chunks, hchunks, h⟩ := bind_eq_ok_iff.1 h
    cases h
    rw [List.append_assoc]
    refine Option.bind_eq_some_iff.2 ⟨_, GroupHeader.codec.read?_eq_some_iff.2 rfl, ?_⟩
    refine Option.bind_eq_some_iff.2 ⟨_, PoolRecord.codec.read?_eq_some_iff.2 rfl, ?_⟩
    refine Option.bind_eq_some_iff.2 ⟨_, Wire.split?_of_join hchunks, ?_⟩
    exact Option.bind_eq_some_iff.2 ⟨_, Codec.mapM_readAll?_eq_some_iff.2 rfl, rfl⟩

end GroupRecord

/-! ## What is read of a swap -/

/-- A record says of a swap what it gives, and of its pool the numbers that its attributes stand for;
a pool without hooks has the zero address there. -/
structure PoolRecord.Describes (r : PoolRecord) (s : Swap) : Prop where
  tokenOut : s.tokenOut.StandsFor r.tokenOut
  fee : (s.pool.attributes.lookup "key_lp_fee").map Bytes.toNat = some r.fee
  spacing : (s.pool.attributes.lookup "tick_spacing").map Bytes.toNat = some r.spacing
  hooks : Bytes.toNat r.hooks = ((s.pool.attributes.lookup "hooks").map Bytes.toNat).getD 0
  hookData : r.hookData = s.userData.getD []

/-- A header says of a group its two ends, whether its first swap leads from the smaller address to
the greater one, how its input reaches the pool, and who receives its output. -/
structure GroupHeader.Describes (h : GroupHeader) (g : SwapGroup) (context : SwapContext) :
    Prop where
  tokenIn : g.tokenIn.StandsFor h.tokenIn
  tokenOut : g.tokenOut.StandsFor h.tokenOut
  direction : ∃ tokenIn tokenOut, g.first.tokenIn.StandsFor tokenIn ∧
    g.first.tokenOut.StandsFor tokenOut ∧
    (h.isAscending = true ↔ Bytes.toNat tokenIn < Bytes.toNat tokenOut)
  transferType : h.transferType = context.transferType
  receiver : context.receiver.StandsFor h.receiver

/-- Data say of a group what its header does, and of each swap in turn what its record does. -/
structure GroupRecord.Describes (d : GroupRecord) (g : SwapGroup) (context : SwapContext) :
    Prop where
  header : d.header.Describes g context
  swaps : List.Forall₂ PoolRecord.Describes (d.first :: d.later) g.swaps

variable {s : Swap} {context : SwapContext} {bs : Bytes}

/-- A number of a pool is written as the number that its attribute stands for. -/
theorem exists_number_of_poolNumber {name : String} {width : ℕ}
    (h : s.poolNumber name width = .ok bs) :
    ∃ n : Fin (Nat.pow 256 width), (Codec.number width).write n = bs ∧
      (s.pool.attributes.lookup name).map Bytes.toNat = some n.val := by
  unfold Swap.poolNumber at h
  split at h
  next bs' hbs =>
    cases h
    obtain ⟨value, hvalue, hfit⟩ := bind_eq_ok_iff.1 hbs
    have hlen : bs.length = width := Wire.length_of_fit hfit
    have hlt := Bytes.toNat_lt bs
    rw [hlen] at hlt
    refine ⟨⟨Bytes.toNat bs, hlt⟩, ?_, ?_⟩
    · change Bytes.ofNat width (Bytes.toNat bs) = bs
      rw [← hlen, Bytes.ofNat_toNat (Nat.le_refl _), Nat.sub_self]
      rfl
    · unfold Swap.poolAttribute at hvalue
      split at hvalue
      next held hheld =>
        cases hvalue
        rw [hheld, Option.map_some, ← Wire.toNat_of_fit hfit]
      next => cases hvalue
  next => cases h

/-- The hooks are written as the number that the attribute stands for, which is zero without one. -/
theorem toNat_of_hooks (h : hooks s = .ok bs) : bs.length = 20 ∧
    Bytes.toNat bs = ((s.pool.attributes.lookup "hooks").map Bytes.toNat).getD 0 := by
  unfold hooks at h
  split at h
  next bs' hfit =>
    cases h
    refine ⟨Wire.length_of_fit hfit, ?_⟩
    rw [Wire.toNat_of_fit hfit]
    cases s.pool.attributes.lookup "hooks" with
    | none => decide
    | some value => rfl
  next => cases h

/-- The parameters of a pool are the record that describes it. -/
theorem exists_record_of_poolParameters (htoken : s.tokenOut.IsExact)
    (h : poolParameters s = .ok bs) :
    ∃ r : PoolRecord, PoolRecord.codec.write r = bs ∧ r.Describes s := by
  obtain ⟨fee, hfee, h⟩ := bind_eq_ok_iff.1 h
  obtain ⟨spacing, hspacing, h⟩ := bind_eq_ok_iff.1 h
  obtain ⟨hooks, hhooks, h⟩ := bind_eq_ok_iff.1 h
  dsimp only at h
  split at h
  · cases h
  next hshort =>
    obtain ⟨tokenOut, htokenOut, h⟩ := bind_eq_ok_iff.1 h
    cases h
    obtain ⟨feeNumber, rfl, hfeeValue⟩ := exists_number_of_poolNumber hfee
    obtain ⟨spacingNumber, rfl, hspacingValue⟩ := exists_number_of_poolNumber hspacing
    obtain ⟨hhooksLen, hhooksValue⟩ := toNat_of_hooks hhooks
    have hstands := htoken.standsFor htokenOut
    refine ⟨⟨⟨tokenOut, hstands.2⟩, feeNumber, spacingNumber, ⟨hooks, hhooksLen⟩,
      ⟨s.userData.getD [], Nat.le_of_not_lt hshort⟩⟩, ?_,
      ⟨hstands, hfeeValue, hspacingValue, hhooksValue, rfl⟩⟩
    simp only [List.append_assoc]
    rfl

/-- What stands in front of the first swap of a group is the header that describes the group. -/
theorem exists_header_of_groupHeader {g : SwapGroup} (hcontext : context.groupTokenIn = g.tokenIn ∧
      context.groupTokenOut = g.tokenOut) (hswaps : ∀ s ∈ g.swaps, s.tokenIn.IsExact ∧
      s.tokenOut.IsExact) (hreceiver : context.receiver.IsExact)
    (h : groupHeader g.first context = .ok bs) :
    ∃ header : GroupHeader, GroupHeader.codec.write header = bs ∧ header.Describes g context := by
  obtain ⟨tokenIn, htokenIn, h⟩ := bind_eq_ok_iff.1 h
  obtain ⟨tokenOut, htokenOut, h⟩ := bind_eq_ok_iff.1 h
  obtain ⟨groupIn, hgroupIn, h⟩ := bind_eq_ok_iff.1 h
  obtain ⟨groupOut, hgroupOut, h⟩ := bind_eq_ok_iff.1 h
  obtain ⟨receiver, hreceived, h⟩ := bind_eq_ok_iff.1 h
  cases h
  rw [hcontext.1] at hgroupIn
  rw [hcontext.2] at hgroupOut
  obtain ⟨hfirstIn, hfirstOut⟩ := hswaps g.first List.mem_cons_self
  have hlast : g.later.getLastD g.first ∈ g.swaps := List.getLastD_mem_cons
  have hin := hfirstIn.standsFor htokenIn
  have hout := hfirstOut.standsFor htokenOut
  have hends := hfirstIn.standsFor hgroupIn
  have hends' := (hswaps _ hlast).2.standsFor hgroupOut
  have hreceived' := hreceiver.standsFor hreceived
  refine ⟨⟨⟨groupIn, hends.2⟩, ⟨groupOut, hends'.2⟩, tokenIn.isBefore tokenOut,
    context.transferType, ⟨receiver, hreceived'.2⟩⟩, ?_, hends, hends', ?_, rfl, hreceived'⟩
  · simp only [List.append_assoc]
    rfl
  · exact ⟨tokenIn, tokenOut, hin, hout,
      Bytes.isBefore_iff_toNat_lt (hin.2.trans hout.2.symm)⟩

/-! ## A whole group -/

variable {t : Strategies} {g : SwapGroup} {c : Circumstances}

/-- The swaps behind the first one of a group are written as the records that describe them. -/
theorem exists_records {later : List Swap} {parts : List Bytes}
    (hswaps : ∀ s ∈ later, s.tokenOut.IsExact)
    (hother : ∀ s ∈ later, s.tokenIn ≠ context.groupTokenIn)
    (h : List.Forall₂ (fun s part => encode s context = .ok part) later parts) :
    ∃ records : List PoolRecord, records.map PoolRecord.codec.write = parts ∧
      List.Forall₂ PoolRecord.Describes records later := by
  induction h with
  | nil => exact ⟨[], rfl, .nil⟩
  | @cons s part later parts hpart _ ih =>
    obtain ⟨htoken, htokens⟩ := List.forall_mem_cons.1 hswaps
    obtain ⟨hne, hothers⟩ := List.forall_mem_cons.1 hother
    obtain ⟨parameters, hparameters, hpart⟩ := bind_eq_ok_iff.1 hpart
    rw [if_pos hne] at hpart
    cases hpart
    obtain ⟨record, hrecord, hdescribes⟩ := exists_record_of_poolParameters htoken hparameters
    obtain ⟨records, hrecords, hall⟩ := ih htokens hothers
    exact ⟨record :: records, by rw [List.map_cons, hrecord, hrecords], .cons hdescribes hall⟩

/-- The swaps of a group are written as the data that describe the group. -/
theorem exists_groupRecord_of_encode {parts : List Bytes} {data : Bytes}
    (hcontext : context.groupTokenIn = g.tokenIn ∧ context.groupTokenOut = g.tokenOut)
    (hswaps : ∀ s ∈ g.swaps, s.tokenIn.IsExact ∧ s.tokenOut.IsExact)
    (hreceiver : context.receiver.IsExact) (hother : ∀ s ∈ g.later, s.tokenIn ≠ g.tokenIn)
    (hparts : List.Forall₂ (fun s part => encode s context = .ok part) g.swaps parts)
    (hdata : Strategies.joinGroup parts = .ok data) :
    ∃ d : GroupRecord, d.write = .ok data ∧ d.Describes g context := by
  obtain ⟨part, parts, hfirst, hlater, rfl⟩ := List.forall₂_cons_left_iff.1 hparts
  obtain ⟨hfirstExact, hlaterExact⟩ := List.forall_mem_cons.1 hswaps
  obtain ⟨records, rfl, hrecords⟩ := exists_records (fun s hs => (hlaterExact s hs).2)
    (fun s hs => hcontext.1 ▸ hother s hs) hlater
  -- the first swap takes the token of the group, and has the header
  have hends : ¬ g.first.tokenIn ≠ context.groupTokenIn := not_not_intro hcontext.1.symm
  obtain ⟨parameters, hparameters, hfirst⟩ := bind_eq_ok_iff.1 hfirst
  rw [if_neg hends] at hfirst
  obtain ⟨written, hwritten, hfirst⟩ := bind_eq_ok_iff.1 hfirst
  cases hfirst
  obtain ⟨record, rfl, hrecord⟩ := exists_record_of_poolParameters hfirstExact.2 hparameters
  obtain ⟨header, rfl, hheader⟩ := exists_header_of_groupHeader hcontext hswaps hreceiver hwritten
  obtain ⟨chunks, hchunks, hjoined⟩ := bind_eq_ok_iff.1 hdata
  cases hjoined
  refine ⟨⟨header, record, records⟩, ?_, hheader, .cons hrecord hrecords⟩
  rw [GroupRecord.write, hchunks]
  rfl

/-- **The data of a group read as its swaps.**  If a group is encoded, its data behind the address of
the executor are read in one way only: as a header that describes the group, and a record for each
swap. -/
theorem exists_groupRecord {capabilities : Capabilities} {swaps : List Swap} {order : Order}
    {router : Address} {hop : Hop} {approvals : Option ApprovalSource}
    (hg : g ∈ Route.group capabilities swaps)
    (hvenue : ∃ e, t.encoders.get g.protocol = .ok e ∧ e.venue = .uniswapV4)
    (hswaps : ∀ s ∈ swaps, s.tokenIn.IsExact ∧ s.tokenOut.IsExact)
    (hreceiver : hop.receiver.IsExact)
    (h : (t.encodeGroup ⟨g, Strategies.contextOf order g router hop approvals⟩).outcome c =
      .ok bs) :
    ∃ e executor data d, t.encoders.get g.protocol = .ok e ∧
      e.executor.fieldBytes "executor address" = .ok executor ∧ bs = executor ++ data ∧
      GroupRecord.read? data = some d ∧ (∀ d', d'.write = .ok data ↔ d' = d) ∧
      d.Describes g (Strategies.contextOf order g router hop approvals) := by
  obtain ⟨e, executor, parts, data, he, hexecutor, hparts, hdata, rfl⟩ :=
    Strategies.outcome_encodeGroup_eq_ok_iff.1 h
  obtain ⟨e', he', hv4⟩ := hvenue
  obtain rfl : e = e' := Except.ok.inj (he.symm.trans he')
  have hencode : List.Forall₂ (fun s part =>
      encode s (Strategies.contextOf order g router hop approvals) = .ok part) g.swaps parts := by
    refine hparts.imp fun s part hpart => ?_
    rw [SwapEncoder.encode, hv4] at hpart
    exact (Encode.outcome_ofExcept _).symm.trans hpart
  have hmem : ∀ s ∈ g.swaps, s ∈ swaps := fun s hs => by
    rw [← Route.flatMap_swaps_group capabilities swaps]
    exact List.mem_flatMap_of_mem hg hs
  have hother : ∀ s ∈ g.later, s.tokenIn ≠ g.tokenIn := fun s hs =>
    Route.unforked_group.tokenIn_ne_of_mem hg hs
  obtain ⟨d, hwrite, hdescribes⟩ := exists_groupRecord_of_encode ⟨rfl, rfl⟩
    (fun s hs => hswaps s (hmem s hs)) hreceiver hother hencode hdata
  refine ⟨e, executor, data, d, he, hexecutor, rfl, GroupRecord.read?_eq_some_iff.2 hwrite,
    fun d' => ?_, hdescribes⟩
  constructor
  · intro hwrite'
    have hread := GroupRecord.read?_eq_some_iff.2 hwrite'
    rw [GroupRecord.read?_eq_some_iff.2 hwrite] at hread
    exact (Option.some.inj hread).symm
  · rintro rfl
    exact hwrite

end UniswapV4

namespace Sample

/-- Two swaps through pools of the manager. -/
def pooledSwaps : List Swap := [swap pooledUsdcWeth weth usdc, swap pooledDaiUsdc usdc dai]

/-- The group of both. -/
def pooledGroup : SwapGroup := ⟨swap pooledUsdcWeth weth usdc, [swap pooledDaiUsdc usdc dai]⟩

/-- A hop that takes the funds of the user, and pays the user. -/
def pooledHop : Hop := ⟨.transferFrom, user, router, false⟩

/-- The group with its hop. -/
def pooledPlan : PlannedGroup :=
  ⟨pooledGroup, Strategies.contextOf (sale pooledSwaps) pooledGroup router pooledHop none⟩

/-- Both pools take a fee of 3000 and have a spacing of 60; the first swap leads downwards. -/
example :
    (((strategies.encodeGroup pooledPlan).outcome {}).toOption.bind fun bs =>
      UniswapV4.GroupRecord.read? (bs.drop 20)).map (fun d =>
        (d.header.isAscending, (d.first :: d.later).map fun r => (r.fee.val, r.spacing.val))) =
      some (false, [(3000, 60), (3000, 60)]) := by
  decide +kernel

theorem isExact_of_mem_tokens {a : Address} (h : a ∈ user :: tokens) : a.IsExact := by
  have hrun : ∀ a ∈ user :: tokens, a.isWellFormed = true ∧ a.hasHexDigits = true := by
    decide +kernel
  exact ⟨(hrun a h).1, (hrun a h).2⟩

/-- The data of the group are read as its two swaps. -/
theorem exists_groupRecord_pooledSwaps : ∃ bs,
    pooledGroup ∈ Route.group strategies.config.capabilities pooledSwaps ∧
      (strategies.encodeGroup pooledPlan).outcome {} = .ok bs ∧
      ∃ executor data d, bs = executor ++ data ∧ UniswapV4.GroupRecord.read? data = some d ∧
        d.Describes pooledGroup pooledPlan.context := by
  have hmem : pooledGroup ∈ Route.group strategies.config.capabilities pooledSwaps := by
    decide +kernel
  have hrun : ((strategies.encodeGroup pooledPlan).outcome {}).toOption.isSome = true := by
    decide +kernel
  obtain ⟨bs, hbs⟩ := exists_eq_ok_of_isSome hrun
  have hswaps : ∀ s ∈ pooledSwaps, s.tokenIn.IsExact ∧ s.tokenOut.IsExact := by
    have htokens : ∀ s ∈ pooledSwaps, s.tokenIn ∈ user :: tokens ∧ s.tokenOut ∈ user :: tokens := by
      decide
    exact fun s hs => ⟨isExact_of_mem_tokens (htokens s hs).1, isExact_of_mem_tokens (htokens s hs).2⟩
  obtain ⟨e, executor, data, d, -, -, hsplit, hread, -, hdescribes⟩ :=
    UniswapV4.exists_groupRecord hmem ⟨_, rfl, rfl⟩ hswaps
      (isExact_of_mem_tokens List.mem_cons_self) hbs
  exact ⟨bs, hmem, hbs, executor, data, d, hsplit, hread, hdescribes⟩

end Sample

end SwapRouter
