import SwapRouter.Proofs.Route.Accepted
import SwapRouter.Proofs.Route.Grouping
import SwapRouter.Proofs.Route.HopHeader

/-!
# Orders through plain pools

An order that passes the checks may still be refused where its swaps are encoded: an address may
not be one, a pool may lack an attribute, a quote may fail.  Nothing of this happens with pools of a
constant product whose addresses are written in their normal form, so for orders through such pools
the checks decide.

* `Address.IsPlain`, `Strategies.IsPlainSwap`: what is asked of the addresses and the swaps.
* `Strategies.succeeds_encodeGroup`: a group of a plain swap is encoded, in 82 bytes.
* `Strategies.succeeds_encodeFor`: a plain order that passes the checks is encoded.
-/

namespace SwapRouter

/-! ## Addresses -/

/-- An address in its normal form that stands for 20 bytes. -/
structure Address.IsPlain (a : Address) : Prop where
  normal_eq : a.normal = a
  wellFormed : a.isWellFormed = true
  bytes : ∃ bs, a.wellFormedBytes = .ok bs ∧ bs.length = 20

theorem Address.IsPlain.exists_fieldBytes {a : Address} (h : a.IsPlain) (field : String) :
    ∃ bs, a.fieldBytes field = .ok bs ∧ bs.length = 20 := by
  obtain ⟨bs, hbs, hlen⟩ := h.bytes
  exact ⟨bs, by rw [fieldBytes, if_pos h.wellFormed, hbs], hlen⟩

theorem Address.IsPlain.normal {a : Address} (h : a.IsPlain) : a.normal.IsPlain :=
  h.normal_eq.symm ▸ h

namespace Strategies

variable {t : Strategies} {f : RouterFunction} {order : Order} {s : Swap} {g : SwapGroup}
  {router : Address} {approvals : Option ApprovalSource}

/-! ## Swaps and groups -/

/-- A swap through a pool of a constant product, with plain addresses, that is never merged and
whose fraction fits its field. -/
structure IsPlainSwap (t : Strategies) (s : Swap) : Prop where
  tokenIn : s.tokenIn.IsPlain
  tokenOut : s.tokenOut.IsPlain
  pool : (Address.mk s.pool.id).IsPlain
  encoder : ∃ e, t.encoders.get s.protocol = .ok e ∧ e.venue = .uniswapV2 ∧ e.executor.IsPlain
  alone : t.config.capabilities.isGroupable s.protocol = false
  fraction : ∃ parts : ℕ, Wire.fractionParts s.split = .ok parts ∧ parts < Nat.pow 256 3

theorem exists_encode_uniswapV2 (h : t.IsPlainSwap s) {context : SwapContext}
    (hreceiver : context.receiver.IsPlain) :
    ∃ bs, UniswapV2.encode s context = .ok bs ∧ bs.length = 62 := by
  obtain ⟨tokenIn, hin, hinLen⟩ := h.tokenIn.exists_fieldBytes "token_in"
  obtain ⟨tokenOut, hout, -⟩ := h.tokenOut.exists_fieldBytes "token_out"
  obtain ⟨pool, hpool, hpoolLen⟩ := h.pool.exists_fieldBytes ("pool id for " ++ s.protocol)
  obtain ⟨receiver, hrec, hrecLen⟩ := hreceiver.exists_fieldBytes "receiver"
  refine ⟨tokenIn ++ pool ++ receiver
    ++ [Wire.flagByte (tokenIn.isBefore tokenOut), context.transferType.byte], ?_, ?_⟩
  · rw [UniswapV2.encode, Swap.poolBytes, hin, hout, hpool, hrec]
    rfl
  · simp only [List.length_append, hinLen, hpoolLen, hrecLen, List.length_cons, List.length_nil]

/-- **A group of one plain swap is encoded**: the executor, the two ends, the pool, the receiver and
two bytes. -/
theorem succeeds_encodeGroup {context : SwapContext} (hlater : g.later = [])
    (hswap : t.IsPlainSwap g.first) (hreceiver : context.receiver.IsPlain) :
    (t.encodeGroup ⟨g, context⟩).Succeeds fun bs => bs.length = 82 := by
  obtain ⟨e, he, hvenue, hexecutor⟩ := hswap.encoder
  obtain ⟨data, hdata, hdataLen⟩ := exists_encode_uniswapV2 hswap hreceiver
  obtain ⟨executor, hexec, hexecLen⟩ := hexecutor.exists_fieldBytes "executor address"
  have hjob : (e.encode g.first context).Succeeds fun bs => bs = data := by
    rw [SwapEncoder.encode, hvenue]
    exact Encode.succeeds_ofExcept hdata rfl
  have hjobs : ∀ job ∈ g.swaps.map fun s => e.encode s context,
      job.Succeeds fun bs => bs = data := by
    rw [SwapGroup.swaps, hlater]
    exact List.forall_mem_singleton.2 hjob
  refine Encode.succeeds_require_bind he ?_
  refine (Encode.succeeds_sideBySide hjobs).bind fun parts hparts => ?_
  have hpart : parts = [data] := by
    obtain ⟨hlen, hall⟩ := hparts
    rw [List.length_map, SwapGroup.swaps, hlater, List.length_singleton] at hlen
    obtain ⟨part, rfl⟩ := List.length_eq_one_iff.1 hlen
    rw [hall part (List.mem_singleton_self part)]
  have hjoin : joinGroup parts = .ok (data ++ []) := by
    rw [hpart]
    rfl
  refine Encode.succeeds_require_bind hjoin (Encode.succeeds_ofExcept_bind hexec ?_)
  refine Encode.Succeeds.pure ?_
  rw [List.length_append, List.length_append, hexecLen, hdataLen, List.length_nil]

/-- What a plain order is made of: plain swaps, not too many for the bytes that count tokens, a
plain receiver and router, and no signer. -/
structure IsPlainOrder (t : Strategies) (order : Order) (router : Address) : Prop where
  swaps : ∀ s ∈ order.swaps, t.IsPlainSwap s
  length_le : order.swaps.length ≤ 127
  receiver : order.receiver.IsPlain
  router : router.IsPlain
  signer : t.signer = none

/-- The groups of a plain order are its swaps. -/
theorem IsPlainOrder.of_mem_group (h : t.IsPlainOrder order router)
    (hg : g ∈ Route.group t.config.capabilities order.swaps) :
    g.later = [] ∧ t.IsPlainSwap g.first := by
  have hmem : g.swaps ⊆ order.swaps := (Route.sublist_of_mem_group hg).subset
  have hfirst := h.swaps g.first (hmem List.mem_cons_self)
  cases hlater : g.later with
  | nil => exact ⟨rfl, hfirst⟩
  | cons next rest =>
    have hpair : [g.first, next] <:+: g.swaps := by
      rw [SwapGroup.swaps, hlater]
      exact ⟨[], rest, rfl⟩
    have hjoins := Route.joins_iff.1 (Route.merged_iff.1 ⟨g, hg, hpair⟩).2
    have hnext : next ∈ order.swaps := hmem (by rw [SwapGroup.swaps, hlater]; simp)
    rw [(h.swaps next hnext).alone] at hjoins
    exact absurd hjoins.2.1 Bool.false_ne_true

theorem IsPlainOrder.length_group (h : t.IsPlainOrder order router) :
    (Route.group t.config.capabilities order.swaps).length = order.swaps.length := by
  have hall : ∀ g ∈ Route.group t.config.capabilities order.swaps, g.swaps.length = 1 := by
    intro g hg
    rw [SwapGroup.swaps, (h.of_mem_group hg).1, List.length_singleton]
  have hflat := congrArg List.length (Route.flatMap_swaps_group t.config.capabilities order.swaps)
  rw [List.length_flatMap, List.map_congr_left hall, List.map_const', List.sum_replicate_nat,
    Nat.mul_one] at hflat
  exact hflat

theorem succeeds_finish (hsigner : t.signer = none) {bs : Bytes} {count : ℕ} :
    (t.finish f order router bs count).Succeeds fun _ => True := by
  have hnone : (if t.usesPermit order then t.signer else none) = none := by
    rw [hsigner, ite_self]
  rw [finish, hnone]
  exact Encode.Succeeds.pure trivial

/-! ## Orders without a fork -/

/-- Along a route the output goes to the router, to the receiver of the order, or to the pool of a
group. -/
theorem receiver_of_mem_plan {setting : TransferSetting} {given receiver : Address}
    {wraps unwraps isPaid : Bool} {groups : List SwapGroup} {hop : Hop}
    (h : hop ∈ setting.plan given receiver wraps unwraps isPaid groups) :
    hop.receiver = setting.router.normal ∨ hop.receiver = receiver.normal ∨
      ∃ g ∈ groups, hop.receiver = g.entryPool.normal := by
  induction groups generalizing isPaid with
  | nil => exact absurd h List.not_mem_nil
  | cons g groups ih =>
    rw [TransferSetting.plan, List.mem_cons] at h
    rcases h with rfl | h
    · cases groups with
      | nil =>
        rw [List.head?_nil, TransferSetting.receiver]
        cases unwraps with
        | true => exact Or.inl rfl
        | false => exact Or.inr (Or.inl rfl)
      | cons next groups =>
        rw [List.head?_cons, TransferSetting.receiver]
        dsimp only
        split
        · exact Or.inr (Or.inr ⟨next, List.mem_cons_of_mem g List.mem_cons_self, rfl⟩)
        · exact Or.inl rfl
    · rcases ih h with h | h | ⟨next, hnext, h⟩
      · exact Or.inl h
      · exact Or.inr (Or.inl h)
      · exact Or.inr (Or.inr ⟨next, List.mem_cons_of_mem g hnext, h⟩)

/-- Every group of a plain order without a fork is encoded. -/
theorem IsPlainOrder.succeeds_of_mem_planLinear (h : t.IsPlainOrder order router) {p : PlannedGroup}
    (hp : p ∈ t.planLinear order router approvals
      (Route.group t.config.capabilities order.swaps)) :
    (t.encodeGroup p).Succeeds fun bs => bs.length = 82 := by
  rw [planLinear, ← List.map_uncurry_zip_eq_zipWith, List.mem_map] at hp
  obtain ⟨⟨g, hop⟩, hzip, rfl⟩ := hp
  obtain ⟨hg, hhop⟩ := List.of_mem_zip hzip
  obtain ⟨hlater, hfirst⟩ := h.of_mem_group hg
  refine succeeds_encodeGroup hlater hfirst ?_
  change hop.receiver.IsPlain
  rcases receiver_of_mem_plan hhop with hrec | hrec | ⟨next, hnext, hrec⟩
  · rw [hrec]
    exact h.router.normal
  · rw [hrec]
    exact h.receiver.normal
  · rw [hrec]
    exact (h.of_mem_group hnext).2.pool.normal

theorem length_plan {setting : TransferSetting} {given receiver : Address}
    {wraps unwraps isPaid : Bool} {groups : List SwapGroup} :
    (setting.plan given receiver wraps unwraps isPaid groups).length = groups.length := by
  induction groups generalizing isPaid with
  | nil => rfl
  | cons g groups ih => rw [TransferSetting.plan, List.length_cons, List.length_cons, ih]

theorem length_planLinear (t : Strategies) (order : Order) (router : Address)
    (approvals : Option ApprovalSource) (groups : List SwapGroup) :
    (t.planLinear order router approvals groups).length = groups.length := by
  rw [planLinear, List.length_zipWith, length_plan, Nat.min_self]

theorem IsPlainOrder.succeeds_encodeSequential (h : t.IsPlainOrder order router)
    (hpath : t.checkPath order = .ok ()) :
    (t.encodeSequential order router approvals).Succeeds fun _ => True := by
  refine Encode.succeeds_require_bind hpath ?_
  refine (Encode.succeeds_sideBySide (List.forall_mem_map.2 fun p hp =>
    h.succeeds_of_mem_planLinear hp)).bind fun hops ⟨_, hlen⟩ => ?_
  obtain ⟨bs, hbs⟩ := Wire.exists_join hops fun b hb => by
    rw [hlen b hb, Wire.maxChunk]
    omega
  exact Encode.succeeds_require_bind hbs (succeeds_finish h.signer)

/-- An order for the simplest function is one group without a fraction, so the function gets past the
checks that this is so. -/
theorem exists_encodeSingle_of_choose (h : t.choose order = .ok .single) (router : Address)
    (approvals : Option ApprovalSource) :
    ∃ g p, Route.group t.config.capabilities order.swaps = [g] ∧ g.split.isZero = true ∧
      t.planLinear order router approvals [g] = [p] ∧
      t.encodeSingle order router approvals = (do
        .require (t.checkPath order)
        let swaps ← t.encodeGroup p
        t.finish .single order router swaps 0) := by
  obtain ⟨g, hg⟩ := exists_group_eq_singleton_of_choose h
  have hzero : g.split.isZero = true := by
    have hfork : Route.hasFork order.swaps = false := Bool.eq_false_iff.2 fun hfork => by
      cases (hasFork_iff_of_choose h).1 hfork
    refine Route.isZero_of_hasFork_eq_false hfork ?_
    exact (Route.sublist_of_mem_group (hg ▸ List.mem_singleton_self g)).subset List.mem_cons_self
  obtain ⟨p, hp⟩ := List.length_eq_one_iff.1 (length_planLinear t order router approvals [g])
  refine ⟨g, p, hg, hzero, hp, ?_⟩
  rw [encodeSingle, hg]
  dsimp only
  rw [hzero, hp]
  rfl

theorem IsPlainOrder.succeeds_encodeSingle (h : t.IsPlainOrder order router)
    (hpasses : t.Passes .single order) :
    (t.encodeSingle order router approvals).Succeeds fun _ => True := by
  obtain ⟨g, p, hg, -, hp, hsingle⟩ :=
    exists_encodeSingle_of_choose hpasses.chosen router approvals
  have hmem : p ∈ t.planLinear order router approvals
      (Route.group t.config.capabilities order.swaps) := by
    rw [hg, hp]
    exact List.mem_singleton_self p
  rw [hsingle]
  refine Encode.succeeds_require_bind hpasses.path ?_
  exact (h.succeeds_of_mem_planLinear hmem).bind fun _ _ => succeeds_finish h.signer

/-! ## Orders with a fork -/

theorem exists_position {table : List Address} {token : Address} (h : token ∈ table)
    (hlen : table.length ≤ 256) :
    ∃ n : ℕ, Route.tokenPosition table token = .ok n ∧ n < Nat.pow 256 1 := by
  obtain ⟨n, hn⟩ := Route.exists_tokenPosition_iff.2 h
  obtain ⟨hlt, -⟩ := List.getElem?_eq_some_iff.1 (Route.tokenPosition_eq_ok_iff.1 hn).1
  exact ⟨n, hn, lt_of_lt_of_le hlt hlen⟩

/-- The header of a group is written if its tokens are in the table and its fraction fits. -/
theorem exists_splitHeader {table : List Address} {later : List Swap}
    (hin : g.tokenIn ∈ table) (hout : g.tokenOut ∈ table) (hlen : table.length ≤ 256)
    (hfraction : ∃ parts : ℕ, Wire.fractionParts g.split = .ok parts ∧ parts < Nat.pow 256 3) :
    ∃ bs, splitHeader table g later = .ok bs ∧ bs.length = 5 := by
  obtain ⟨n, hn, hnLt⟩ := exists_position hin hlen
  obtain ⟨m, hm, hmLt⟩ := exists_position hout hlen
  obtain ⟨parts, hparts, hpartsLt⟩ : ∃ parts : ℕ, (if Route.isLastOut g.first later then parts = 0
      else Wire.fractionParts g.split = .ok parts) ∧ parts < Nat.pow 256 3 := by
    cases hlast : Route.isLastOut g.first later with
    | true => exact ⟨0, rfl, by decide⟩
    | false => exact hfraction
  refine ⟨_, HopHeader.splitHeader_eq_ok_iff.2 ⟨⟨n, m, parts⟩, ⟨hn, hm, hparts⟩,
    ⟨hnLt, hmLt, hpartsLt⟩, rfl⟩, HopHeader.length_bytes _⟩

theorem exists_splitHeaders {table : List Address} {groups : List SwapGroup}
    (h : ∀ g ∈ groups, ∀ later, ∃ bs, splitHeader table g later = .ok bs ∧ bs.length = 5) :
    ∃ headers, splitHeaders table groups = .ok headers ∧ ∀ b ∈ headers, b.length = 5 := by
  induction groups with
  | nil => exact ⟨[], rfl, fun b hb => absurd hb List.not_mem_nil⟩
  | cons g groups ih =>
    obtain ⟨hg, hgroups⟩ := List.forall_mem_cons.1 h
    obtain ⟨headers, hheaders, hlen⟩ := ih hgroups
    obtain ⟨bs, hbs, hbsLen⟩ := hg (g.later ++ groups.flatMap SwapGroup.swaps)
    refine ⟨bs :: headers, ?_, List.forall_mem_cons.2 ⟨hbsLen, hlen⟩⟩
    rw [splitHeaders, hbs, hheaders]
    rfl

theorem IsPlainOrder.exists_splitHeader (h : t.IsPlainOrder order router)
    (hg : g ∈ Route.group t.config.capabilities order.swaps) (later : List Swap) :
    ∃ bs, splitHeader (Route.tokenTable t.config.chain order
      (Route.group t.config.capabilities order.swaps)) g later = .ok bs ∧ bs.length = 5 := by
  have hlen : (Route.tokenTable t.config.chain order
      (Route.group t.config.capabilities order.swaps)).length ≤ 256 := by
    have hle := Route.length_tokenTable_le t.config.chain order
      (Route.group t.config.capabilities order.swaps)
    have hgroups := h.length_group
    have hswaps := h.length_le
    omega
  exact Strategies.exists_splitHeader (Route.mem_tokenTable hg (Or.inl rfl))
    (Route.mem_tokenTable hg (Or.inr rfl)) hlen (h.of_mem_group hg).2.fraction

theorem IsPlainOrder.succeeds_encodeSplit (h : t.IsPlainOrder order router)
    (hsplits : Route.checkSplits order.swaps = .ok ()) (hpath : t.checkPath order = .ok ()) :
    (t.encodeSplit order router approvals).Succeeds fun _ => True := by
  refine Encode.succeeds_require_bind hsplits (Encode.succeeds_require_bind hpath ?_)
  obtain ⟨headers, hheaders, hheaderLen⟩ := exists_splitHeaders fun g hg later =>
    h.exists_splitHeader hg later
  refine Encode.succeeds_ofExcept_bind hheaders ?_
  have hjobs : ∀ g ∈ Route.group t.config.capabilities order.swaps,
      (t.encodeGroup ⟨g, contextOf order g router (t.splitHop order router g) approvals⟩).Succeeds
        fun bs => bs.length = 82 := by
    intro g hg
    obtain ⟨hlater, hfirst⟩ := h.of_mem_group hg
    refine succeeds_encodeGroup hlater hfirst ?_
    change (t.splitHop order router g).receiver.IsPlain
    rw [splitHop]
    dsimp only
    split
    · exact h.receiver.normal
    · exact h.router.normal
  refine (Encode.succeeds_sideBySide (List.forall_mem_map.2 hjobs)).bind fun hops ⟨_, hhopLen⟩ => ?_
  obtain ⟨bs, hbs⟩ := Wire.exists_join (List.zipWith (· ++ ·) headers hops) fun b hb => by
    rw [← List.map_uncurry_zip_eq_zipWith, List.mem_map] at hb
    obtain ⟨⟨header, hop⟩, hzip, rfl⟩ := hb
    obtain ⟨hheader, hhop⟩ := List.of_mem_zip hzip
    change (header ++ hop).length ≤ _
    rw [List.length_append, hheaderLen header hheader, hhopLen hop hhop, Wire.maxChunk]
    omega
  exact Encode.succeeds_require_bind hbs (succeeds_finish h.signer)

/-! ## Encoding -/

/-- **A plain order that passes the checks is encoded**, whatever is known of approvals. -/
theorem succeeds_encodeFor (h : t.IsPlainOrder order router) (hpasses : t.Passes f order) :
    (t.encodeFor f order router approvals).Succeeds fun _ => True := by
  cases f with
  | single => exact h.succeeds_encodeSingle hpasses
  | sequential => exact h.succeeds_encodeSequential hpasses.path
  | split => exact h.succeeds_encodeSplit (hpasses.fractions rfl) hpasses.path

theorem Passes.encodes (hpasses : t.Passes f order) (h : t.IsPlainOrder order router) :
    t.Encodes f order := by
  have hsucceeds : (t.encodeFor f order router none).Succeeds fun _ => True :=
    succeeds_encodeFor h hpasses
  obtain ⟨e, he, -⟩ := hsucceeds {}
  exact ⟨hpasses.chosen, router, none, {}, e, he⟩

end Strategies

/-! ## Sample orders

Orders that sell one token of a chain for another one through some of the pools of three tokens.
-/

namespace Sample

def weth : Address := ⟨"0xc02aaa39b223fe8d0a0e5c4f27ead9083c756cc2"⟩

def usdc : Address := ⟨"0xa0b86991c6218b36c1d19d4a2e9eb0ce3606eb48"⟩

def dai : Address := ⟨"0x6b175474e89094c44da98b954eedeac495271d0f"⟩

def user : Address := ⟨"0xcd09f75e2bf2a4d11f3ab23f1389fcc1621c0cc2"⟩

def router : Address := ⟨"0xfd0b31d2e955fa55e3fa641fe90e08b677188d35"⟩

def executor : Address := ⟨"0x5615deb798bb3e4dfa0139dfa1b3d433cc23b72f"⟩

def managerExecutor : Address := ⟨"0xf62849f9a0b5bf2913b396098f7c7019b51a820a"⟩

/-- One half, as a multiple of the least positive number. -/
def half : Binary64 := .ofUnits false (Nat.pow 2 1073)

/-- One quarter, as a multiple of the least positive number. -/
def quarter : Binary64 := .ofUnits false (Nat.pow 2 1072)

/-- A pool of a constant product. -/
def pool (id : String) (tokens : List Address) : Pool where
  id := id
  protocol := "uniswap_v2"
  tokens := tokens

def usdcWeth : Pool := pool "0xb4e16d0168e52d35cacd2c6185b44281ec28c9dc" [usdc, weth]

/-- A second pool of the same tokens. -/
def usdcWeth' : Pool := pool "0x397ff1542f962076d0bfe58ea045ffa2d347aca0" [usdc, weth]

def daiUsdc : Pool := pool "0xae461ca67b15dc8dc81ce7615e0320da1a9ab8d5" [dai, usdc]

def daiWeth : Pool := pool "0xa478c2975ab1ea89e8196811f51a7b7ade33eb11" [dai, weth]

/-- A swap through a pool, of everything that is left or of a fraction. -/
def swap (pool : Pool) (tokenIn tokenOut : Address) (split : Binary64 := .zero false) : Swap where
  pool := pool
  tokenIn := tokenIn
  tokenOut := tokenOut
  split := split

/-- An order that sells the first token. -/
def sale (swaps : List Swap) (checked : Address := dai) : Order where
  givenToken := weth
  givenAmount := .zero
  checkedToken := checked
  checkAmount := .zero
  sender := user
  receiver := user
  swaps := swaps

/-- The encoders of two protocols. -/
def strategies : Strategies where
  config := .bundled .ethereum
  encoders := ⟨[("uniswap_v2", ⟨.uniswapV2, executor, .ethereum, [], none, none⟩),
    ("uniswap_v4", ⟨.uniswapV4, managerExecutor, .ethereum, [], none, none⟩)]⟩

def tokens : List Address := [weth, usdc, dai]

def pools : List Pool := [usdcWeth, usdcWeth', daiUsdc, daiWeth]

theorem isPlain_of_mem {a : Address}
    (h : a ∈ [user, router, executor] ++ tokens ++ pools.map fun p => ⟨p.id⟩) : a.IsPlain := by
  have hrun : ∀ a ∈ [user, router, executor] ++ tokens ++ pools.map (fun p => ⟨p.id⟩),
      a.normal = a ∧ a.isWellFormed = true ∧
        a.wellFormedBytes.toOption.map List.length = some 20 := by decide +kernel
  obtain ⟨hnormal, hformed, hbytes⟩ := hrun a h
  obtain ⟨bs, hbs, hlen⟩ := Option.map_eq_some_iff.1 hbytes
  exact ⟨hnormal, hformed, bs, eq_ok_of_toOption_eq_some hbs, hlen⟩

theorem exists_parts {split : Binary64} (h : split ∈ [.zero false, half, quarter]) :
    ∃ parts : ℕ, Wire.fractionParts split = .ok parts ∧ parts < Nat.pow 256 3 := by
  have hrun : [.zero false, half, quarter].map (fun x => (Wire.fractionParts x).toOption) =
      [0, 8388608, 4194304].map fun parts : ℕ => some (parts : Int) := by decide +kernel
  obtain ⟨parts, hparts, heq⟩ := List.mem_map.1 (hrun ▸ List.mem_map_of_mem h)
  refine ⟨parts, eq_ok_of_toOption_eq_some heq.symm, ?_⟩
  exact (by decide : ∀ n ∈ [0, 8388608, 4194304], n < Nat.pow 256 3) parts hparts

/-- A swap of the three tokens through one of the four pools. -/
def IsSample (s : Swap) : Prop :=
  s.pool ∈ pools ∧ s.tokenIn ∈ tokens ∧ s.tokenOut ∈ tokens ∧ s.split ∈ [.zero false, half, quarter]

instance (s : Swap) : Decidable (IsSample s) := inferInstanceAs (Decidable (_ ∧ _))

theorem isPlainSwap {s : Swap} (h : IsSample s) : strategies.IsPlainSwap s := by
  obtain ⟨hpool, hin, hout, hsplit⟩ := h
  have htoken : ∀ a ∈ tokens, a.IsPlain := fun a ha =>
    isPlain_of_mem (List.mem_append_left _ (List.mem_append_right _ ha))
  have hs : s.protocol = "uniswap_v2" :=
    (by decide : ∀ p ∈ pools, p.protocol = "uniswap_v2") s.pool hpool
  refine ⟨htoken _ hin, htoken _ hout, ?_, ?_, ?_, exists_parts hsplit⟩
  · exact isPlain_of_mem (List.mem_append_right _ (List.mem_map_of_mem hpool))
  · exact ⟨_, by rw [hs]; rfl, rfl, isPlain_of_mem (by decide)⟩
  · rw [hs]
    decide

variable {f : RouterFunction} {swaps : List Swap} {checked : Address}

theorem isPlainOrder (hswaps : ∀ s ∈ swaps, IsSample s) (hlen : swaps.length ≤ 127) :
    strategies.IsPlainOrder (sale swaps checked) Sample.router :=
  ⟨fun s hs => isPlainSwap (hswaps s hs), hlen, isPlain_of_mem List.mem_cons_self,
    isPlain_of_mem (a := router) (by decide), rfl⟩

/-- A sample order that passes the checks is encoded. -/
theorem encodes (hswaps : ∀ s ∈ swaps, IsSample s) (hlen : swaps.length ≤ 127)
    (hpasses : strategies.Passes f (sale swaps checked)) :
    strategies.Encodes f (sale swaps checked) :=
  hpasses.encodes (isPlainOrder hswaps hlen)

/-- It is encoded in any circumstances. -/
theorem exists_encodeFor (hswaps : ∀ s ∈ swaps, IsSample s) (hlen : swaps.length ≤ 127)
    (hpasses : strategies.Passes f (sale swaps checked)) (c : Circumstances) :
    ∃ e, (strategies.encodeFor f (sale swaps checked) Sample.router none).outcome c = .ok e := by
  obtain ⟨e, he, -⟩ := Strategies.succeeds_encodeFor (isPlainOrder hswaps hlen) hpasses c
  exact ⟨e, he⟩

/-- Whether the checks let an order pass for a function of the router. -/
def checks (f : RouterFunction) (order : Order) : Bool :=
  (strategies.choose order).toOption = some f &&
    (f ≠ .split || (Route.checkSplits order.swaps).toOption = some ()) &&
    (strategies.checkPath order).toOption = some ()

theorem passes_of_run {f : RouterFunction} {order : Order} (h : checks f order = true) :
    strategies.Passes f order := by
  simp only [checks, Bool.and_eq_true, Bool.or_eq_true, decide_eq_true_eq] at h
  obtain ⟨⟨hchoose, hsplits⟩, hpath⟩ := h
  refine ⟨eq_ok_of_toOption_eq_some hchoose, fun hf => ?_, eq_ok_of_toOption_eq_some hpath⟩
  exact eq_ok_of_toOption_eq_some (hsplits.resolve_left fun hne => hne hf)

end Sample

end SwapRouter
