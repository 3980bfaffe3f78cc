import SwapRouter.Proofs.Route.Cycle
import SwapRouter.Proofs.Route.HopHeader

/-!
# How many tokens an order with forks names

The headers of the hops name tokens by their places in the table of the order, and the router makes
room for as many tokens as it is told.  A place is told only for the first listing of its token, so
different tokens have different places, and all of them are less than the number of tokens that the
table lists.

What the router is told is another number: the length of the table, less one if the order gives and
checks the same token.  The table lists a token twice exactly if its *ends* are the same, and where
the native coin is wrapped or unwrapped, an end is not the token that is given or checked.

* `HopHeader.named`: the places that headers tell, with the tokens that they stand for.
* `Strategies.CountsTokens`: the number that is told is the number of tokens, and every place is in
  range and stands for its own token.
* `Strategies.countsTokens_iff`: **it is the right number exactly if the order gives and checks the
  same token where its table has the same ends.**
-/

namespace SwapRouter

namespace HopHeader

variable {table : List Address} {groups : List SwapGroup} {headers : List HopHeader}

/-- The places that headers tell, with the tokens of the groups that they stand for. -/
def named : List SwapGroup → List HopHeader → List (Nat × Address)
  | g :: groups, h :: headers =>
    (h.tokenIn, g.tokenIn) :: (h.tokenOut, g.tokenOut) :: named groups headers
  | _, _ => []

/-- Every place is the one of its token. -/
theorem DescribeAll.tokenPosition (h : DescribeAll table groups headers) :
    ∀ p ∈ named groups headers, Route.tokenPosition table p.2 = .ok p.1 := by
  induction h with
  | nil => exact fun p hp => absurd hp List.not_mem_nil
  | cons hhead _ ih =>
    exact List.forall_mem_cons.2 ⟨hhead.tokenIn, List.forall_mem_cons.2 ⟨hhead.tokenOut, ih⟩⟩

end HopHeader

namespace Strategies

variable {t : Strategies} {order : Order} {router : Address} {approvals : Option ApprovalSource}
  {c : Circumstances} {e : EncodedOrder} {headers : List HopHeader}

/-- An encoded order tells how many tokens its table lists, and its headers tell places below that
number, each of them the place of its own token, and different places for different tokens. -/
structure CountsTokens (t : Strategies) (order : Order) (headers : List HopHeader)
    (e : EncodedOrder) : Prop where
  count : e.tokenCount = (t.tableOf order).dedup.length
  below : ∀ p ∈ HopHeader.named (t.groupsOf order) headers, p.1 < e.tokenCount
  own : ∀ p ∈ HopHeader.named (t.groupsOf order) headers, (t.tableOf order)[p.1]? = some p.2
  distinct : ∀ p ∈ HopHeader.named (t.groupsOf order) headers,
    ∀ q ∈ HopHeader.named (t.groupsOf order) headers, p.1 = q.1 ↔ p.2 = q.2

/-- The number that is told is the one of the tokens exactly if the order gives and checks the same
token where its table has the same ends. -/
theorem tokenCount_eq_dedup_iff :
    Route.tokenCount order (t.tableOf order) = (t.tableOf order).dedup.length ↔
      (order.givenToken = order.checkedToken ↔
        order.firstToken t.config.chain = order.lastToken t.config.chain) := by
  have hlen : 2 ≤ (t.tableOf order).length := by
    rw [tableOf, Route.tokenTable, List.length_append, List.length_cons, List.length_singleton]
    omega
  rw [Route.tokenCount, tableOf, Route.length_dedup_tokenTable, Order.firstToken, Order.lastToken,
    ← tableOf]
  by_cases hsame : order.givenToken = order.checkedToken
  · rw [if_pos hsame]
    split
    next hends => exact iff_of_true rfl (iff_of_true hsame hends)
    next hends => exact iff_of_false (by omega) fun h => hends (h.1 hsame)
  · rw [if_neg hsame]
    split
    next hends => exact iff_of_false (by omega) fun h => hsame (h.2 hends)
    next hends => exact iff_of_true rfl (iff_of_false hsame hends)

/-- Beside the number that is told, everything is as it should be. -/
theorem countsTokens_iff_count
    (hheaders : HopHeader.DescribeAll (t.tableOf order) (t.groupsOf order) headers) :
    t.CountsTokens order headers e ↔ e.tokenCount = (t.tableOf order).dedup.length := by
  have hplace := hheaders.tokenPosition
  refine ⟨CountsTokens.count, fun hcount => ⟨hcount, fun p hp => ?_, fun p hp => ?_,
    fun p hp q hq => ?_⟩⟩
  · rw [hcount]
    exact Int.ofNat_lt.2 (Route.lt_of_tokenPosition (hplace p hp))
  · exact (Route.tokenPosition_eq_ok_iff.1 (hplace p hp)).1
  · exact Route.tokenPosition_inj (hplace p hp) (hplace q hq)

/-- The ends of a table are the same only if the native coin is left alone. -/
theorem Accepted.nativeAction_eq_none_of_ends (h : t.Accepted .split order)
    (hends : order.firstToken t.config.chain = order.lastToken t.config.chain) :
    order.nativeAction = none :=
  h.nativeAction_eq_none (hends ▸ h.connected.start_mem)

/-- **The number of tokens that is told**, for an encoded order with forks.  It is the number of
tokens, and the headers are in line with it, exactly if the order gives and checks the same token
where its table has the same ends; for an order that is accepted, exactly if an order that gives and
checks the same token leaves the native coin alone. -/
theorem countsTokens_iff (h : (t.encodeSplit order router approvals).outcome c = .ok e) :
    ∃ headers, HopHeader.readAll? e.swaps = some headers ∧
      headers.length = (t.groupsOf order).length ∧
      (t.CountsTokens order headers e ↔
        (order.givenToken = order.checkedToken ↔
          order.firstToken t.config.chain = order.lastToken t.config.chain)) ∧
      (t.choose order = .ok .split →
        (t.CountsTokens order headers e ↔
          (order.givenToken = order.checkedToken → order.nativeAction = none))) := by
  obtain ⟨headers, hread, hheaders⟩ := exists_describeAll_of_encodeSplit h
  obtain ⟨hsplits, hpath, _, _, _, -, -, -, hfinished⟩ := exists_of_encodeSplit h
  have hcounts : t.CountsTokens order headers e ↔
      (order.givenToken = order.checkedToken ↔
        order.firstToken t.config.chain = order.lastToken t.config.chain) := by
    rw [countsTokens_iff_count hheaders, hfinished.tokenCount, Int.ofNat_inj]
    exact tokenCount_eq_dedup_iff
  refine ⟨headers, hread, hheaders.length_eq, hcounts, fun hchosen => ?_⟩
  have haccepted : t.Accepted .split order := Passes.accepted ⟨hchosen, fun _ => hsplits, hpath⟩
  rw [hcounts]
  cases hnative : order.nativeAction with
  | none =>
    -- the ends are the tokens themselves
    refine iff_of_true ?_ fun _ => rfl
    rw [Order.firstToken, Order.lastToken, hnative]
    exact Iff.rfl
  | some action =>
    have hends : order.firstToken t.config.chain ≠ order.lastToken t.config.chain := fun hends => by
      cases hnative.symm.trans (haccepted.nativeAction_eq_none_of_ends hends)
    rw [iff_false_right hends]
    exact ⟨fun hne heq => absurd heq hne, fun hnone heq => by cases hnone heq⟩

end Strategies

namespace Sample

/-- An order that forks and returns to its first token. -/
def forkedReturn : Order :=
  sale [swap usdcWeth weth usdc half, swap usdcWeth' weth usdc, swap usdcWeth usdc weth] weth

/-- The token at both ends is counted once. -/
theorem countsTokens_forkedReturn :
    ∃ e, (strategies.encodeSplit forkedReturn Sample.router none).outcome {} = .ok e ∧
      ∃ headers, HopHeader.readAll? e.swaps = some headers ∧
        strategies.CountsTokens forkedReturn headers e := by
  have hpasses : strategies.Passes .split forkedReturn := passes_of_run (by decide +kernel)
  obtain ⟨e, hencodes⟩ := exists_encodeFor (by decide +kernel) (by decide) hpasses {}
  obtain ⟨headers, hread, -, hcounts, -⟩ := Strategies.countsTokens_iff hencodes
  exact ⟨e, hencodes, headers, hread, hcounts.2 Iff.rfl⟩

/-- A pool of the native coin whose protocol settles at the end of a call. -/
def pooledCoin : Pool where
  id := "0x21c67e77068de97969ba93d4aab21826d33ca12bb9f565d8496e8fda8a82ca27"
  protocol := "uniswap_v4"
  tokens := [Address.native, usdc]
  attributes := [("key_lp_fee", [0x0b, 0xb8]), ("tick_spacing", [0x3c])]

/-- An order that wraps the native coin and buys it back. -/
def coinBack : Order :=
  { sale [swap usdcWeth weth usdc half, swap usdcWeth' weth usdc,
      swap pooledCoin usdc Address.native] Address.native with
    givenToken := Address.native
    nativeAction := some .wrap }

/-- The table of this order lists three tokens, and it is accepted and encoded with two. -/
theorem not_countsTokens_coinBack :
    strategies.choose coinBack = .ok .split ∧
      ∃ e, (strategies.encodeSplit coinBack Sample.router none).outcome {} = .ok e ∧
        ∀ headers, ¬ strategies.CountsTokens coinBack headers e := by
  have hrun : (((strategies.encodeSplit coinBack Sample.router none).outcome {}).toOption.map
      EncodedOrder.tokenCount) = some 2 := by decide +kernel
  obtain ⟨e, he, hcount⟩ := Option.map_eq_some_iff.1 hrun
  refine ⟨eq_ok_of_toOption_eq_some (by decide +kernel), e, eq_ok_of_toOption_eq_some he,
    fun headers hcounts => ?_⟩
  have hlisted : (strategies.tableOf coinBack).dedup.length = 3 := by decide +kernel
  have htold := hcounts.count
  rw [hcount, hlisted] at htold
  cases htold

end Sample

end SwapRouter
