import SwapRouter.Proofs.Route.Line

/-!
# Groups and the tokens that flow into them

A swap that is merged into a group spends what the swap before it gives, and nothing else: the
token between them never reaches the router.  Whether a swap is merged is decided from the swaps
that *take* this token, of which there must be one; that another swap *gives* it as well, and that
its output is then left behind, is not looked at.

* `Strategies.Passes.isZero_of_outgoingOf`: the only swap out of a token carries no fraction.
* `Strategies.Passes.nodup_map_tokenOut`: without a fork no token is given twice, unless the swaps
  run into a circle.
* `Strategies.isFedWithin_iff`: groups strand nothing exactly if no swap gives a token that is
  handed on between two neighbours.
-/

namespace SwapRouter

namespace Route

variable {capabilities : Capabilities} {swaps : List Swap} {s : Swap} {t : Address}

/-- The swaps that give a token, in their order. -/
def incomingOf (swaps : List Swap) (token : Address) : List Swap :=
  swaps.filter (·.tokenOut = token)

/-- Every swap that is merged into a group is fed by the swap before it alone. -/
def IsFedWithin (capabilities : Capabilities) (swaps : List Swap) : Prop :=
  ∀ g ∈ group capabilities swaps, ∀ before next, [before, next] <:+: g.swaps →
    incomingOf swaps next.tokenIn = [before]

/-! ## Single swaps out of a token, and into one -/

/-- No token is a fork if a single swap takes it. -/
theorem isFork_eq_false_iff (hs : s ∈ swaps) :
    isFork swaps s.tokenIn = false ↔ outgoingOf swaps s.tokenIn = [s] := by
  have hmem : s ∈ outgoingOf swaps s.tokenIn := mem_outgoingOf.2 ⟨hs, rfl⟩
  rw [isFork, decide_eq_false_iff_not, not_lt]
  constructor
  · intro hle
    have hpos := List.length_pos_of_mem hmem
    obtain ⟨x, hx⟩ := List.length_eq_one_iff.1 (Nat.le_antisymm hle hpos)
    rw [hx, List.mem_singleton] at hmem
    rw [hx, hmem]
  · intro h
    rw [h, List.length_singleton]

/-- Where no token is given twice, a token is given by one swap. -/
theorem incomingOf_eq_singleton (hnodup : (swaps.map Swap.tokenOut).Nodup) (hs : s ∈ swaps) :
    incomingOf swaps s.tokenOut = [s] := by
  rw [← List.perm_singleton]
  refine (List.perm_ext_iff_of_nodup ((List.Nodup.of_map _ hnodup).filter _)
    (List.nodup_singleton s)).2 fun x => ?_
  rw [List.mem_filter, decide_eq_true_eq, List.mem_singleton]
  constructor
  · rintro ⟨hx, hout⟩
    exact List.inj_on_of_nodup_map hnodup hx hs hout
  · rintro rfl
    exact ⟨hs, rfl⟩

/-- Where no token is given twice, groups strand nothing. -/
theorem isFedWithin_of_nodup (hnodup : (swaps.map Swap.tokenOut).Nodup) :
    IsFedWithin capabilities swaps := by
  intro g hg before next hpair
  obtain ⟨hbeside, hjoins⟩ := merged_iff.1 ⟨g, hg, hpair⟩
  rw [(joins_iff.1 hjoins).2.2.2.1]
  exact incomingOf_eq_singleton hnodup (hbeside.subset List.mem_cons_self)

/-- The check of the fractions lets the only swap out of a token carry none. -/
theorem isZero_of_checkSplits (h : checkSplits swaps = .ok ())
    (hs : outgoingOf swaps t = [s]) : s.split.isZero = true := by
  obtain ⟨hmem, rfl⟩ := mem_outgoingOf.1 (hs ▸ List.mem_singleton_self s)
  have hchecked := checkSplitsOf_of_checkSplits h hmem
  rw [hs] at hchecked
  obtain ⟨⟨⟩, -, hzero⟩ := bind_eq_ok_iff.1 hchecked
  dsimp only at hzero
  split at hzero
  next hsplit => exact hsplit
  · cases hzero

end Route

namespace Strategies

variable {t : Strategies} {f : RouterFunction} {order : Order}

/-- The only swap out of a token carries no fraction. -/
theorem Passes.isZero_of_outgoingOf (h : t.Passes f order) {s : Swap}
    (hs : Route.outgoingOf order.swaps s.tokenIn = [s]) : s.split.isZero = true := by
  by_cases hf : f = .split
  · exact Route.isZero_of_checkSplits (h.fractions hf) hs
  · have hfork : Route.hasFork order.swaps = false :=
      Bool.eq_false_iff.2 fun hfork => hf ((hasFork_iff_of_choose h.chosen).1 hfork)
    exact Route.isZero_of_hasFork_eq_false hfork
      (Route.mem_outgoingOf.1 (hs ▸ List.mem_singleton_self s)).1

/-- **Without a fork no token is given twice**, if the last swap gives a token that none takes, or
if the list is a path.  Otherwise the swaps may run into a circle, and the token at which they
enter it is given twice. -/
theorem Passes.nodup_map_tokenOut (h : t.Passes f order) (hf : f ≠ .split)
    (hend : (∃ last, order.swaps.getLast? = some last ∧
        last.tokenOut ∉ Route.sources order.swaps) ∨ ∃ a b, Route.IsWalk a order.swaps b) :
    (order.swaps.map Swap.tokenOut).Nodup := by
  have hnodup := h.accepted.nodup hf
  have hsource : ∀ b, b ∉ Route.sources order.swaps → b ∉ order.swaps.map Swap.tokenIn := by
    intro b hb hmem
    obtain ⟨s, hs, hin⟩ := List.mem_map.1 hmem
    exact hb (Route.mem_sources.2 ⟨s, hs, hin⟩)
  rcases hend with ⟨last, hlast, hout⟩ | ⟨a, b, hwalk⟩
  · obtain ⟨w, c, hperm, hwalk, -⟩ := Route.exists_perm_isWalk h.accepted.connected hnodup
    have hins := hperm.map Swap.tokenIn
    have hc : last.tokenOut = c := by
      have hmem := Route.tokenOut_mem_of_isWalk hwalk
        (hperm.symm.subset (List.mem_of_getLast? hlast))
      exact hmem.resolve_left fun hin => hsource _ hout (hins.subset hin)
    have houts := Route.nodup_map_tokenOut_of_isWalk hwalk (hins.nodup_iff.2 hnodup)
      fun hin => hsource _ (hc ▸ hout) (hins.subset hin)
    exact (hperm.map Swap.tokenOut).nodup_iff.1 houts
  · by_cases hab : a = b
    · exact Route.nodup_map_tokenOut_of_isWalk_self (hab ▸ hwalk) hnodup
    · exact Route.nodup_map_tokenOut_of_isWalk hwalk hnodup
        (hsource b (h.accepted.end_of_isWalk hwalk hab).2)

/-- **When groups strand nothing.**  A swap that passes the checks is merged if it is the only one
that takes the output of the swap before it, on the same protocol.  Groups strand nothing exactly if
each such swap is fed by its neighbour alone, and they never do in an order without a fork whose
list is a path or ends at a token that no swap takes. -/
theorem isFedWithin_iff (h : t.Passes f order) :
    (Route.IsFedWithin t.config.capabilities order.swaps ↔
        order.swaps.IsChain fun before next => next.protocol = before.protocol →
          t.config.capabilities.isGroupable next.protocol = true →
          next.tokenIn = before.tokenOut → Route.outgoingOf order.swaps next.tokenIn = [next] →
          Route.incomingOf order.swaps next.tokenIn = [before]) ∧
      (f ≠ .split →
        ((∃ last, order.swaps.getLast? = some last ∧
            last.tokenOut ∉ Route.sources order.swaps) ∨ ∃ a b, Route.IsWalk a order.swaps b) →
        Route.IsFedWithin t.config.capabilities order.swaps) := by
  refine ⟨⟨?_, ?_⟩, fun hf hend => Route.isFedWithin_of_nodup (h.nodup_map_tokenOut hf hend)⟩
  · refine fun hfed => (List.isChain_isInfix order.swaps).imp ?_
    intro before next hbeside hprotocol hgroupable hin hout
    have hnext : next ∈ order.swaps := hbeside.subset (List.mem_cons_of_mem _ List.mem_cons_self)
    have hfork := (Route.isFork_eq_false_iff hnext).2 hout
    obtain ⟨g, hg, hpair⟩ := Route.merged_iff.2 ⟨hbeside, Route.joins_iff.2
      ⟨hprotocol, hgroupable, h.isZero_of_outgoingOf hout, hin, hfork⟩⟩
    exact hfed g hg before next hpair
  · intro hlone g hg before next hpair
    obtain ⟨hbeside, hjoins⟩ := Route.merged_iff.1 ⟨g, hg, hpair⟩
    obtain ⟨hprotocol, hgroupable, -, hin, hfork⟩ := Route.joins_iff.1 hjoins
    have hnext : next ∈ order.swaps := hbeside.subset (List.mem_cons_of_mem _ List.mem_cons_self)
    have hchain := List.IsChain.infix hlone hbeside
    exact List.isChain_pair.1 hchain hprotocol hgroupable hin
      ((Route.isFork_eq_false_iff hnext).1 hfork)

end Strategies

namespace Sample

/-- A pool of the first two tokens whose protocol settles at the end of a call. -/
def pooledUsdcWeth : Pool where
  id := "0x21c67e77068de97969ba93d4aab21826d33ca12bb9f565d8496e8fda8a82ca27"
  protocol := "uniswap_v4"
  tokens := [usdc, weth]
  attributes := [("key_lp_fee", [0x0b, 0xb8]), ("tick_spacing", [0x3c])]

/-- A pool of the last two tokens whose protocol settles at the end of a call. -/
def pooledDaiUsdc : Pool where
  id := "0xe018f09af38956affdfeab72c2cefbcd4e6fee44d09df7525ec9dba3e51356a5"
  protocol := "uniswap_v4"
  tokens := [dai, usdc]
  attributes := [("key_lp_fee", [0x0b, 0xb8]), ("tick_spacing", [0x3c])]

/-- Half of the first token goes to the last one directly, the rest through a group. -/
def apart : Order :=
  sale [swap daiWeth weth dai half, swap pooledUsdcWeth weth usdc, swap pooledDaiUsdc usdc dai]

/-- Half of the first token goes to the second one outside of the group that sells it. -/
def fedFromOutside : Order :=
  sale [swap usdcWeth weth usdc half, swap pooledUsdcWeth weth usdc, swap pooledDaiUsdc usdc dai]

theorem passes_apart_fedFromOutside :
    strategies.Passes .split apart ∧ strategies.Passes .split fedFromOutside :=
  ⟨passes_of_run (by decide +kernel), passes_of_run (by decide +kernel)⟩

/-- A group that is fed at its first swap alone strands nothing. -/
theorem isFedWithin_apart :
    strategies.Passes .split apart ∧
      Route.IsFedWithin strategies.config.capabilities apart.swaps := by
  have hpasses := passes_apart_fedFromOutside.1
  refine ⟨hpasses, (Strategies.isFedWithin_iff hpasses).1.2 ?_⟩
  refine .cons_cons (fun _ _ hin => absurd hin (by decide)) (.cons_cons (fun _ _ _ _ => rfl) ?_)
  exact .singleton _

/-- An order with a swap outside of a group that gives a token within it passes the checks, and
what this swap gives is not spent. -/
theorem not_isFedWithin_fedFromOutside :
    strategies.Passes .split fedFromOutside ∧
      ¬ Route.IsFedWithin strategies.config.capabilities fedFromOutside.swaps := by
  refine ⟨passes_apart_fedFromOutside.2, fun hfed => ?_⟩
  have hbeside : [swap pooledUsdcWeth weth usdc, swap pooledDaiUsdc usdc dai] <:+:
      fedFromOutside.swaps := ⟨[swap usdcWeth weth usdc half], [], rfl⟩
  have hjoins : Route.joins strategies.config.capabilities (Route.isFork fedFromOutside.swaps)
      (swap pooledUsdcWeth weth usdc) (swap pooledDaiUsdc usdc dai) = true := by decide
  obtain ⟨g, hg, hpair⟩ := Route.merged_iff.2 ⟨hbeside, hjoins⟩
  have hfeed := hfed g hg _ _ hpair
  exact absurd hfeed (by decide)

end Sample

end SwapRouter
