import SwapRouter.Proofs.Route.Plain

/-!
# Where cycles are

The check for repeats looks at the last swap of the list alone (`checkCycles_eq_ok_iff`), so what
it says of the graph is little: where the last token is taken again, the order has to start from
it.  Cycles elsewhere pass.

* `Strategies.Accepted.exists_isCycle`: an order whose last token is taken again has a cycle.
* `Strategies.cyclesMeetEnds_iff`: every cycle goes through the token at which the order starts and
  ends exactly if the last token is taken only where it is the first one too, and the swaps that
  take other tokens have no cycle among themselves.
-/

namespace SwapRouter

namespace Route

variable {swaps c : List Swap} {s : Swap} {t : Address}

/-- The swaps that do not take a token. -/
def without (t : Address) (swaps : List Swap) : List Swap := swaps.filter (·.tokenIn ≠ t)

theorem mem_without : s ∈ without t swaps ↔ s ∈ swaps ∧ s.tokenIn ≠ t := by
  rw [without, List.mem_filter, decide_eq_true_eq]

/-- **Every cycle goes through a token exactly if the swaps that take other tokens have no cycle**,
for which it is enough to search the tokens from the output of each of them. -/
theorem forall_isCycle_meets_iff :
    (∀ c, IsCycle swaps c → ∃ s ∈ c, s.tokenIn = t) ↔
      ∀ s ∈ without t swaps, s.tokenIn ∉ reachable (without t swaps) s.tokenOut := by
  constructor
  · intro h s hs hback
    obtain ⟨c, hc⟩ := exists_isCycle_of_reaches hs (mem_reachable_iff.1 hback)
    have hsub : without t swaps ⊆ swaps := fun x hx => (mem_without.1 hx).1
    obtain ⟨x, hx, hxt⟩ := h _ (hc.mono hsub)
    exact (mem_without.1 (hc.subset hx)).2 hxt
  · intro h c hc
    by_contra hnone
    have hsub : c ⊆ without t swaps := fun x hx =>
      mem_without.2 ⟨hc.subset hx, fun hxt => hnone ⟨x, hx, hxt⟩⟩
    obtain ⟨s, hs, hback⟩ := hc.exists_reaches
    exact h s (hsub hs) (mem_reachable_iff.2 (hback.mono hsub))

end Route

namespace Strategies

variable {t : Strategies} {f : RouterFunction} {order : Order}

/-- Every cycle of the swaps goes through one token, at which the order starts and ends, and the
native coin is then left alone. -/
def CyclesMeetEnds (t : Strategies) (order : Order) : Prop :=
  ∀ c, Route.IsCycle order.swaps c →
    order.firstToken t.config.chain = order.lastToken t.config.chain ∧ order.nativeAction = none ∧
      ∃ s ∈ c, s.tokenIn = order.firstToken t.config.chain

/-- Where the last token is taken again, the native coin is left alone. -/
theorem Accepted.nativeAction_eq_none (h : t.Accepted f order)
    (hlast : order.lastToken t.config.chain ∈ Route.sources order.swaps) :
    order.nativeAction = none := by
  obtain ⟨first, last, hfirst, hgetLast, -⟩ := h.ends
  rcases h.last_eq hfirst hgetLast with ⟨hend, hout⟩ | ⟨-, hnative⟩
  · exact absurd hlast (hend ▸ hout)
  · exact hnative

/-- Where the last token is taken again, the swaps leave no token behind and run into a cycle. -/
theorem Accepted.exists_isCycle (h : t.Accepted f order)
    (hlast : order.lastToken t.config.chain ∈ Route.sources order.swaps) :
    ∃ c, Route.IsCycle order.swaps c := by
  refine Route.exists_isCycle_of_forall_reaches (a := order.firstToken t.config.chain) ?_
  intro token hreach
  by_cases htoken : token = order.lastToken t.config.chain
  · exact Route.mem_sources.1 (htoken ▸ hlast)
  · exact Route.mem_sources.1 (h.connected.mem_of_reaches token hreach htoken)

/-- On a way from the first token to the last one that does not go on from the last one, no token
is taken twice, if every cycle goes through the ends. -/
theorem CyclesMeetEnds.nodup_map_tokenIn (h : t.CyclesMeetEnds order) {w : List Swap}
    (hw : w ⊆ order.swaps)
    (hwalk : Route.IsWalk (order.firstToken t.config.chain) w (order.lastToken t.config.chain))
    (hinner : ∀ s ∈ w.tail, s.tokenIn ≠ order.lastToken t.config.chain) :
    (w.map Swap.tokenIn).Nodup := by
  by_contra hdup
  obtain ⟨c, hc⟩ := Route.exists_isCycle_of_not_nodup hwalk hdup
  obtain ⟨hends, -, -⟩ := h c (hc.mono hw)
  cases w with
  | nil => exact hdup List.nodup_nil
  | cons s rest =>
    obtain ⟨hs, hrest⟩ := Route.isWalk_cons.1 hwalk
    refine hdup (List.nodup_cons.2 ⟨fun hmem => ?_, ?_⟩)
    · obtain ⟨x, hx, hxs⟩ := List.mem_map.1 hmem
      exact hinner x hx (hxs.trans (hs.trans hends))
    · -- a cycle behind the first swap would go through the last token
      by_contra hdup'
      obtain ⟨c', hc'⟩ := Route.exists_isCycle_of_not_nodup hrest hdup'
      have hsub : rest ⊆ order.swaps := (List.cons_subset.1 hw).2
      obtain ⟨-, -, x, hx, hxt⟩ := h c' (hc'.mono hsub)
      exact hinner x (hc'.subset hx) (hxt.trans hends)

/-- **When cycles are where they may be.**  Every cycle of an order that is encoded goes through
the token at which the order starts and ends, without a native action, exactly if the last token
is taken only where the order starts from it, and the swaps that take other tokens have no cycle
among themselves.  No token is then taken twice on a way from the first token to the last one. -/
theorem cyclesMeetEnds_iff (h : t.Encodes f order) :
    (t.CyclesMeetEnds order ↔
        (order.lastToken t.config.chain ∈ Route.sources order.swaps →
          order.firstToken t.config.chain = order.lastToken t.config.chain) ∧
        ∀ s ∈ Route.without (order.lastToken t.config.chain) order.swaps,
          s.tokenIn ∉ Route.reachable
            (Route.without (order.lastToken t.config.chain) order.swaps) s.tokenOut) ∧
      (t.CyclesMeetEnds order → ∀ w, w ⊆ order.swaps →
        Route.IsWalk (order.firstToken t.config.chain) w (order.lastToken t.config.chain) →
        (∀ s ∈ w.tail, s.tokenIn ≠ order.lastToken t.config.chain) →
        (w.map Swap.tokenIn).Nodup) := by
  have haccepted := h.passes.accepted
  rw [← Route.forall_isCycle_meets_iff]
  refine ⟨⟨fun hmeet => ⟨fun hlast => ?_, fun c hc => ?_⟩, ?_⟩, ?_⟩
  · obtain ⟨c, hc⟩ := haccepted.exists_isCycle hlast
    exact (hmeet c hc).1
  · obtain ⟨hends, -, s, hs, hst⟩ := hmeet c hc
    exact ⟨s, hs, hst.trans hends⟩
  · rintro ⟨hends, hmeet⟩ c hc
    obtain ⟨s, hs, hst⟩ := hmeet c hc
    have hlast : order.lastToken t.config.chain ∈ Route.sources order.swaps :=
      Route.mem_sources.2 ⟨s, hc.subset hs, hst⟩
    exact ⟨hends hlast, haccepted.nativeAction_eq_none hlast, s, hs, hst.trans (hends hlast).symm⟩
  · exact fun hmeet w hw hwalk hinner => hmeet.nodup_map_tokenIn hw hwalk hinner

end Strategies

namespace Sample

/-- The first token for the second one and back. -/
def roundTrip : Order :=
  sale [swap usdcWeth weth usdc, swap usdcWeth' usdc weth] weth

/-- Half of the first token goes to the second one and back, before the rest is sold. -/
def detour : Order :=
  sale [swap usdcWeth weth usdc half, swap usdcWeth' usdc weth, swap daiWeth weth dai]

theorem encodes_roundTrip_detour :
    strategies.Encodes .sequential roundTrip ∧ strategies.Encodes .split detour := by
  constructor
  · exact encodes (by decide) (by decide) (passes_of_run (by decide +kernel))
  · exact encodes (by decide +kernel) (by decide) (passes_of_run (by decide +kernel))

/-- The cycle of an order that ends where it starts goes through this token. -/
theorem cyclesMeetEnds_roundTrip :
    strategies.Encodes .sequential roundTrip ∧ strategies.CyclesMeetEnds roundTrip := by
  have hencodes := encodes_roundTrip_detour.1
  exact ⟨hencodes, (Strategies.cyclesMeetEnds_iff hencodes).1.2 ⟨fun _ => rfl, by decide⟩⟩

/-- An order that comes back to its first token on its way to another one is encoded. -/
theorem not_cyclesMeetEnds_detour :
    strategies.Encodes .split detour ∧ ¬ strategies.CyclesMeetEnds detour := by
  refine ⟨encodes_roundTrip_detour.2, fun hmeet => ?_⟩
  have hcycle : Route.IsCycle detour.swaps
      [swap usdcWeth weth usdc half, swap usdcWeth' usdc weth] :=
    ⟨List.cons_ne_nil _ _, List.subset_append_left _ [swap daiWeth weth dai], weth, by decide⟩
  exact absurd (hmeet _ hcycle).1 (by decide)

end Sample

end SwapRouter
