import Mathlib.Data.List.Chain
import Mathlib.Data.List.Perm.Basic
import SwapRouter.Proofs.Route.Plain

/-!
# Orders without a fork

The router runs the swaps of an order one after the other, and a hop spends what the hop before it
gave.  The checks look at the swaps as a graph.  For an order without a fork the two agree up to
the order of the list: a walk that is extended for as long as a swap is left at its end uses every
swap (`subset_of_isWalk`), so that *some* order of the swaps is a path, but nothing brings the list
into that order.

* `exists_perm_isWalk`: the swaps can be put in an order in which they are a path.
* `Strategies.isWalk_swaps_iff`: the list itself is the path from the first token to the last one
  exactly if each swap takes what the one before it gives and, where this closes a circle, the
  circle starts at the first token and ends at the last one.
-/

namespace SwapRouter

namespace Route

variable {swaps w : List Swap} {a b : Address}

/-! ## Linked swaps -/

/-- Swaps are a walk between some tokens if each takes what the one before it gives. -/
theorem exists_isWalk_of_isChain (h : swaps.IsChain fun s next => next.tokenIn = s.tokenOut) :
    ∃ a b, IsWalk a swaps b := by
  induction swaps with
  | nil => exact ⟨Address.native, Address.native, rfl⟩
  | cons s rest ih =>
    obtain ⟨hhead, hrest⟩ := List.isChain_cons.1 h
    cases rest with
    | nil => exact ⟨s.tokenIn, s.tokenOut, rfl, rfl⟩
    | cons next rest =>
      obtain ⟨a, b, hwalk⟩ := ih hrest
      have ha : s.tokenOut = a := (hhead next rfl).symm.trans (isWalk_cons.1 hwalk).1
      exact ⟨s.tokenIn, b, rfl, ha ▸ hwalk⟩

/-! ## Walks that cannot be extended -/

/-- A walk can be extended until no swap that it has not used takes the token at its end. -/
theorem exists_isWalk_perm_append (swaps : List Swap) (a : Address) :
    ∃ w rest b, (w ++ rest).Perm swaps ∧ IsWalk a w b ∧ ∀ s ∈ rest, s.tokenIn ≠ b := by
  induction hn : swaps.length generalizing swaps a with
  | zero =>
    rw [List.length_eq_zero_iff.1 hn]
    exact ⟨[], [], a, List.Perm.nil, rfl, fun s hs => absurd hs List.not_mem_nil⟩
  | succ n ih =>
    by_cases htake : ∃ s ∈ swaps, s.tokenIn = a
    · obtain ⟨s, hs, hin⟩ := htake
      have hlen : (swaps.erase s).length = n := by
        rw [List.length_erase_of_mem hs, hn, Nat.add_sub_cancel]
      obtain ⟨w, rest, b, hperm, hwalk, hrest⟩ := ih (swaps.erase s) s.tokenOut hlen
      refine ⟨s :: w, rest, b, ?_, ⟨hin, hwalk⟩, hrest⟩
      exact (hperm.cons s).trans (List.perm_cons_erase hs).symm
    · refine ⟨[], swaps, a, List.Perm.refl _, rfl, fun s hs hin => htake ⟨s, hs, hin⟩⟩

/-- **A walk that cannot be extended uses every swap**, if no token is taken twice and every token
that is taken is reached from its start.  The tokens all of whose swaps are used are closed under
the swaps: the one swap that takes such a token is on the walk, and then what it gives is taken on
the walk as well, or is the end of it. -/
theorem subset_of_isWalk (hnodup : (swaps.map Swap.tokenIn).Nodup)
    (hreach : ∀ t ∈ sources swaps, Reaches swaps a t) (hw : w ⊆ swaps) (hwalk : IsWalk a w b)
    (hend : ∀ s ∈ swaps, s.tokenIn = b → s ∈ w) : swaps ⊆ w := by
  have hused : ∀ x ∈ w, ∀ s ∈ swaps, s.tokenIn = x.tokenIn → s ∈ w := fun x hx s hs hsame =>
    List.inj_on_of_nodup_map hnodup hs (hw hx) hsame ▸ hx
  have hstart : ∀ s ∈ swaps, s.tokenIn = a → s ∈ w := by
    intro s hs hin
    by_cases hne : w = []
    · subst hne
      exact hend s hs (hin.trans (isWalk_nil.1 hwalk))
    · obtain ⟨x, hx, hxa⟩ := List.mem_map.1 (start_mem_of_isWalk hwalk hne)
      exact hused x hx s hs (hin.trans hxa.symm)
  intro s hs
  have hin := hreach s.tokenIn (mem_sources.2 ⟨s, hs, rfl⟩)
  refine hin.of_closed (P := fun t => ∀ s ∈ swaps, s.tokenIn = t → s ∈ w) hstart ?_ s hs rfl
  intro x hx hclosed s hs hin
  rcases tokenOut_mem_of_isWalk hwalk (hclosed x hx rfl) with hout | hout
  · obtain ⟨y, hy, hyx⟩ := List.mem_map.1 hout
    exact hused y hy s hs (hin.trans hyx.symm)
  · exact hend s hs (hin.trans hout)

/-- **Connected swaps that take no token twice can be put in an order in which they are a path.**
The path ends at the last token, or at a token that it has passed before. -/
theorem exists_perm_isWalk (h : Connected swaps a b) (hnodup : (swaps.map Swap.tokenIn).Nodup) :
    ∃ w c, w.Perm swaps ∧ IsWalk a w c ∧ (c = b ∨ c ∈ sources swaps) := by
  obtain ⟨w, rest, c, hperm, hwalk, hrest⟩ := exists_isWalk_perm_append swaps a
  have hw : w ⊆ swaps := fun s hs => hperm.subset (List.mem_append_left rest hs)
  have hall : swaps ⊆ w := by
    refine subset_of_isWalk hnodup h.reaches_source hw hwalk fun s hs hin => ?_
    exact (List.mem_append.1 (hperm.symm.subset hs)).resolve_right fun hmem => hrest s hmem hin
  have hrest : rest = [] := by
    refine List.eq_nil_iff_forall_not_mem.2 fun s hs => ?_
    have hdisjoint := List.disjoint_of_nodup_append (hperm.nodup_iff.2 (List.Nodup.of_map _ hnodup))
    exact hdisjoint (hall (hperm.subset (List.mem_append_right w hs))) hs
  rw [hrest, List.append_nil] at hperm
  refine ⟨w, c, hperm, hwalk, or_iff_not_imp_right.2 fun hc => ?_⟩
  by_contra hne
  exact hc (h.mem_of_reaches c ⟨w, hw, hwalk⟩ hne)

/-- A walk along all swaps to a token that none of them takes starts at the token from which the
others are reached. -/
theorem start_eq_of_isWalk {start : Address} (hnodup : (swaps.map Swap.tokenIn).Nodup)
    (hstart : start ∈ sources swaps) (hreach : ∀ t ∈ sources swaps, Reaches swaps start t)
    (hwalk : IsWalk a swaps b) (hb : b ∉ sources swaps) : a = start := by
  obtain ⟨s, hs, hin⟩ := mem_sources.1 hstart
  obtain ⟨u, v, rfl⟩ := List.append_of_mem hs
  obtain ⟨c, hu, hv⟩ := isWalk_append.1 hwalk
  have hc : start = c := hin.symm.trans (isWalk_cons.1 hv).1
  have hend : ∀ x ∈ u ++ s :: v, x.tokenIn = b → x ∈ s :: v := fun x hx hxb =>
    absurd (mem_sources.2 ⟨x, hx, hxb⟩) hb
  have hall := subset_of_isWalk hnodup hreach (List.subset_append_right u _) (hc ▸ hv) hend
  have hdisjoint := List.disjoint_of_nodup_append (List.Nodup.of_map _ hnodup)
  -- what stands before the swap that takes the first token would have to stand behind it too
  have hnil : u = [] := List.eq_nil_iff_forall_not_mem.2 fun x hx =>
    hdisjoint hx (hall (List.mem_append_left _ hx))
  rw [hnil] at hu
  exact (isWalk_nil.1 hu).trans hc.symm

end Route

namespace Strategies

variable {t : Strategies} {f : RouterFunction} {order : Order}

/-! ## Orders that are encoded -/

/-- The swaps of an order for the simplest function take what the ones before them give. -/
theorem exists_isWalk_of_single (h : t.Encodes .single order) :
    ∃ a b, Route.IsWalk a order.swaps b := by
  obtain ⟨g, hg⟩ := exists_group_eq_singleton_of_choose h.1
  refine Route.exists_isWalk_of_isChain ?_
  exact (Route.isChain_joins_of_group_eq_singleton hg).imp fun before next hjoins =>
    (Route.joins_iff.1 hjoins).2.2.2.1

/-- A path along the swaps of an accepted order without a fork runs from its first token to its
last one, unless it is closed. -/
theorem Accepted.ends_of_isWalk (h : t.Accepted f order) (hf : f ≠ .split) {a b : Address}
    (hwalk : Route.IsWalk a order.swaps b) (hopen : a ≠ b) :
    a = order.firstToken t.config.chain ∧ b = order.lastToken t.config.chain := by
  obtain ⟨hb, hout⟩ := h.end_of_isWalk hwalk hopen
  exact ⟨Route.start_eq_of_isWalk (h.nodup hf) h.connected.start_mem h.connected.reaches_source
    hwalk hout, hb⟩

/-- **When the swaps of an order without a fork are a path in the order of the list.**  They can
always be put in an order in which they are a path from the first token, and with a single group
they are a path as they stand.  The list is the path from the first token to the last one exactly
if it is a path at all and, where this path is closed, it starts and ends where it should. -/
theorem isWalk_swaps_iff (h : t.Encodes f order) (hf : f ≠ .split) :
    (∃ w b, w.Perm order.swaps ∧ Route.IsWalk (order.firstToken t.config.chain) w b ∧
        (b = order.lastToken t.config.chain ∨ b ∈ Route.sources order.swaps)) ∧
      (f = .single → ∃ a b, Route.IsWalk a order.swaps b) ∧
      (Route.IsWalk (order.firstToken t.config.chain) order.swaps
          (order.lastToken t.config.chain) ↔
        ∃ a b, Route.IsWalk a order.swaps b ∧
          (a = b → a = order.firstToken t.config.chain ∧ b = order.lastToken t.config.chain)) := by
  have haccepted := h.passes.accepted
  refine ⟨Route.exists_perm_isWalk haccepted.connected (haccepted.nodup hf), ?_, ?_⟩
  · rintro rfl
    exact exists_isWalk_of_single h
  · constructor
    · exact fun hwalk => ⟨_, _, hwalk, fun _ => ⟨rfl, rfl⟩⟩
    · rintro ⟨a, b, hwalk, hclosed⟩
      by_cases hab : a = b
      · obtain ⟨ha, hb⟩ := hclosed hab
        exact ha ▸ hb ▸ hwalk
      · obtain ⟨ha, hb⟩ := haccepted.ends_of_isWalk hf hwalk hab
        exact ha ▸ hb ▸ hwalk

end Strategies

namespace Sample

/-- A path of two swaps. -/
def inOrder : Order := sale [swap usdcWeth weth usdc, swap daiUsdc usdc dai]

/-- The same swaps, the second one first. -/
def outOfOrder : Order := sale [swap daiUsdc usdc dai, swap usdcWeth weth usdc]

theorem encodes_inOrder_outOfOrder :
    strategies.Encodes .sequential inOrder ∧ strategies.Encodes .sequential outOfOrder := by
  constructor
  · exact encodes (by decide) (by decide) (passes_of_run (by decide +kernel))
  · exact encodes (by decide) (by decide) (passes_of_run (by decide +kernel))

/-- Swaps that are listed as they are run are the path from the first token to the last one. -/
theorem isWalk_inOrder :
    strategies.Encodes .sequential inOrder ∧ RouterFunction.sequential ≠ .split ∧
      Route.IsWalk weth inOrder.swaps dai := by
  have hf : RouterFunction.sequential ≠ .split := by decide
  have hencodes := encodes_inOrder_outOfOrder.1
  refine ⟨hencodes, hf, (Strategies.isWalk_swaps_iff hencodes hf).2.2.2 ?_⟩
  exact ⟨weth, dai, by decide, fun h => absurd h (by decide)⟩

/-- An order whose second swap feeds its first one is encoded, and its list is no path: the first
swap that is run finds nothing to spend. -/
theorem not_isWalk_outOfOrder :
    strategies.Encodes .sequential outOfOrder ∧
      ¬ Route.IsWalk (outOfOrder.firstToken .ethereum) outOfOrder.swaps
        (outOfOrder.lastToken .ethereum) :=
  ⟨encodes_inOrder_outOfOrder.2, by decide⟩

end Sample

end SwapRouter
