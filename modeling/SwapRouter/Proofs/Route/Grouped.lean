import Mathlib.Data.List.SplitBy
import SwapRouter.Proofs.Route.HopRest
import SwapRouter.Proofs.Route.Join

/-!
# Groups are the only ones of their kind

The swaps of a list are cut where a swap does not join the one before it, and nowhere else.  Whether
it joins is decided for two neighbours and the list of all swaps, so the cuts do not depend on each
other, and the groups are those of `List.splitBy`: there is one way to cut a list such that neighbours
join within each part and do not join across a cut.

A list of groups is given here by what is listed of each of them.  This may be anything, so it is
part of the conditions that the fields of a group are those of its first and of its last swap.

A group is a list of swaps itself.  Its swaps still join each other when they are grouped alone, for
a token that is no fork among all swaps is none among some of them.

* `Route.map_swaps_group`: the groups are the parts of `List.splitBy`.
* `Route.isGrouping_iff`: **the groups are the only list of which the conditions hold.**
* `Route.group_swaps_of_mem`: **grouping the swaps of a group again** gives this group alone.
-/

namespace SwapRouter

/-- What is listed of a group. -/
structure GroupEntry where
  protocol : String
  tokenIn : Address
  tokenOut : Address
  split : Binary64
  swaps : List Swap

/-- What a group is listed with. -/
def SwapGroup.entry (g : SwapGroup) : GroupEntry :=
  ⟨g.protocol, g.tokenIn, g.tokenOut, g.split, g.swaps⟩

/-- An entry has swaps; it takes what the first of them takes, with its fraction and through its
protocol, and gives what the last one gives. -/
def GroupEntry.HasEnds (x : GroupEntry) : Prop :=
  ∃ first last, x.swaps.head? = some first ∧ x.swaps.getLast? = some last ∧
    x.protocol = first.protocol ∧ x.tokenIn = first.tokenIn ∧ x.split = first.split ∧
    x.tokenOut = last.tokenOut

namespace Route

variable {capabilities : Capabilities} {j : Swap → Swap → Bool} {swaps : List Swap}
  {groups : List SwapGroup} {g : SwapGroup} {x : GroupEntry} {entries : List GroupEntry}
  {before next : Swap}

/-! ## Conditions -/

/-- A swap of a list goes on with what is of a protocol and gives a token: it is of the same protocol,
which is groupable, carries no fraction, and is the only swap of the list that takes the token. -/
structure GoesOn (capabilities : Capabilities) (swaps : List Swap) (protocol : String)
    (token : Address) (next : Swap) : Prop where
  protocol : next.protocol = protocol
  groupable : capabilities.isGroupable next.protocol = true
  split : next.split.isZero = true
  tokenIn : next.tokenIn = token
  only : outgoingOf swaps next.tokenIn = [next]

/-- What is asked of a list of groups.  Its groups have the swaps of the list; the swaps of a group
are of one protocol, and each goes on with the one before it; and no first swap of a group goes on
with the group before it. -/
structure IsGrouping (capabilities : Capabilities) (swaps : List Swap)
    (entries : List GroupEntry) : Prop where
  flatMap_swaps : entries.flatMap GroupEntry.swaps = swaps
  ends : ∀ x ∈ entries, x.HasEnds
  protocol : ∀ x ∈ entries, ∀ s ∈ x.swaps, s.protocol = x.protocol
  within : ∀ x ∈ entries, x.swaps.IsChain fun before next =>
    GoesOn capabilities swaps x.protocol before.tokenOut next
  maximal : entries.IsChain fun x y => ∀ first ∈ y.swaps.head?,
    ¬ GoesOn capabilities swaps x.protocol x.tokenOut first

/-- A swap joins another one exactly if it goes on with what that one is and gives. -/
theorem joins_iff_goesOn (hnext : next ∈ swaps) :
    joins capabilities (isFork swaps) before next = true ↔
      GoesOn capabilities swaps before.protocol before.tokenOut next := by
  rw [joins_iff, isFork_eq_false_iff hnext]
  exact ⟨fun ⟨hprotocol, hgroupable, hsplit, hin, honly⟩ =>
      ⟨hprotocol, hgroupable, hsplit, hin, honly⟩,
    fun h => ⟨h.protocol, h.groupable, h.split, h.tokenIn, h.only⟩⟩

/-! ## The parts of a list -/

/-- The last swap of a group. -/
def lastOf (g : SwapGroup) : Swap := g.later.getLastD g.first

theorem getLast?_swaps (g : SwapGroup) : g.swaps.getLast? = some (lastOf g) := by
  rw [lastOf, List.getLastD_eq_getLast?]
  exact List.getLast?_cons

/-- The ends of two lists that stand on the two sides of a cut. -/
theorem exists_cut_iff {α : Type} {r : α → α → Bool} {a b : List α} {last first : α}
    (hlast : a.getLast? = some last) (hfirst : b.head? = some first) :
    (∃ ha hb, r (a.getLast ha) (b.head hb) = false) ↔ r last first = false := by
  obtain ⟨front, rfl⟩ := List.getLast?_eq_some_iff.1 hlast
  obtain ⟨rest, rfl⟩ := List.head?_eq_some_iff.1 hfirst
  simp

/-- A group starts where a swap does not join the last one of the group before. -/
theorem isChain_foldr_consGroup (j : Swap → Swap → Bool) (swaps : List Swap) :
    (swaps.foldr (consGroup j) []).IsChain fun g next => j (lastOf g) next.first = false := by
  induction swaps with
  | nil => exact .nil
  | cons s rest ih =>
    rw [List.foldr_cons]
    cases hgroups : rest.foldr (consGroup j) [] with
    | nil => exact .singleton _
    | cons g groups =>
      rw [hgroups] at ih
      rw [consGroup]
      by_cases hjoins : j s g.first = true
      · -- the group that `s` goes into keeps its last swap
        have hlast : lastOf ⟨s, g.swaps⟩ = lastOf g :=
          (List.getLastD_cons ..).trans rfl
        rw [if_pos hjoins, List.isChain_cons, hlast]
        exact List.isChain_cons.1 ih
      · rw [if_neg hjoins]
        exact .cons_cons (Bool.eq_false_iff.2 hjoins) ih

/-- **The groups are the parts of a list** that is cut where a swap does not join the one before. -/
theorem map_swaps_group (capabilities : Capabilities) (swaps : List Swap) :
    (group capabilities swaps).map SwapGroup.swaps =
      swaps.splitBy (joins capabilities (isFork swaps)) := by
  refine (List.splitBy_eq_iff.2 ⟨?_, ?_, ?_, ?_⟩).symm
  · rw [← List.flatMap_def, flatMap_swaps_group]
  · intro hmem
    obtain ⟨g, -, hg⟩ := List.mem_map.1 hmem
    cases hg
  · refine List.forall_mem_map.2 fun g hg => ?_
    exact (List.isChain_isInfix g.swaps).imp fun before next hpair => (merged_iff.1 ⟨g, hg, hpair⟩).2
  · rw [List.isChain_map]
    refine (isChain_foldr_consGroup _ swaps).imp fun g next hcut => ?_
    exact (exists_cut_iff (getLast?_swaps g) rfl).2 hcut

/-! ## The only list of groups -/

theorem hasEnds_entry (g : SwapGroup) : g.entry.HasEnds :=
  ⟨g.first, lastOf g, rfl, getLast?_swaps g, rfl, rfl, rfl, rfl⟩

/-- An entry is determined by its swaps. -/
theorem eq_entry_of_hasEnds (h : x.HasEnds) (hswaps : x.swaps = g.swaps) : x = g.entry := by
  obtain ⟨first, last, hfirst, hlast, hprotocol, hin, hsplit, hout⟩ := h
  rw [hswaps] at hfirst hlast
  obtain rfl : g.first = first := Option.some_inj.1 hfirst
  obtain rfl : lastOf g = last := Option.some_inj.1 ((getLast?_swaps g).symm.trans hlast)
  cases x
  dsimp only at hswaps hprotocol hin hsplit hout
  subst hswaps hprotocol hin hsplit hout
  rfl

theorem eq_map_entry (hends : ∀ x ∈ entries, x.HasEnds)
    (hswaps : entries.map GroupEntry.swaps = groups.map SwapGroup.swaps) :
    entries = groups.map SwapGroup.entry := by
  induction entries generalizing groups with
  | nil =>
    obtain rfl : groups = [] := List.map_eq_nil_iff.1 hswaps.symm
    rfl
  | cons x entries ih =>
    obtain ⟨g, groups, rfl, hg, hgroups⟩ := List.map_eq_cons_iff.1 hswaps.symm
    obtain ⟨hx, hentries⟩ := List.forall_mem_cons.1 hends
    rw [List.map_cons, eq_entry_of_hasEnds hx hg.symm, ih hentries hgroups.symm]

/-- The swaps of one protocol join each other exactly if each goes on with the one before it. -/
theorem isChain_joins_iff {l : List Swap} {protocol : String} (hl : l ⊆ swaps)
    (hprotocol : ∀ s ∈ l, s.protocol = protocol) :
    l.IsChain (fun before next => joins capabilities (isFork swaps) before next = true) ↔
      l.IsChain fun before next => GoesOn capabilities swaps protocol before.tokenOut next :=
  List.IsChain.iff_of_mem_imp fun before next hbefore hnext => by
    rw [joins_iff_goesOn (hl hnext), hprotocol before hbefore]

/-- A list of groups cuts the swaps into the parts of `List.splitBy`. -/
theorem IsGrouping.map_swaps (h : IsGrouping capabilities swaps entries) :
    entries.map GroupEntry.swaps = swaps.splitBy (joins capabilities (isFork swaps)) := by
  have hsubset : ∀ x ∈ entries, x.swaps ⊆ swaps := fun x hx s hs => by
    rw [← h.flatMap_swaps]
    exact List.mem_flatMap_of_mem hx hs
  refine (List.splitBy_eq_iff.2 ⟨?_, ?_, ?_, ?_⟩).symm
  · rw [← List.flatMap_def, h.flatMap_swaps]
  · intro hmem
    obtain ⟨x, hx, hnil⟩ := List.mem_map.1 hmem
    obtain ⟨first, -, hfirst, -⟩ := h.ends x hx
    rw [hnil] at hfirst
    cases hfirst
  · refine List.forall_mem_map.2 fun x hx => ?_
    exact (isChain_joins_iff (hsubset x hx) (h.protocol x hx)).2 (h.within x hx)
  · rw [List.isChain_map]
    refine h.maximal.imp_of_mem_imp fun x y hx hy hcut => ?_
    obtain ⟨-, last, -, hlast, -, -, -, hout⟩ := h.ends x hx
    obtain ⟨first, -, hfirst, -⟩ := h.ends y hy
    refine (exists_cut_iff hlast hfirst).2 (Bool.eq_false_iff.2 fun hjoins => hcut first hfirst ?_)
    rw [joins_iff_goesOn (hsubset y hy (List.mem_of_mem_head? hfirst)),
      h.protocol x hx last (List.mem_of_getLast? hlast)] at hjoins
    rw [hout]
    exact hjoins

theorem isGrouping_map_entry (capabilities : Capabilities) (swaps : List Swap) :
    IsGrouping capabilities swaps ((group capabilities swaps).map SwapGroup.entry) where
  flatMap_swaps := by
    rw [List.flatMap_map]
    exact flatMap_swaps_group capabilities swaps
  ends := List.forall_mem_map.2 fun g _ => hasEnds_entry g
  protocol := List.forall_mem_map.2 fun g hg s hs => protocol_of_mem_group hg hs
  within := by
    refine List.forall_mem_map.2 fun g hg => ?_
    have hsubset : g.swaps ⊆ swaps := (sublist_of_mem_group hg).subset
    refine (isChain_joins_iff hsubset fun s hs => protocol_of_mem_group hg hs).1 ?_
    exact (List.isChain_isInfix g.swaps).imp fun before next hpair => (merged_iff.1 ⟨g, hg, hpair⟩).2
  maximal := by
    rw [List.isChain_map]
    refine (isChain_foldr_consGroup _ swaps).imp_of_mem_imp
      fun g next hg hnext hcut first hfirst hon => ?_
    obtain rfl : next.first = first := Option.some_inj.1 hfirst
    have hlast : (lastOf g).protocol = g.protocol :=
      protocol_of_mem_group hg (List.mem_of_getLast? (getLast?_swaps g))
    have hjoins : joins capabilities (isFork swaps) (lastOf g) next.first = true := by
      rw [joins_iff_goesOn ((sublist_of_mem_group hnext).subset List.mem_cons_self), hlast]
      exact hon
    rw [hcut] at hjoins
    cases hjoins

/-- **The groups are the only list of which the conditions hold.** -/
theorem isGrouping_iff (capabilities : Capabilities) (swaps : List Swap)
    (entries : List GroupEntry) :
    IsGrouping capabilities swaps entries ↔
      entries = (group capabilities swaps).map SwapGroup.entry := by
  constructor
  · intro h
    exact eq_map_entry h.ends (h.map_swaps.trans (map_swaps_group capabilities swaps).symm)
  · rintro rfl
    exact isGrouping_map_entry capabilities swaps

/-! ## Grouping again -/

/-- **Grouping the swaps of a group again gives this group alone.** -/
theorem group_swaps_of_mem (hg : g ∈ group capabilities swaps) :
    group capabilities g.swaps = [g] := by
  -- a swap that joins among all swaps joins among those of the group
  have hchain : g.swaps.IsChain fun before next =>
      joins capabilities (isFork g.swaps) before next = true := by
    refine (List.isChain_isInfix g.swaps).imp fun before next hpair => ?_
    obtain ⟨hprotocol, hgroupable, hsplit, hin, hfork⟩ :=
      joins_iff.1 (merged_iff.1 ⟨g, hg, hpair⟩).2
    exact joins_iff.2
      ⟨hprotocol, hgroupable, hsplit, hin, isFork_eq_false_of_sublist (sublist_of_mem_group hg) hfork⟩
  have hparts := map_swaps_group capabilities g.swaps
  have hswaps : g.swaps ≠ [] := List.cons_ne_nil _ _
  rw [List.splitBy_of_isChain hswaps hchain] at hparts
  obtain ⟨g', hgroup, hswaps⟩ := List.map_eq_singleton_iff.1 hparts
  obtain ⟨first, later⟩ := g'
  cases hswaps
  exact hgroup

end Route

namespace Sample

/-- The two swaps that make up the second group: its token is taken by a swap outside of it too. -/
def behindFork : SwapGroup :=
  ⟨swap pooledUsdcWeth weth usdc, [swap pooledDaiUsdc usdc dai]⟩

/-- A group that starts at a fork is one group again, although what it takes is no longer one. -/
theorem group_swaps_behindFork :
    (behindFork ∈ Route.group strategies.config.capabilities fedFromOutside.swaps ∧
      Route.isFork fedFromOutside.swaps weth = true ∧
      Route.isFork behindFork.swaps weth = false) ∧
    Route.group strategies.config.capabilities behindFork.swaps = [behindFork] := by
  have hmem : behindFork ∈ Route.group strategies.config.capabilities fedFromOutside.swaps := by
    decide +kernel
  exact ⟨⟨hmem, by decide, by decide⟩, Route.group_swaps_of_mem hmem⟩

end Sample

end SwapRouter
