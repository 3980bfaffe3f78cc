import Mathlib.Data.List.Chain
import SwapRouter.Route.Group

/-!
# Which swaps are merged

Swaps are grouped from the last one to the first: a swap is put in front of the groups behind it,
and goes into the first of them if it joins the swap that this group starts with.  What is decided
for two neighbours therefore depends on them and on the forks alone, not on the groups.

* `merged_iff`: two swaps follow each other in a group exactly if they follow each other in the
  list and join.
* `protocol_of_mem_group`: **the swaps of a group are of one protocol.**
* `isChain_joins_of_group_eq_singleton`: if all swaps are merged, each joins the one before it.
-/

namespace SwapRouter.Route

variable {capabilities : Capabilities} {j : Swap → Swap → Bool} {groups : List SwapGroup}
  {swaps : List Swap} {s before next : Swap}

/-! ## Neighbours -/

/-- Two entries follow each other in a list with a first entry if they are its first two, or
follow each other in what is left. -/
theorem pair_infix_cons {α : Type} {a b x : α} {l : List α} :
    [a, b] <:+: x :: l ↔ a = x ∧ l.head? = some b ∨ [a, b] <:+: l := by
  rw [List.infix_cons_iff, List.cons_prefix_cons]
  cases l with
  | nil => simp
  | cons y l =>
    rw [List.cons_prefix_cons, List.head?_cons, Option.some_inj, eq_comm (a := y)]
    simp

/-! ## Putting a swap in front -/

/-- The groups start with the swaps' first one. -/
theorem head?_foldr_consGroup :
    (swaps.foldr (consGroup j) []).head?.map SwapGroup.first = swaps.head? := by
  cases swaps with
  | nil => rfl
  | cons s rest =>
    rw [List.foldr_cons, List.head?_cons]
    cases rest.foldr (consGroup j) [] with
    | nil => rfl
    | cons g groups =>
      rw [consGroup]
      split <;> rfl

/-- What a swap in front adds to the neighbours in the groups: itself, with the first swap of the
groups if it joins that one. -/
theorem exists_pair_infix_consGroup :
    (∃ g ∈ consGroup j s groups, [before, next] <:+: g.swaps) ↔
      (before = s ∧ groups.head?.map SwapGroup.first = some next ∧ j before next = true) ∨
        ∃ g ∈ groups, [before, next] <:+: g.swaps := by
  have halone : ¬ [before, next] <:+: (⟨s, []⟩ : SwapGroup).swaps := fun h => by
    have hle := h.length_le
    simp [SwapGroup.swaps] at hle
  cases groups with
  | nil => simp [consGroup, halone]
  | cons g groups =>
    have hmerged : [before, next] <:+: (⟨s, g.swaps⟩ : SwapGroup).swaps ↔
        before = s ∧ g.first = next ∨ [before, next] <:+: g.swaps := by
      rw [← Option.some_inj (a := g.first)]
      exact pair_infix_cons
    rw [consGroup, List.head?_cons, Option.map_some, Option.some_inj, List.exists_mem_cons_iff]
    by_cases hj : j s g.first = true
    · rw [if_pos hj, List.exists_mem_cons_iff, hmerged, or_assoc]
      refine or_congr_left ⟨?_, fun h => ⟨h.1, h.2.1⟩⟩
      rintro ⟨rfl, rfl⟩
      exact ⟨rfl, rfl, hj⟩
    · rw [if_neg hj, List.exists_mem_cons_iff, List.exists_mem_cons_iff, or_iff_right halone]
      refine (or_iff_right ?_).symm
      rintro ⟨rfl, rfl, h⟩
      exact hj h

theorem exists_pair_infix_foldr_consGroup :
    (∃ g ∈ swaps.foldr (consGroup j) [], [before, next] <:+: g.swaps) ↔
      [before, next] <:+: swaps ∧ j before next = true := by
  induction swaps with
  | nil => simp
  | cons s rest ih =>
    rw [List.foldr_cons, exists_pair_infix_consGroup, head?_foldr_consGroup, ih, pair_infix_cons]
    tauto

/-! ## Groups -/

/-- A token that is no fork among some swaps is none among fewer of them. -/
theorem isFork_eq_false_of_sublist {l : List Swap} {token : Address} (hl : l.Sublist swaps)
    (h : isFork swaps token = false) : isFork l token = false := by
  rw [isFork, decide_eq_false_iff_not, not_lt] at h ⊢
  exact (hl.filter _).length_le.trans h

/-- The swaps of a group are some of those that are grouped, in the same order. -/
theorem sublist_of_mem_group {g : SwapGroup} (hg : g ∈ group capabilities swaps) :
    g.swaps.Sublist swaps := by
  rw [← flatMap_swaps_group capabilities swaps, List.flatMap_def]
  exact List.sublist_flatten_of_mem (List.mem_map_of_mem hg)

/-- **Two swaps follow each other in a group exactly if they follow each other in the list and
join.** -/
theorem merged_iff :
    (∃ g ∈ group capabilities swaps, [before, next] <:+: g.swaps) ↔
      [before, next] <:+: swaps ∧ joins capabilities (isFork swaps) before next = true :=
  exists_pair_infix_foldr_consGroup

theorem joins_iff {isFork : Address → Bool} :
    joins capabilities isFork before next = true ↔
      next.protocol = before.protocol ∧ capabilities.isGroupable next.protocol = true ∧
        next.split.isZero = true ∧ next.tokenIn = before.tokenOut ∧
          isFork next.tokenIn = false := by
  simp [joins, and_assoc]

/-- If only swaps of one protocol join, then all swaps of a group are of the protocol of the group. -/
theorem protocol_of_mem_foldr_consGroup
    (hj : ∀ before next, j before next = true → next.protocol = before.protocol) :
    ∀ g ∈ swaps.foldr (consGroup j) [], ∀ s ∈ g.swaps, s.protocol = g.protocol := by
  have halone (s : Swap) : ∀ x ∈ (⟨s, []⟩ : SwapGroup).swaps, x.protocol = s.protocol := fun x hx => by
    rw [List.mem_singleton.1 hx]
  induction swaps with
  | nil => exact fun g hg => absurd hg List.not_mem_nil
  | cons s rest ih =>
    rw [List.foldr_cons]
    cases hgroups : rest.foldr (consGroup j) [] with
    | nil => exact List.forall_mem_singleton.2 (halone s)
    | cons g groups =>
      rw [hgroups, List.forall_mem_cons] at ih
      rw [consGroup]
      by_cases hjoins : j s g.first = true
      · rw [if_pos hjoins, List.forall_mem_cons]
        have hsame : g.protocol = s.protocol := hj s g.first hjoins
        exact ⟨List.forall_mem_cons.2 ⟨rfl, fun x hx => (ih.1 x hx).trans hsame⟩, ih.2⟩
      · rw [if_neg hjoins, List.forall_mem_cons, List.forall_mem_cons]
        exact ⟨halone s, ih⟩

/-- **All swaps of a group are of the protocol of the group.** -/
theorem protocol_of_mem_group {g : SwapGroup} (hg : g ∈ group capabilities swaps) (hs : s ∈ g.swaps) :
    s.protocol = g.protocol :=
  protocol_of_mem_foldr_consGroup (fun _ _ h => (joins_iff.1 h).1) g hg s hs

/-- If all swaps are merged, each joins the one before it. -/
theorem isChain_joins_of_group_eq_singleton {g : SwapGroup}
    (h : group capabilities swaps = [g]) :
    swaps.IsChain fun before next => joins capabilities (isFork swaps) before next = true := by
  have hswaps : g.swaps = swaps := by
    rw [← flatMap_swaps_group capabilities swaps, h, List.flatMap_singleton]
  rw [← hswaps]
  refine (List.isChain_isInfix g.swaps).imp fun before next hpair => ?_
  rw [hswaps]
  exact (merged_iff.1 ⟨g, h ▸ List.mem_singleton_self g, hpair⟩).2

end SwapRouter.Route
