import Mathlib.Data.List.Infix
import SwapRouter.Proofs.Route.Plain

/-!
# What is left in the router

The last hop out of a token takes the rest of it, so a hop behind it that gives the token leaves
its output in the router.  The checks see to it that every token that is given is taken at all;
whether it is taken *later* depends on the order of the list, at which they do not look.

A swap together with the swaps behind it is a suffix of the list, written `s :: later <:+ swaps`,
and positions only enter in `getElem?_eq_some_iff` and `isRemainder_iff`.

* `mem_remainders`, `isRemainder_iff`: where the remainders are.
* `mem_afterRun`: what the router holds after all hops.
* `forall_isRemainder_iff`, `isHandedOn_iff_afterRun`: no hop gives a token after its remainder
  exactly if every hop's output is handed on, and exactly if nothing but the last token is left.
* `Strategies.remainder_after_inflows_iff`: what this says of the orders that are encoded.
-/

namespace SwapRouter

namespace Route

variable {swaps later : List Swap} {held : List Address} {s : Swap} {t start finish : Address}
  {i k : ℕ}

/-! ## Positions -/

/-- An entry stands at a position if it starts a suffix of the matching length. -/
theorem getElem?_eq_some_iff :
    swaps[k]? = some s ↔ ∃ later, s :: later <:+ swaps ∧ k + later.length + 1 = swaps.length := by
  constructor
  · intro h
    obtain ⟨hk, hs⟩ := List.getElem?_eq_some_iff.1 h
    refine ⟨swaps.drop (k + 1), ?_, by rw [List.length_drop]; omega⟩
    rw [← hs, ← List.drop_eq_getElem_cons hk]
    exact List.drop_suffix k swaps
  · rintro ⟨later, ⟨before, rfl⟩, hlen⟩
    rw [List.length_append, List.length_cons] at hlen
    have hk : k = before.length := by omega
    rw [hk, List.getElem?_append_right (Nat.le_refl _), Nat.sub_self, List.getElem?_cons_zero]

theorem mem_sources_cons : t ∈ sources (s :: swaps) ↔ s.tokenIn = t ∨ t ∈ sources swaps := by
  rw [mem_sources, mem_sources, List.exists_mem_cons_iff]

theorem isLastOut_iff : isLastOut s later = true ↔ s.tokenIn ∉ sources later := by
  rw [isLastOut, List.all_eq_true, mem_sources]
  simp

/-! ## Remainders -/

theorem mem_remaindersFrom {position : ℕ} :
    i ∈ remaindersFrom position swaps ↔ ∃ s later, s :: later <:+ swaps ∧
      isLastOut s later = true ∧ i + later.length + 1 = position + swaps.length := by
  induction swaps generalizing position with
  | nil =>
    refine iff_of_false List.not_mem_nil ?_
    rintro ⟨s, later, h, -⟩
    cases List.suffix_nil.1 h
  | cons x rest ih =>
    have hmem : i ∈ remaindersFrom position (x :: rest) ↔
        i = position ∧ isLastOut x rest = true ∨ i ∈ remaindersFrom (position + 1) rest := by
      rw [remaindersFrom]
      split
      next hlast => simp [hlast]
      next hlast => simp [hlast]
    rw [hmem, ih, List.length_cons]
    constructor
    · rintro (⟨rfl, hlast⟩ | ⟨s, later, hsuffix, hlast, hlen⟩)
      · exact ⟨x, rest, List.suffix_rfl, hlast, by omega⟩
      · exact ⟨s, later, hsuffix.trans (List.suffix_cons x rest), hlast, by omega⟩
    · rintro ⟨s, later, hsuffix, hlast, hlen⟩
      rcases List.suffix_cons_iff.1 hsuffix with heq | hsuffix
      · cases heq
        exact Or.inl ⟨by omega, hlast⟩
      · exact Or.inr ⟨s, later, hsuffix, hlast, by omega⟩

/-- **The remainders stand where no later swap takes the same token.** -/
theorem mem_remainders :
    i ∈ remainders swaps ↔ ∃ s later, s :: later <:+ swaps ∧ isLastOut s later = true ∧
      i + later.length + 1 = swaps.length := by
  rw [remainders, mem_remaindersFrom]
  simp only [Nat.zero_add]

/-- The swap at a position takes what the others leave of a token. -/
def IsRemainder (swaps : List Swap) (t : Address) (i : ℕ) : Prop :=
  i ∈ remainders swaps ∧ ∃ s, swaps[i]? = some s ∧ s.tokenIn = t

theorem isRemainder_iff :
    IsRemainder swaps t i ↔ ∃ s later, s :: later <:+ swaps ∧ s.tokenIn = t ∧ t ∉ sources later ∧
      i + later.length + 1 = swaps.length := by
  constructor
  · rintro ⟨hi, x, hx, rfl⟩
    obtain ⟨s, later, hsuffix, hlast, hlen⟩ := mem_remainders.1 hi
    have hs : swaps[i]? = some s := getElem?_eq_some_iff.2 ⟨later, hsuffix, hlen⟩
    obtain rfl : s = x := Option.some_inj.1 (hs.symm.trans hx)
    exact ⟨s, later, hsuffix, rfl, isLastOut_iff.1 hlast, hlen⟩
  · rintro ⟨s, later, hsuffix, rfl, hlast, hlen⟩
    exact ⟨mem_remainders.2 ⟨s, later, hsuffix, isLastOut_iff.2 hlast, hlen⟩,
      s, getElem?_eq_some_iff.2 ⟨later, hsuffix, hlen⟩, rfl⟩

/-- A token that is taken has a last swap that takes it. -/
theorem exists_last_of_mem_sources (h : t ∈ sources swaps) :
    ∃ s later, s :: later <:+ swaps ∧ s.tokenIn = t ∧ t ∉ sources later := by
  induction swaps with
  | nil =>
    obtain ⟨s, hs, -⟩ := mem_sources.1 h
    exact absurd hs List.not_mem_nil
  | cons x rest ih =>
    by_cases hrest : t ∈ sources rest
    · obtain ⟨s, later, hsuffix, hlast⟩ := ih hrest
      exact ⟨s, later, hsuffix.trans (List.suffix_cons x rest), hlast⟩
    · exact ⟨x, rest, List.suffix_rfl, (mem_sources_cons.1 h).resolve_right hrest, hrest⟩

theorem exists_isRemainder (h : t ∈ sources swaps) : ∃ i, IsRemainder swaps t i := by
  obtain ⟨s, later, hsuffix, hs, hlast⟩ := exists_last_of_mem_sources h
  have hle := hsuffix.length_le
  rw [List.length_cons] at hle
  exact ⟨swaps.length - (later.length + 1),
    isRemainder_iff.2 ⟨s, later, hsuffix, hs, hlast, by omega⟩⟩

/-! ## Outputs that are handed on -/

/-- Whether what each swap gives is the last token or is taken by a later swap. -/
def isHandedOn (finish : Address) : List Swap → Bool
  | [] => true
  | s :: later =>
    (s.tokenOut = finish || (sources later).contains s.tokenOut) && isHandedOn finish later

theorem isHandedOn_iff : isHandedOn finish swaps = true ↔
    ∀ s later, s :: later <:+ swaps → s.tokenOut = finish ∨ s.tokenOut ∈ sources later := by
  induction swaps with
  | nil =>
    refine iff_of_true rfl fun s later h => ?_
    cases List.suffix_nil.1 h
  | cons x rest ih =>
    rw [isHandedOn, Bool.and_eq_true, ih, Bool.or_eq_true, decide_eq_true_eq, List.contains_iff_mem]
    constructor
    · rintro ⟨hx, hrest⟩ s later hsuffix
      rcases List.suffix_cons_iff.1 hsuffix with heq | hsuffix
      · cases heq
        exact hx
      · exact hrest s later hsuffix
    · intro h
      refine ⟨h x rest List.suffix_rfl, fun s later hsuffix => ?_⟩
      exact h s later (hsuffix.trans (List.suffix_cons x rest))

/-- Where every output is handed on, no swap gives a token behind its remainder. -/
theorem lt_of_isRemainder (h : isHandedOn finish swaps = true) (hne : t ≠ finish)
    (hi : IsRemainder swaps t i) (hs : swaps[k]? = some s) (hst : s.tokenOut = t) : k < i := by
  obtain ⟨r, behind, hr, -, hlast, hlen⟩ := isRemainder_iff.1 hi
  obtain ⟨later, hsuffix, hlen'⟩ := getElem?_eq_some_iff.1 hs
  by_contra hge
  have hsub : later <:+ behind := by
    refine List.suffix_of_suffix_length_le ((List.suffix_cons s later).trans hsuffix)
      ((List.suffix_cons r behind).trans hr) ?_
    omega
  have htaken := (isHandedOn_iff.1 h s later hsuffix).resolve_left (hst ▸ hne)
  obtain ⟨x, hx, hxt⟩ := mem_sources.1 htaken
  exact hlast (mem_sources.2 ⟨x, hsub.subset hx, hxt.trans hst⟩)

/-- **No swap gives a token behind its remainder exactly if every output is handed on.** -/
theorem forall_isRemainder_iff :
    (∀ t ≠ finish, (∃ s ∈ swaps, s.tokenOut = t) →
        ∃ i, IsRemainder swaps t i ∧ ∀ k s, swaps[k]? = some s → s.tokenOut = t → k < i) ↔
      isHandedOn finish swaps = true := by
  constructor
  · intro h
    rw [isHandedOn_iff]
    intro s later hsuffix
    refine or_iff_not_imp_left.2 fun hne => ?_
    obtain ⟨i, hi, hbefore⟩ := h _ hne ⟨s, hsuffix.subset List.mem_cons_self, rfl⟩
    obtain ⟨r, behind, hr, hrt, -, hlen⟩ := isRemainder_iff.1 hi
    have hle := hsuffix.length_le
    rw [List.length_cons] at hle
    have hs : swaps[swaps.length - (later.length + 1)]? = some s :=
      getElem?_eq_some_iff.2 ⟨later, hsuffix, by omega⟩
    have hlt := hbefore _ s hs rfl
    -- the remainder stands behind the swap, so it is one of the later ones
    have hbehind : r :: behind <:+ later := by
      refine List.suffix_of_suffix_length_le hr ((List.suffix_cons s later).trans hsuffix) ?_
      rw [List.length_cons]
      omega
    exact mem_sources.2 ⟨r, hbehind.subset List.mem_cons_self, hrt⟩
  · rintro h t hne ⟨s, hs, rfl⟩
    obtain ⟨before, later, rfl⟩ := List.append_of_mem hs
    have htaken := (isHandedOn_iff.1 h s later (List.suffix_append before _)).resolve_left hne
    have hmem : s.tokenOut ∈ sources (before ++ s :: later) := by
      obtain ⟨x, hx, hxt⟩ := mem_sources.1 htaken
      exact mem_sources.2 ⟨x, List.mem_append_right _ (List.mem_cons_of_mem s hx), hxt⟩
    obtain ⟨i, hi⟩ := exists_isRemainder hmem
    exact ⟨i, hi, fun k x hx hxt => lt_of_isRemainder h hne hi hx hxt⟩

/-! ## Running the hops -/

/-- What the router holds after a hop: the token that it gives, and what was held before, without
the token of which it takes the rest. -/
def afterHop (held : List Address) (s : Swap) (later : List Swap) : List Address :=
  s.tokenOut :: if isLastOut s later then held.filter (· ≠ s.tokenIn) else held

/-- What the router holds after all hops. -/
def afterRun : List Address → List Swap → List Address
  | held, [] => held
  | held, s :: later => afterRun (afterHop held s later) later

/-- A hop leaves what it gives, and what was held and is not used up by it. -/
theorem mem_afterHop : t ∈ afterHop held s later ↔
    t = s.tokenOut ∨ t ∈ held ∧ (s.tokenIn ∉ sources later → t ≠ s.tokenIn) := by
  rw [afterHop, List.mem_cons]
  refine or_congr_right ?_
  split
  next hlast =>
    rw [List.mem_filter, decide_eq_true_eq]
    exact and_congr_right fun _ => ⟨fun hne _ => hne, fun hne => hne (isLastOut_iff.1 hlast)⟩
  next hlast =>
    rw [isLastOut_iff, not_not] at hlast
    exact (and_iff_left fun hnot => absurd hlast hnot).symm

/-- **After all hops the router holds what was held and never taken, and what a hop gave that no
later hop takes.** -/
theorem mem_afterRun : t ∈ afterRun held swaps ↔
    t ∈ held ∧ t ∉ sources swaps ∨
      ∃ s later, s :: later <:+ swaps ∧ s.tokenOut = t ∧ t ∉ sources later := by
  induction swaps generalizing held with
  | nil =>
    rw [afterRun]
    constructor
    · exact fun h => Or.inl ⟨h, List.not_mem_nil⟩
    · rintro (⟨h, -⟩ | ⟨s, later, hsuffix, -⟩)
      · exact h
      · cases List.suffix_nil.1 hsuffix
  | cons x rest ih =>
    rw [afterRun, ih, mem_afterHop, mem_sources_cons]
    constructor
    · rintro (⟨rfl | ⟨hheld, hused⟩, hrest⟩ | ⟨s, later, hsuffix, hs⟩)
      · exact Or.inr ⟨x, rest, List.suffix_rfl, rfl, hrest⟩
      · refine Or.inl ⟨hheld, fun h => ?_⟩
        rcases h with rfl | h
        · exact hused hrest rfl
        · exact hrest h
      · exact Or.inr ⟨s, later, hsuffix.trans (List.suffix_cons x rest), hs⟩
    · rintro (⟨hheld, hnot⟩ | ⟨s, later, hsuffix, hs, hlater⟩)
      · rw [not_or] at hnot
        exact Or.inl ⟨Or.inr ⟨hheld, fun _ => Ne.symm hnot.1⟩, hnot.2⟩
      · rcases List.suffix_cons_iff.1 hsuffix with heq | hsuffix
        · cases heq
          exact Or.inl ⟨Or.inl hs.symm, hlater⟩
        · exact Or.inr ⟨s, later, hsuffix, hs, hlater⟩

/-- **Every output is handed on exactly if nothing but the last token is left** of a run that
starts from a token that is taken. -/
theorem isHandedOn_iff_afterRun (hstart : start ∈ sources swaps) :
    isHandedOn finish swaps = true ↔ ∀ t ∈ afterRun [start] swaps, t = finish := by
  rw [isHandedOn_iff]
  constructor
  · intro h t ht
    rcases mem_afterRun.1 ht with ⟨hheld, hnot⟩ | ⟨s, later, hsuffix, rfl, hlater⟩
    · rw [List.mem_singleton.1 hheld] at hnot
      exact absurd hstart hnot
    · exact (h s later hsuffix).resolve_right hlater
  · intro h s later hsuffix
    refine or_iff_not_imp_right.2 fun hlater => ?_
    exact h _ (mem_afterRun.2 (Or.inr ⟨s, later, hsuffix, rfl, hlater⟩))

end Route

namespace Strategies

variable {t : Strategies} {order : Order}

/-- **When the remainder of a token comes after everything that gives it.**  In an order with a
fork that is encoded, every token that is given has a remainder, the token at the end apart.  The
remainders stand behind all swaps that give their token exactly if the output of every swap is
taken by a later one or is the last token, and exactly if the hops leave nothing but the last token
in the router. -/
theorem remainder_after_inflows_iff (h : t.Encodes .split order) :
    (∀ token ≠ order.lastToken t.config.chain, (∃ s ∈ order.swaps, s.tokenOut = token) →
        ∃ i, Route.IsRemainder order.swaps token i) ∧
      ((∀ token ≠ order.lastToken t.config.chain, (∃ s ∈ order.swaps, s.tokenOut = token) →
          ∃ i, Route.IsRemainder order.swaps token i ∧
            ∀ k s, order.swaps[k]? = some s → s.tokenOut = token → k < i) ↔
        Route.isHandedOn (order.lastToken t.config.chain) order.swaps = true) ∧
      (Route.isHandedOn (order.lastToken t.config.chain) order.swaps = true ↔
        ∀ token ∈ Route.afterRun [order.firstToken t.config.chain] order.swaps,
          token = order.lastToken t.config.chain) := by
  have hconnected := h.passes.accepted.connected
  refine ⟨?_, Route.forall_isRemainder_iff, Route.isHandedOn_iff_afterRun hconnected.start_mem⟩
  rintro token hne ⟨s, hs, rfl⟩
  exact Route.exists_isRemainder (hconnected.mem_of_reaches _ (hconnected.reaches_tokenOut hs) hne)

end Strategies

namespace Sample

/-- Two ways to the second token, one to the last, and what is left of the second token last. -/
def joined : Order :=
  sale [swap usdcWeth weth usdc half, swap usdcWeth' weth usdc quarter, swap daiWeth weth dai,
    swap daiUsdc usdc dai]

/-- The same swaps, with the remainder of the second token between the swaps that give it. -/
def joinedLate : Order :=
  sale [swap usdcWeth weth usdc half, swap daiUsdc usdc dai,
    swap usdcWeth' weth usdc quarter, swap daiWeth weth dai]

theorem isSample_joined : ∀ s ∈ joined.swaps, IsSample s := by decide +kernel

theorem passes_joined : strategies.Passes .split joined := passes_of_run (by decide +kernel)

theorem encodes_joined_joinedLate :
    strategies.Encodes .split joined ∧ strategies.Encodes .split joinedLate := by
  constructor
  · exact encodes isSample_joined (by decide) passes_joined
  · exact encodes (by decide +kernel) (by decide) (passes_of_run (by decide +kernel))

/-- Where the remainder stands behind the swaps that feed it, only the last token is left. -/
theorem afterRun_joined :
    strategies.Encodes .split joined ∧
      ∀ token ∈ Route.afterRun [weth] joined.swaps, token = dai := by
  have hhanded : Route.isHandedOn dai joined.swaps = true := by decide
  have hencodes := encodes_joined_joinedLate.1
  exact ⟨hencodes, (Strategies.remainder_after_inflows_iff hencodes).2.2.1 hhanded⟩

/-- An order that gives a token again behind its remainder is encoded, and some of that token is
left in the router. -/
theorem usdc_mem_afterRun_joinedLate :
    strategies.Encodes .split joinedLate ∧ usdc ≠ joinedLate.lastToken .ethereum ∧
      (∃ s ∈ joinedLate.swaps, s.tokenOut = usdc) ∧
      (¬ ∃ i, Route.IsRemainder joinedLate.swaps usdc i ∧
        ∀ k s, joinedLate.swaps[k]? = some s → s.tokenOut = usdc → k < i) ∧
      usdc ∈ Route.afterRun [weth] joinedLate.swaps := by
  refine ⟨encodes_joined_joinedLate.2, by decide, by decide, ?_, by decide⟩
  rintro ⟨i, ⟨hi, s, hs, hst⟩, hbefore⟩
  have hlt : 2 < i := hbefore 2 (swap usdcWeth' weth usdc quarter) rfl rfl
  have hle : i ≤ 3 := by
    obtain ⟨hlen, -⟩ := List.getElem?_eq_some_iff.1 hs
    exact Nat.le_of_lt_succ hlen
  obtain rfl : i = 3 := by omega
  cases hs
  exact absurd hst (by decide)

end Sample

end SwapRouter
