import Mathlib.Data.List.Nodup
import SwapRouter.Proofs.Outcome
import SwapRouter.Proofs.Route.Search
import SwapRouter.Route.Split

/-!
# What the check for repeated tokens says

The check for repeats lists the tokens that the swaps take, skips a token once it was taken with
a fraction, and adds the token that the last swap gives.  Where the fractions are in order, every
swap out of a token but the last one carries a fraction, so that the list holds every token that
is taken exactly once, whatever the swaps are.  The only repetition that is left to find is the
token at the end.

* `fractionsFirst_of_checkSplits`: the check of the fractions brings them in order.
* `nodup_wayFrom` and `mem_wayFrom`: the list then has no repetition, and it holds the tokens that
  are taken.
* `checkCycles_eq_ok_iff`: **the check looks at the last swap alone**.  It passes exactly if no
  swap takes what the last one gives, or if the first one does and the native coin is left alone.
-/

namespace SwapRouter.Route

variable {swaps : List Swap} {s : Swap} {t : Address}

/-! ## Fractions -/

/-- Every swap out of a token but the last one carries a fraction. -/
def FractionsFirst (swaps : List Swap) : Prop :=
  swaps.Pairwise fun s later => s.tokenIn = later.tokenIn → s.split.isZero = false

theorem outgoingOf_cons (s : Swap) (swaps : List Swap) (t : Address) :
    outgoingOf (s :: swaps) t =
      if s.tokenIn = t then s :: outgoingOf swaps t else outgoingOf swaps t := by
  simp only [outgoingOf, List.filter_cons, decide_eq_true_eq]

/-- A swap before the last one out of its token stays there when a swap is put in front. -/
theorem mem_dropLast_outgoingOf_cons {x : Swap} (hx : x ∈ (outgoingOf swaps t).dropLast) :
    x ∈ (outgoingOf (s :: swaps) t).dropLast := by
  rw [outgoingOf_cons]
  split
  · have hne : outgoingOf swaps t ≠ [] := List.ne_nil_of_mem (List.mem_of_mem_dropLast hx)
    rw [List.dropLast_cons_of_ne_nil hne]
    exact List.mem_cons_of_mem s hx
  · exact hx

/-- The fractions are in order if, out of every token, all swaps but the last one carry one. -/
theorem fractionsFirst_of_dropLast
    (h : ∀ t, ∀ s ∈ (outgoingOf swaps t).dropLast, s.split.isZero = false) :
    FractionsFirst swaps := by
  induction swaps with
  | nil => exact List.Pairwise.nil
  | cons s swaps ih =>
    refine List.pairwise_cons.2 ⟨fun later hlater hsame => ?_, ih fun t x hx => ?_⟩
    · refine h s.tokenIn s ?_
      have hne : outgoingOf swaps s.tokenIn ≠ [] :=
        List.ne_nil_of_mem (mem_outgoingOf.2 ⟨hlater, hsame.symm⟩)
      rw [outgoingOf_cons, if_pos rfl, List.dropLast_cons_of_ne_nil hne]
      exact List.mem_cons_self
    · exact h t x (mem_dropLast_outgoingOf_cons hx)

/-- The sum of the fractions is only looked at if all but the last one are proper. -/
theorem isZero_eq_false_of_checkSum {inner : List Swap} {last : Swap}
    (h : checkSum t inner last = .ok ()) (hs : s ∈ inner) : s.split.isZero = false := by
  unfold checkSum at h
  split at h
  · cases h
  next hnone =>
    have hproper : isInnerFraction s.split = true := by
      simpa using List.find?_eq_none.1 hnone s hs
    rw [isInnerFraction, Bool.and_eq_true, Bool.not_eq_true'] at hproper
    exact hproper.1

/-- The check of the fractions looks at the swaps out of every token that is taken. -/
theorem checkSplitsOf_of_checkSplits (h : checkSplits swaps = .ok ()) (hs : s ∈ swaps) :
    checkSplitsOf s.tokenIn (outgoingOf swaps s.tokenIn) = .ok () :=
  forM_eq_ok_iff.1 h (s.tokenIn, outgoingOf swaps s.tokenIn)
    (List.mem_map_of_mem (mem_sources.2 ⟨s, hs, rfl⟩))

/-- **The check of the fractions brings them in order.** -/
theorem fractionsFirst_of_checkSplits (h : checkSplits swaps = .ok ()) : FractionsFirst swaps := by
  refine fractionsFirst_of_dropLast fun t s hs => ?_
  obtain ⟨hmem, rfl⟩ := mem_outgoingOf.1 (List.mem_of_mem_dropLast hs)
  obtain ⟨⟨⟩, -, hsum⟩ := bind_eq_ok_iff.1 (checkSplitsOf_of_checkSplits h hmem)
  rcases houts : outgoingOf swaps s.tokenIn with _ | ⟨first, _ | ⟨second, rest⟩⟩
  · rw [houts] at hs
    exact absurd hs List.not_mem_nil
  · rw [houts] at hs
    exact absurd hs List.not_mem_nil
  · rw [houts] at hs hsum
    exact isZero_eq_false_of_checkSum hsum hs

/-- Where no token is taken twice, the fractions are in order. -/
theorem fractionsFirst_of_nodup (h : (swaps.map Swap.tokenIn).Nodup) : FractionsFirst swaps :=
  (List.pairwise_map.1 h).imp fun hne hsame => absurd hsame hne

/-- Without a fork no swap carries a fraction. -/
theorem isZero_of_hasFork_eq_false (h : hasFork swaps = false) (hs : s ∈ swaps) :
    s.split.isZero = true := by
  rw [hasFork, Bool.or_eq_false_iff] at h
  simpa using List.any_eq_false.1 h.1 s hs

/-- Without a fork no token is taken twice. -/
theorem nodup_map_tokenIn_of_hasFork_eq_false (h : hasFork swaps = false) :
    (swaps.map Swap.tokenIn).Nodup := by
  rw [hasFork, Bool.or_eq_false_iff] at h
  refine List.nodup_iff_count_le_one.2 fun t => ?_
  by_cases ht : t ∈ sources swaps
  · have hfork : isFork swaps t = false := by simpa using List.any_eq_false.1 h.2 t ht
    rw [isFork, decide_eq_false_iff_not, outgoingOf, not_lt] at hfork
    rw [List.count_eq_countP, List.countP_map, List.countP_eq_length_filter]
    exact le_of_eq_of_le (congrArg List.length (List.filter_congr fun s _ => rfl)) hfork
  · refine le_of_eq_of_le (List.count_eq_zero_of_not_mem fun hmem => ht ?_) (Nat.zero_le 1)
    obtain ⟨s, hs, hst⟩ := List.mem_map.1 hmem
    exact mem_sources.2 ⟨s, hs, hst⟩

/-- An order forks unless no swap carries a fraction and no token is taken twice. -/
theorem hasFork_eq_false_iff :
    hasFork swaps = false ↔
      (∀ s ∈ swaps, s.split.isZero = true) ∧ (swaps.map Swap.tokenIn).Nodup := by
  refine ⟨fun h => ⟨fun s => isZero_of_hasFork_eq_false h,
    nodup_map_tokenIn_of_hasFork_eq_false h⟩, fun ⟨hzero, hnodup⟩ => ?_⟩
  rw [hasFork, Bool.or_eq_false_iff]
  refine ⟨List.any_eq_false.2 fun s hs => ?_, List.any_eq_false.2 fun t _ => ?_⟩
  · rw [hzero s hs]
    exact Bool.false_ne_true
  · rw [isFork, decide_eq_true_eq, not_lt, outgoingOf, ← List.countP_eq_length_filter]
    have hcount := List.nodup_iff_count_le_one.1 hnodup t
    rw [List.count_eq_countP, List.countP_map] at hcount
    exact (List.countP_congr fun s _ => by simp).le.trans hcount

/-! ## The tokens on the way -/

/-- The way holds the tokens that are taken, without those to be skipped. -/
theorem mem_wayFrom {skipped : List Address} :
    t ∈ wayFrom skipped swaps ↔ (∃ s ∈ swaps, s.tokenIn = t) ∧ t ∉ skipped := by
  induction swaps generalizing skipped with
  | nil => simp [wayFrom]
  | cons s swaps ih =>
    rw [wayFrom, List.exists_mem_cons_iff]
    split
    next hskipped =>
      have hmem : s.tokenIn ∈ skipped := by simpa using hskipped
      rw [ih]
      constructor
      · exact fun ⟨h, hnot⟩ => ⟨Or.inr h, hnot⟩
      · rintro ⟨rfl | h, hnot⟩
        · exact absurd hmem hnot
        · exact ⟨h, hnot⟩
    next hskipped =>
      have hmem : s.tokenIn ∉ skipped := by simpa using hskipped
      rw [List.mem_cons, ih]
      by_cases hst : s.tokenIn = t
      · subst hst
        simp [hmem]
      · have hback : t ∉ (if s.split.isZero then skipped else s.tokenIn :: skipped) ↔
            t ∉ skipped := by
          split
          · exact Iff.rfl
          · rw [List.mem_cons, not_or]
            exact and_iff_right (Ne.symm hst)
        rw [hback]
        simp [hst, Ne.symm hst]

/-- **Where the fractions are in order, no token comes twice on the way.** -/
theorem nodup_wayFrom {skipped : List Address} (h : FractionsFirst swaps) :
    (wayFrom skipped swaps).Nodup := by
  induction swaps generalizing skipped with
  | nil => exact List.nodup_nil
  | cons s swaps ih =>
    obtain ⟨hs, hrest⟩ := List.pairwise_cons.1 h
    rw [wayFrom]
    split
    · exact ih hrest
    · refine List.nodup_cons.2 ⟨fun hmem => ?_, ih hrest⟩
      obtain ⟨⟨later, hlater, hsame⟩, hskipped⟩ := mem_wayFrom.1 hmem
      -- a later swap out of the same token makes this one carry a fraction, and then it is skipped
      have hfraction := hs later hlater hsame.symm
      rw [hfraction] at hskipped
      exact hskipped List.mem_cons_self

theorem isFreeOfRepeats_iff {l : List Address} : isFreeOfRepeats l = true ↔ l.Nodup := by
  induction l with
  | nil => simp [isFreeOfRepeats]
  | cons t l ih =>
    rw [isFreeOfRepeats, Bool.and_eq_true, ih, List.nodup_cons]
    simp

/-- The way and the token at its end are free of repetitions exactly if no swap takes that
token. -/
theorem isFreeOfRepeats_way_iff (h : FractionsFirst swaps) :
    isFreeOfRepeats (wayFrom [] swaps ++ [t]) = true ↔ t ∉ sources swaps := by
  rw [isFreeOfRepeats_iff, List.nodup_append, mem_sources]
  constructor
  · rintro ⟨-, -, hdisjoint⟩ hmem
    exact hdisjoint t (mem_wayFrom.2 ⟨hmem, List.not_mem_nil⟩) t (List.mem_singleton_self t) rfl
  · refine fun hmem => ⟨nodup_wayFrom h, List.nodup_singleton t, fun x hx y hy hxy => hmem ?_⟩
    rw [List.mem_singleton] at hy
    rw [← hy, ← hxy]
    exact (mem_wayFrom.1 hx).1

/-! ## The check -/

/-- How the swaps of an order end: no swap takes what the last one gives, or the first one does
and the native coin is left alone. -/
def EndsProperly (action : Option NativeAction) (swaps : List Swap) : Prop :=
  ∃ first last, swaps.head? = some first ∧ swaps.getLast? = some last ∧
    (last.tokenOut ∉ sources swaps ∨ first.tokenIn = last.tokenOut ∧ action = none)

theorem endsProperly_iff {action : Option NativeAction} {first last : Swap}
    (hfirst : swaps.head? = some first) (hlast : swaps.getLast? = some last) :
    EndsProperly action swaps ↔
      last.tokenOut ∉ sources swaps ∨ first.tokenIn = last.tokenOut ∧ action = none := by
  constructor
  · rintro ⟨first', last', hfirst', hlast', h⟩
    cases hfirst.symm.trans hfirst'
    cases hlast.symm.trans hlast'
    exact h
  · exact fun h => ⟨first, last, hfirst, hlast, h⟩

/-- **The check for repeats looks at the last swap alone.** -/
theorem checkCycles_eq_ok_iff {order : Order} (h : FractionsFirst order.swaps) :
    checkCycles order = .ok () ↔ EndsProperly order.nativeAction order.swaps := by
  unfold checkCycles
  cases hswaps : order.swaps with
  | nil =>
    refine iff_of_false (fun h => by cases h) ?_
    rintro ⟨first, -, hfirst, -⟩
    cases hfirst
  | cons first rest =>
    rw [← hswaps]
    have hfirst : order.swaps.head? = some first := by rw [hswaps]; rfl
    obtain ⟨last, hlast⟩ := Option.ne_none_iff_exists'.1
      (mt List.getLast?_eq_none_iff.1 (hswaps ▸ List.cons_ne_nil first rest))
    rw [endsProperly_iff hfirst hlast, hfirst, hlast]
    have hway := isFreeOfRepeats_way_iff (t := last.tokenOut) h
    dsimp only
    split
    next hfree => exact iff_of_true rfl (Or.inl (hway.1 hfree))
    next hrepeat =>
      have hmem : ¬ last.tokenOut ∉ sources order.swaps := fun hnot => hrepeat (hway.2 hnot)
      rw [or_iff_right hmem]
      split
      next hne => simp [hne]
      next heq =>
        rw [not_not] at heq
        cases order.nativeAction <;> simp [heq]

end SwapRouter.Route
