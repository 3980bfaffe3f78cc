import Mathlib.Data.Finset.Card
import Mathlib.Data.List.Dedup
import SwapRouter.Proofs.Route.Walk
import SwapRouter.Route.Path

/-!
# What the check of a path says

A search of the tokens, breadth first, goes on until its queue is empty.  `Searches` is this loop,
without a bound on its steps, and what it finds follows from its two rules alone.  That it ends is
another matter: a step takes one token out of the queue, and every token that it puts in is one that
had not been found before, of which there are at most as many as swaps.  So `Route.reachable`, which
stops after as many steps as there are swaps, and one more, stops at the end of the search.

* `searches_iff`: the search ends, with the tokens that the bounded one finds.
* `mem_reachable_iff`: the search finds exactly the tokens that are reached by a walk.
* `checkPathBetween_eq_ok_iff`: the check passes exactly for swaps that are `Connected`.
-/

namespace SwapRouter.Route

variable {swaps : List Swap} {found queue result : List Address} {a b t token : Address}

/-! ## Lists without repetitions -/

/-- What is left of a list without its repetitions has none. -/
theorem nodup_eraseDups {α : Type} [DecidableEq α] (l : List α) : l.eraseDups.Nodup := by
  induction hn : l.length using Nat.strong_induction_on generalizing l with
  | _ n ih =>
    cases l with
    | nil => exact List.nodup_nil
    | cons x l =>
      have hlen : (l.filter fun y => !y == x).length < n := by
        rw [← hn, List.length_cons]
        exact Nat.lt_succ_of_le (List.length_filter_le _ _)
      rw [List.eraseDups_cons]
      exact List.nodup_cons.2 ⟨by simp [List.mem_eraseDups], ih _ hlen _ rfl⟩

theorem mem_sources : t ∈ sources swaps ↔ ∃ s ∈ swaps, s.tokenIn = t := by
  rw [sources, List.mem_eraseDups, List.mem_map]

theorem mem_targets :
    t ∈ targets swaps token ↔ ∃ s ∈ swaps, s.tokenIn = token ∧ s.tokenOut = t := by
  rw [targets, List.mem_eraseDups, List.mem_map]
  constructor
  · rintro ⟨s, hs, ht⟩
    obtain ⟨hmem, htoken⟩ := mem_outgoingOf.1 hs
    exact ⟨s, hmem, htoken, ht⟩
  · rintro ⟨s, hmem, htoken, ht⟩
    exact ⟨s, mem_outgoingOf.2 ⟨hmem, htoken⟩, ht⟩

/-! ## The search -/

/-- What a token adds to the tokens found. -/
def fresh (swaps : List Swap) (found : List Address) (token : Address) : List Address :=
  (targets swaps token).filter fun t => !found.contains t

theorem mem_fresh : t ∈ fresh swaps found token ↔
    (∃ s ∈ swaps, s.tokenIn = token ∧ s.tokenOut = t) ∧ t ∉ found := by
  rw [fresh, List.mem_filter, mem_targets]
  simp

theorem nodup_fresh : (fresh swaps found token).Nodup :=
  (nodup_eraseDups _).filter _

/-- The search as a loop, from the tokens found and the queue to the tokens found at its end: as
long as a token is in the queue, what it adds is put behind the tokens found and into the queue. -/
inductive Searches (swaps : List Swap) : List Address → List Address → List Address → Prop
  | done (found : List Address) : Searches swaps found [] found
  | step {found queue result : List Address} (token : Address)
      (rest : Searches swaps (found ++ fresh swaps found token)
        (queue ++ fresh swaps found token) result) : Searches swaps found (token :: queue) result

/-- The search ends in one way, if at all. -/
theorem Searches.unique {result' : List Address} (h : Searches swaps found queue result)
    (h' : Searches swaps found queue result') : result = result' := by
  induction h with
  | done => cases h'; rfl
  | step token _ ih =>
    cases h' with
    | step _ rest' => exact ih rest'

/-- The search forgets no token. -/
theorem Searches.subset (h : Searches swaps found queue result) : found ⊆ result := by
  induction h with
  | done => exact List.Subset.refl _
  | step token _ ih => exact fun t ht => ih (List.mem_append_left _ ht)

/-- Every token that the search finds is reached, if those found before are. -/
theorem Searches.reaches (h : Searches swaps found queue result)
    (hfound : ∀ t ∈ found, Reaches swaps a t) (hqueue : queue ⊆ found) :
    ∀ t ∈ result, Reaches swaps a t := by
  induction h with
  | done => exact hfound
  | step token _ ih =>
    obtain ⟨htoken, hrest⟩ := List.cons_subset.1 hqueue
    refine ih (fun u hu => ?_) (fun u hu => ?_)
    · rcases List.mem_append.1 hu with hu | hu
      · exact hfound u hu
      · obtain ⟨⟨s, hs, rfl, rfl⟩, -⟩ := mem_fresh.1 hu
        exact (hfound _ htoken).trans (reaches_of_mem hs)
    · rcases List.mem_append.1 hu with hu | hu
      · exact List.mem_append_left _ (hrest hu)
      · exact List.mem_append_right _ hu

/-- The search ends with a set that no swap leaves.  The invariant is that only tokens in the
queue may still lead out of the tokens found. -/
theorem Searches.tokenOut_mem (h : Searches swaps found queue result)
    (hclosed : ∀ s ∈ swaps, s.tokenIn ∈ found → s.tokenIn ∉ queue → s.tokenOut ∈ found) :
    ∀ s ∈ swaps, s.tokenIn ∈ result → s.tokenOut ∈ result := by
  induction h with
  | done => exact fun s hs hin => hclosed s hs hin List.not_mem_nil
  | @step found queue _ token _ ih =>
    refine ih fun u hu hfound hqueue => ?_
    rw [List.mem_append, not_or] at hqueue
    have hold := (List.mem_append.1 hfound).resolve_right hqueue.2
    by_cases htoken : u.tokenIn = token
    · by_cases hout : u.tokenOut ∈ found
      · exact List.mem_append_left _ hout
      · exact List.mem_append_right _ (mem_fresh.2 ⟨⟨u, hu, htoken, rfl⟩, hout⟩)
    · refine List.mem_append_left _ (hclosed u hu hold fun hmem => ?_)
      exact (List.mem_cons.1 hmem).elim htoken hqueue.1

/-! ## How long it takes -/

/-- The tokens that the swaps give and that are not found yet. -/
def unfound (swaps : List Swap) (found : List Address) : Finset Address :=
  (swaps.map Swap.tokenOut).toFinset \ found.toFinset

theorem card_unfound_le (swaps : List Swap) (found : List Address) :
    (unfound swaps found).card ≤ swaps.length := by
  calc (unfound swaps found).card
      ≤ (swaps.map Swap.tokenOut).toFinset.card := Finset.card_le_card Finset.sdiff_subset
    _ ≤ (swaps.map Swap.tokenOut).length := List.toFinset_card_le _
    _ = swaps.length := List.length_map _

/-- **What a step puts into the queue it takes from the tokens that are not found yet.** -/
theorem length_fresh_add_card_unfound (swaps : List Swap) (found : List Address) (token : Address) :
    (fresh swaps found token).length + (unfound swaps (found ++ fresh swaps found token)).card =
      (unfound swaps found).card := by
  have hsub : (fresh swaps found token).toFinset ⊆ unfound swaps found := by
    intro t ht
    obtain ⟨⟨s, hs, -, hout⟩, hnew⟩ := mem_fresh.1 (List.mem_toFinset.1 ht)
    rw [unfound, Finset.mem_sdiff, List.mem_toFinset, List.mem_toFinset]
    exact ⟨List.mem_map.2 ⟨s, hs, hout⟩, hnew⟩
  have hrest : unfound swaps (found ++ fresh swaps found token) =
      unfound swaps found \ (fresh swaps found token).toFinset := by
    rw [unfound, unfound, List.toFinset_append, Finset.sdiff_sdiff_left']
    ext t
    simp only [Finset.mem_sdiff, Finset.mem_union, Finset.mem_inter]
    tauto
  rw [hrest, Finset.card_sdiff_of_subset hsub, List.toFinset_card_of_nodup nodup_fresh]
  have hle := Finset.card_le_card hsub
  rw [List.toFinset_card_of_nodup nodup_fresh] at hle
  omega

/-- **As many steps as there are tokens in the queue and tokens not found yet** are enough. -/
theorem searches_explore (steps : ℕ) (hsteps : queue.length + (unfound swaps found).card ≤ steps) :
    Searches swaps found queue (explore swaps steps found queue) := by
  induction steps generalizing found queue with
  | zero =>
    have hqueue : queue = [] := List.length_eq_zero_iff.1 (by omega)
    subst hqueue
    exact .done found
  | succ steps ih =>
    cases queue with
    | nil => exact .done found
    | cons token queue =>
      refine .step token (ih ?_)
      have hcount := length_fresh_add_card_unfound swaps found token
      rw [List.length_cons] at hsteps
      rw [List.length_append]
      omega

/-- **The search ends**, with the tokens that can be reached. -/
theorem searches_iff : Searches swaps [a] [a] result ↔ result = reachable swaps a := by
  have hends : Searches swaps [a] [a] (reachable swaps a) := by
    refine searches_explore _ ?_
    have hle := card_unfound_le swaps [a]
    rw [List.length_singleton]
    omega
  exact ⟨fun h => h.unique hends, fun h => h ▸ hends⟩

/-- **The search finds exactly the tokens that are reached by a walk.** -/
theorem mem_reachable_iff : b ∈ reachable swaps a ↔ Reaches swaps a b := by
  have hsearch : Searches swaps [a] [a] (reachable swaps a) := searches_iff.2 rfl
  constructor
  · refine hsearch.reaches (fun t ht => ?_) (List.Subset.refl _) b
    rw [List.mem_singleton.1 ht]
    exact Reaches.refl swaps a
  · refine fun h => h.of_closed (hsearch.subset (List.mem_singleton_self a)) ?_
    exact hsearch.tokenOut_mem fun u _ hfound hqueue => absurd hfound hqueue

/-! ## The check -/

/-- The swaps connect one token with another: they take the first token, every token that they
take is reached from it, so is the last token, and no other token that is reached is left over. -/
structure Connected (swaps : List Swap) (a b : Address) : Prop where
  start_mem : a ∈ sources swaps
  reaches_source : ∀ t ∈ sources swaps, Reaches swaps a t
  reaches_finish : Reaches swaps a b
  mem_of_reaches : ∀ t, Reaches swaps a t → t ≠ b → t ∈ sources swaps

/-- What a swap gives is reached from the first token. -/
theorem Connected.reaches_tokenOut (h : Connected swaps a b) {s : Swap} (hs : s ∈ swaps) :
    Reaches swaps a s.tokenOut :=
  (h.reaches_source _ (mem_sources.2 ⟨s, hs, rfl⟩)).trans (reaches_of_mem hs)

/-- A token that is given and not taken is the last one. -/
theorem Connected.tokenOut_eq (h : Connected swaps a b) {s : Swap} (hs : s ∈ swaps)
    (hout : s.tokenOut ∉ sources swaps) : s.tokenOut = b := by
  by_contra hne
  exact hout (h.mem_of_reaches _ (h.reaches_tokenOut hs) hne)

/-- **The check of a path passes exactly for swaps that connect the two tokens.** -/
theorem checkPathBetween_eq_ok_iff :
    checkPathBetween swaps a b = .ok () ↔ Connected swaps a b := by
  have hmem : ∀ t, t ∈ reachable swaps a ↔ Reaches swaps a t := fun t => mem_reachable_iff
  unfold checkPathBetween
  constructor
  · intro h
    split at h
    · cases h
    next hstart =>
      dsimp only at h
      split at h
      · cases h
      next hsource =>
        split at h
        · cases h
        next hfinish =>
          split at h
          · cases h
          next hend =>
            simp only [List.find?_eq_none] at hsource hend
            refine ⟨by simpa using hstart, fun t ht => ?_, ?_, fun t ht hne => ?_⟩
            · exact (hmem t).1 (by simpa using hsource t ht)
            · exact (hmem b).1 (by simpa using hfinish)
            · simpa [hne] using hend t ((hmem t).2 ht)
  · rintro ⟨hstart, hsource, hfinish, hend⟩
    have hs : (sources swaps).find? (fun t => !(reachable swaps a).contains t) = none := by
      refine List.find?_eq_none.2 fun t ht => ?_
      simpa using (hmem t).2 (hsource t ht)
    have he : (reachable swaps a).find?
        (fun t => t ≠ b && !(sources swaps).contains t) = none := by
      refine List.find?_eq_none.2 fun t ht => ?_
      by_cases hne : t = b
      · simp [hne]
      · simpa [hne] using hend t ((hmem t).1 ht) hne
    dsimp only
    rw [if_neg (by simpa using hstart), hs]
    dsimp only
    rw [if_neg (by simpa using (hmem b).2 hfinish), he]

end SwapRouter.Route
