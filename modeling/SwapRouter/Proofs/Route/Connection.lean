import SwapRouter.Proofs.Route.Search

/-!
# What the check of a path decides

The check of a path asks four things of the swaps (`Connected`), and all of them speak of the tokens
from which and to which the swaps lead.  Whatever else a swap says plays no part, and neither does its
place in the list, nor how often it is listed.  The reason that is told for a refusal may depend on
these; that it is one of the data of the order does not.

* `Connected.of_edges`: connected swaps stay so if the tokens from which and to which they lead stay.
* `kind_of_checkPathBetween`: every refusal is one of the data of the order.
* `decidesConnection`: **the check comes to an end, and it lets exactly those swaps pass that connect
  the two tokens.**
-/

namespace SwapRouter.Route

variable {swaps swaps' : List Swap} {a b t u : Address}

/-! ## Edges -/

/-- The pairs of tokens from which and to which the swaps lead. -/
def edges (swaps : List Swap) : List (Address × Address) :=
  swaps.map fun s => (s.tokenIn, s.tokenOut)

theorem mem_edges : (t, u) ∈ edges swaps ↔ ∃ s ∈ swaps, s.tokenIn = t ∧ s.tokenOut = u := by
  rw [edges, List.mem_map]
  simp only [Prod.mk.injEq]

theorem mem_sources_iff_edges : t ∈ sources swaps ↔ ∃ u, (t, u) ∈ edges swaps := by
  simp only [mem_sources, mem_edges]
  constructor
  · rintro ⟨s, hs, ht⟩
    exact ⟨s.tokenOut, s, hs, ht, rfl⟩
  · rintro ⟨_, s, hs, ht, -⟩
    exact ⟨s, hs, ht⟩

theorem sources_subset_of_edges (h : edges swaps ⊆ edges swaps') :
    sources swaps ⊆ sources swaps' := by
  intro t ht
  obtain ⟨u, hu⟩ := mem_sources_iff_edges.1 ht
  exact mem_sources_iff_edges.2 ⟨u, h hu⟩

/-- What some swaps reach is reached by all swaps that lead as they do. -/
theorem Reaches.of_edges (h : Reaches swaps a b) (hsub : edges swaps ⊆ edges swaps') :
    Reaches swaps' a b := by
  refine h.of_closed (Reaches.refl swaps' a) fun s hs hin => ?_
  obtain ⟨s', hs', hin', hout'⟩ := mem_edges.1 (hsub (mem_edges.2 ⟨s, hs, rfl, rfl⟩))
  have hstep := reaches_of_mem hs'
  rw [hin', hout'] at hstep
  exact hin.trans hstep

/-- **Connected swaps stay so if the tokens from which and to which they lead stay.** -/
theorem Connected.of_edges (h : Connected swaps a b) (hsub : edges swaps ⊆ edges swaps')
    (hback : edges swaps' ⊆ edges swaps) : Connected swaps' a b where
  start_mem := sources_subset_of_edges hsub h.start_mem
  reaches_source t ht := (h.reaches_source t (sources_subset_of_edges hback ht)).of_edges hsub
  reaches_finish := h.reaches_finish.of_edges hsub
  mem_of_reaches t ht hne :=
    sources_subset_of_edges hsub (h.mem_of_reaches t (ht.of_edges hback) hne)

theorem connected_iff_of_edges (hsub : edges swaps ⊆ edges swaps')
    (hback : edges swaps' ⊆ edges swaps) : Connected swaps' a b ↔ Connected swaps a b :=
  ⟨fun h => h.of_edges hback hsub, fun h => h.of_edges hsub hback⟩

/-! ## The check -/

/-- **Every refusal is one of the data of the order.** -/
theorem kind_of_checkPathBetween {e : EncodingError} (h : checkPathBetween swaps a b = .error e) :
    e.kind = .invalidInput := by
  unfold checkPathBetween at h
  dsimp only at h
  split at h
  · cases h; rfl
  · split at h
    · cases h; rfl
    · split at h
      · cases h; rfl
      · split at h
        · cases h; rfl
        · cases h

/-- What the check of a path comes to, for any swaps. -/
structure DecidesConnection (chain : Chain) (action : Option NativeAction) (swaps : List Swap)
    (given checked : Address) : Prop where
  /-- The search for the tokens that can be reached ends, and the check goes by the tokens that it
  finds. -/
  ends : ∀ found, Searches swaps [startOf chain action given] [startOf chain action given] found ↔
    found = reachable swaps (startOf chain action given)
  /-- What passes are the swaps that connect the two ends of the path. -/
  accepts : checkPath chain action swaps given checked = .ok () ↔
    Connected swaps (startOf chain action given) (finishOf chain action checked)
  /-- All others are refused for the data of the order. -/
  refuses : ¬ Connected swaps (startOf chain action given) (finishOf chain action checked) →
    ∃ e, checkPath chain action swaps given checked = .error e ∧ e.kind = .invalidInput
  /-- Swaps in another order, or listed more or less often, pass just as well, and so do all swaps
  that lead from and to the same tokens. -/
  sameEdges : ∀ swaps', edges swaps ⊆ edges swaps' → edges swaps' ⊆ edges swaps →
    (checkPath chain action swaps' given checked = .ok () ↔
      checkPath chain action swaps given checked = .ok ())

/-- **The check of a path comes to an end, and it lets exactly those swaps pass that connect the two
ends of the path.** -/
theorem decidesConnection (chain : Chain) (action : Option NativeAction) (swaps : List Swap)
    (given checked : Address) : DecidesConnection chain action swaps given checked where
  ends _ := searches_iff
  accepts := checkPathBetween_eq_ok_iff
  refuses hnot := by
    cases h : checkPath chain action swaps given checked with
    | ok => exact absurd (checkPathBetween_eq_ok_iff.1 h) hnot
    | error e => exact ⟨e, rfl, kind_of_checkPathBetween h⟩
  sameEdges swaps' hsub hback := by
    rw [checkPath, checkPath, checkPathBetween_eq_ok_iff, checkPathBetween_eq_ok_iff]
    exact connected_iff_of_edges hsub hback

end SwapRouter.Route
