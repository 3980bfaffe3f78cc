import Mathlib.Data.List.Nodup
import Mathlib.Data.List.Perm.Subperm
import SwapRouter.Route.Outgoing

/-!
# Walks along swaps

The checks of an order look at the graph of its swaps, while the router runs the swaps one after
the other.  A *walk* ties the two together: a list of swaps each of which takes what the one
before it gives.

* `cons_map_tokenOut_of_isWalk`: a walk takes and gives the same tokens, shifted by one place.
* `Reaches`: a token is reached from another one by a walk; `Reaches.of_closed` carries a property
  of tokens along.
* `exists_isCycle_of_not_nodup`: a walk that takes a token twice goes round a cycle.
* `exists_isCycle_of_forall_reaches`: swaps that leave no token behind have a cycle.
-/

namespace SwapRouter.Route

variable {swaps w w' : List Swap} {s : Swap} {a b c : Address}

/-! ## Walks -/

/-- The swaps lead from one token to another in the order of the list: the first swap takes the
first token, every swap takes what the one before it gives, and the last swap gives the last
token. -/
def IsWalk : Address → List Swap → Address → Prop
  | a, [], b => a = b
  | a, s :: w, b => s.tokenIn = a ∧ IsWalk s.tokenOut w b

/-- Whether swaps are a walk can be looked up. -/
instance decidableIsWalk : ∀ (a : Address) (w : List Swap) (b : Address), Decidable (IsWalk a w b)
  | a, [], b => inferInstanceAs (Decidable (a = b))
  | a, s :: w, b =>
    have := decidableIsWalk s.tokenOut w b
    inferInstanceAs (Decidable (s.tokenIn = a ∧ IsWalk s.tokenOut w b))

@[simp] theorem isWalk_nil : IsWalk a [] b ↔ a = b := Iff.rfl

@[simp] theorem isWalk_cons :
    IsWalk a (s :: w) b ↔ s.tokenIn = a ∧ IsWalk s.tokenOut w b := Iff.rfl

theorem isWalk_append : IsWalk a (w ++ w') c ↔ ∃ b, IsWalk a w b ∧ IsWalk b w' c := by
  induction w generalizing a with
  | nil => simp
  | cons s w ih =>
    rw [List.cons_append, isWalk_cons, ih]
    constructor
    · rintro ⟨hs, b, hw, hw'⟩
      exact ⟨b, ⟨hs, hw⟩, hw'⟩
    · rintro ⟨b, ⟨hs, hw⟩, hw'⟩
      exact ⟨hs, b, hw, hw'⟩

/-- **A walk takes and gives the same tokens, shifted by one place.** -/
theorem cons_map_tokenOut_of_isWalk (h : IsWalk a w b) :
    a :: w.map Swap.tokenOut = w.map Swap.tokenIn ++ [b] := by
  induction w generalizing a with
  | nil => rw [isWalk_nil.1 h]; rfl
  | cons s w ih =>
    obtain ⟨hs, hw⟩ := isWalk_cons.1 h
    rw [List.map_cons, List.map_cons, List.cons_append, ih hw, hs]

/-- What a swap of a walk gives is taken by the walk, or is the end of it. -/
theorem tokenOut_mem_of_isWalk (h : IsWalk a w b) (hs : s ∈ w) :
    s.tokenOut ∈ w.map Swap.tokenIn ∨ s.tokenOut = b := by
  have hmem : s.tokenOut ∈ a :: w.map Swap.tokenOut :=
    List.mem_cons_of_mem _ (List.mem_map_of_mem hs)
  rw [cons_map_tokenOut_of_isWalk h, List.mem_append, List.mem_singleton] at hmem
  exact hmem

/-- A walk that is not empty takes the token from which it starts. -/
theorem start_mem_of_isWalk (h : IsWalk a w b) (hne : w ≠ []) : a ∈ w.map Swap.tokenIn := by
  cases w with
  | nil => exact absurd rfl hne
  | cons s w => exact List.mem_map.2 ⟨s, List.mem_cons_self, (isWalk_cons.1 h).1⟩

/-- A walk that is not empty gives the token at which it ends, by its last swap. -/
theorem getLast?_of_isWalk (h : IsWalk a w b) (hne : w ≠ []) :
    ∃ last, w.getLast? = some last ∧ last.tokenOut = b := by
  obtain ⟨w, last, rfl⟩ := (List.eq_nil_or_concat' w).resolve_left hne
  obtain ⟨c, -, hlast⟩ := isWalk_append.1 h
  exact ⟨last, List.getLast?_concat, (isWalk_cons.1 hlast).2⟩

/-- A walk that takes no token twice and does not take the token at which it ends gives no token
twice. -/
theorem nodup_map_tokenOut_of_isWalk (h : IsWalk a w b) (hnodup : (w.map Swap.tokenIn).Nodup)
    (hb : b ∉ w.map Swap.tokenIn) : (w.map Swap.tokenOut).Nodup := by
  have hall : (a :: w.map Swap.tokenOut).Nodup := by
    rw [cons_map_tokenOut_of_isWalk h, List.nodup_append]
    refine ⟨hnodup, List.nodup_singleton b, fun x hx y hy hxy => ?_⟩
    rw [List.mem_singleton] at hy
    rw [hxy, hy] at hx
    exact hb hx
  exact hall.of_cons

/-- A closed walk that takes no token twice gives no token twice. -/
theorem nodup_map_tokenOut_of_isWalk_self (h : IsWalk a w a)
    (hnodup : (w.map Swap.tokenIn).Nodup) : (w.map Swap.tokenOut).Nodup := by
  have hperm : (a :: w.map Swap.tokenOut).Perm (a :: w.map Swap.tokenIn) := by
    rw [cons_map_tokenOut_of_isWalk h]
    exact List.perm_append_singleton a _
  exact hperm.cons_inv.nodup_iff.2 hnodup

/-! ## Reaching a token -/

/-- A token is reached from another one: a walk of the swaps leads there. -/
def Reaches (swaps : List Swap) (a b : Address) : Prop := ∃ w, w ⊆ swaps ∧ IsWalk a w b

theorem Reaches.refl (swaps : List Swap) (a : Address) : Reaches swaps a a :=
  ⟨[], List.nil_subset _, rfl⟩

theorem Reaches.mono (h : Reaches w a b) (hw : w ⊆ swaps) : Reaches swaps a b := by
  obtain ⟨w', hw', hwalk⟩ := h
  exact ⟨w', List.Subset.trans hw' hw, hwalk⟩

theorem Reaches.trans (hab : Reaches swaps a b) (hbc : Reaches swaps b c) :
    Reaches swaps a c := by
  obtain ⟨w, hw, hab⟩ := hab
  obtain ⟨w', hw', hbc⟩ := hbc
  exact ⟨w ++ w', List.append_subset.2 ⟨hw, hw'⟩, isWalk_append.2 ⟨b, hab, hbc⟩⟩

theorem reaches_of_mem (hs : s ∈ swaps) : Reaches swaps s.tokenIn s.tokenOut :=
  ⟨[s], List.cons_subset.2 ⟨hs, List.nil_subset _⟩, rfl, rfl⟩

/-- A property of tokens that every swap carries from what it takes to what it gives holds of all
tokens that are reached. -/
theorem Reaches.of_closed {P : Address → Prop} (h : Reaches swaps a b) (ha : P a)
    (hP : ∀ s ∈ swaps, P s.tokenIn → P s.tokenOut) : P b := by
  obtain ⟨w, hw, h⟩ := h
  induction w generalizing a with
  | nil => exact isWalk_nil.1 h ▸ ha
  | cons s w ih =>
    obtain ⟨hs, hrest⟩ := isWalk_cons.1 h
    obtain ⟨hmem, hsub⟩ := List.cons_subset.1 hw
    exact ih (hP s hmem (hs ▸ ha)) hsub hrest

/-! ## Cycles -/

/-- A cycle of the swaps: a walk that comes back to the token from which it starts. -/
structure IsCycle (swaps c : List Swap) : Prop where
  ne_nil : c ≠ []
  subset : c ⊆ swaps
  returns : ∃ a, IsWalk a c a

theorem IsCycle.mono {c : List Swap} (h : IsCycle w c) (hw : w ⊆ swaps) : IsCycle swaps c :=
  ⟨h.ne_nil, List.Subset.trans h.subset hw, h.returns⟩

/-- A swap from whose output its input is reached again lies on a cycle. -/
theorem exists_isCycle_of_reaches (hs : s ∈ swaps) (h : Reaches swaps s.tokenOut s.tokenIn) :
    ∃ c, IsCycle swaps (s :: c) := by
  obtain ⟨c, hc, hwalk⟩ := h
  exact ⟨c, List.cons_ne_nil _ _, List.cons_subset.2 ⟨hs, hc⟩, s.tokenIn, rfl, hwalk⟩

/-- From the output of a cycle's first swap the cycle leads back to its input. -/
theorem IsCycle.exists_reaches {c : List Swap} (h : IsCycle swaps c) :
    ∃ s ∈ c, Reaches c s.tokenOut s.tokenIn := by
  obtain ⟨a, hwalk⟩ := h.returns
  cases c with
  | nil => exact absurd rfl h.ne_nil
  | cons s c =>
    obtain ⟨hs, hrest⟩ := isWalk_cons.1 hwalk
    exact ⟨s, List.mem_cons_self, c, List.subset_cons_self s c, hs.symm ▸ hrest⟩

/-- **A walk that takes a token twice goes round a cycle.** -/
theorem exists_isCycle_of_not_nodup (h : IsWalk a w b) (hdup : ¬ (w.map Swap.tokenIn).Nodup) :
    ∃ c, IsCycle w c := by
  induction w generalizing a with
  | nil => exact absurd List.nodup_nil hdup
  | cons s w ih =>
    obtain ⟨-, hrest⟩ := isWalk_cons.1 h
    by_cases hs : s.tokenIn ∈ w.map Swap.tokenIn
    · -- the walk from the first swap that takes the token up to the second one returns
      obtain ⟨x, hx, hxs⟩ := List.mem_map.1 hs
      obtain ⟨u, v, rfl⟩ := List.append_of_mem hx
      obtain ⟨c, hu, hv⟩ := isWalk_append.1 hrest
      have hc : s.tokenIn = c := hxs.symm.trans (isWalk_cons.1 hv).1
      refine ⟨s :: u, List.cons_ne_nil _ _, ?_, c, hc, hu⟩
      exact List.cons_subset_cons s (List.subset_append_left u _)
    · obtain ⟨c, hc⟩ := ih hrest fun hnodup => hdup (List.nodup_cons.2 ⟨hs, hnodup⟩)
      exact ⟨c, hc.mono (List.subset_cons_self s w)⟩

/-- Where every token that is reached is taken again, walks of any length exist. -/
theorem exists_isWalk_length (h : ∀ t, Reaches swaps a t → ∃ s ∈ swaps, s.tokenIn = t) (n : ℕ) :
    ∃ w b, w ⊆ swaps ∧ IsWalk a w b ∧ w.length = n := by
  induction n with
  | zero => exact ⟨[], a, List.nil_subset _, rfl, rfl⟩
  | succ n ih =>
    obtain ⟨w, b, hw, hwalk, hlen⟩ := ih
    obtain ⟨s, hs, hb⟩ := h b ⟨w, hw, hwalk⟩
    refine ⟨w ++ [s], s.tokenOut, List.append_subset.2 ⟨hw, ?_⟩, ?_, ?_⟩
    · exact List.cons_subset.2 ⟨hs, List.nil_subset _⟩
    · exact isWalk_append.2 ⟨b, hwalk, hb, rfl⟩
    · rw [List.length_append, hlen, List.length_singleton]

/-- **Swaps that leave no token behind have a cycle**, since a walk that is longer than their list
must use one of them twice, and take its token twice. -/
theorem exists_isCycle_of_forall_reaches
    (h : ∀ t, Reaches swaps a t → ∃ s ∈ swaps, s.tokenIn = t) : ∃ c, IsCycle swaps c := by
  obtain ⟨w, b, hw, hwalk, hlen⟩ := exists_isWalk_length h (swaps.length + 1)
  have hdup : ¬ (w.map Swap.tokenIn).Nodup := fun hnodup => by
    have hle := (List.subperm_of_subset (List.Nodup.of_map _ hnodup) hw).length_le
    omega
  obtain ⟨c, hc⟩ := exists_isCycle_of_not_nodup hwalk hdup
  exact ⟨c, hc.mono hw⟩

end SwapRouter.Route
