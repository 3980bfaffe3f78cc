import SwapRouter.Proofs.Route.Repeats
import SwapRouter.Strategy

/-!
# Orders that pass the checks

Three stages look at an order before its swaps are encoded.  `Strategies.choose` checks the
protocols, the native action and the repeats and picks a function of the router; the function then
checks the path, and the one for forks the fractions as well.  Whatever is encoded has passed all
of them.

* `Strategies.Encodes.passes`: whatever is encoded has passed the checks.
* `Strategies.Accepted`: what is known of an order that passes, in terms of its swaps alone.
* `Strategies.Passes.accepted`: the checks make sure of it.
-/

namespace SwapRouter

variable {t : Strategies} {f : RouterFunction} {order : Order}

/-- The token from which the path of an order starts. -/
def Order.firstToken (chain : Chain) (order : Order) : Address :=
  Route.startOf chain order.nativeAction order.givenToken

/-- The token at which the path of an order ends. -/
def Order.lastToken (chain : Chain) (order : Order) : Address :=
  Route.finishOf chain order.nativeAction order.checkedToken

namespace Route

/-- An order passes the checks of all orders exactly if it has swaps, its native action fits them,
and no token is repeated. -/
theorem checkOrder_eq_ok_iff {chain : Chain} :
    checkOrder chain order = .ok () ↔
      order.swaps ≠ [] ∧ checkNativeAction chain order = .ok () ∧ checkCycles order = .ok () := by
  unfold checkOrder
  by_cases hswaps : order.swaps = []
  · rw [hswaps]
    exact iff_of_false (fun h => by cases h) fun h => h.1 rfl
  · have hempty : order.swaps.isEmpty = false := by simpa using hswaps
    rw [hempty]
    cases hnative : checkNativeAction chain order with
    | error e => exact iff_of_false (fun h => by cases h) fun h => by cases h.2.1
    | ok u => exact ⟨fun h => ⟨hswaps, rfl, h⟩, fun h => h.2.2⟩

end Route

namespace Strategies

/-! ## The choice of a function -/

/-- What is chosen has passed the checks of all orders, and has a function for its shape. -/
theorem checks_of_choose (h : t.choose order = .ok f) :
    Route.checkOrder t.config.chain order = .ok () ∧
      (order.shape t.config.capabilities >>= functionOf) = .ok f := by
  unfold choose at h
  cases hprotocols : t.checkProtocols order with
  | error e => rw [hprotocols] at h; cases h
  | ok u =>
    rw [hprotocols] at h
    obtain ⟨⟨⟩, horder, hshape⟩ := bind_eq_ok_iff.1 h
    refine ⟨horder, ?_⟩
    split at hshape
    next g hg =>
      cases hshape
      exact hg
    · cases hshape

/-- **The function that is chosen depends on the forks and the groups of an order alone.** -/
theorem eq_of_choose (h : t.choose order = .ok f) :
    f = if Route.hasFork order.swaps = true then .split
      else if (Route.group t.config.capabilities order.swaps).length = 1 then .single
      else .sequential := by
  obtain ⟨shape, hshape, hf⟩ := bind_eq_ok_iff.1 (checks_of_choose h).2
  unfold Order.shape at hshape
  split at hshape
  · cases hshape
  · cases hout : order.exactOut with
    | true =>
      -- an order that fixes its output has a shape, and no function for it
      rw [hout] at hshape
      dsimp only at hshape
      rw [Bool.not_true, Bool.false_and, if_neg Bool.false_ne_true, if_pos rfl] at hshape
      split at hshape <;> cases hshape <;> cases hf
    | false =>
      rw [hout] at hshape
      dsimp only at hshape
      rw [Bool.not_false, Bool.true_and, if_neg Bool.false_ne_true] at hshape
      split at hshape
      next hfork => cases hshape; cases hf; rw [if_pos hfork]
      next hfork =>
        rw [if_neg hfork]
        split at hshape
        next hsingle => cases hshape; cases hf; rw [if_pos hsingle]
        next hsingle => cases hshape; cases hf; rw [if_neg hsingle]

theorem hasFork_iff_of_choose (h : t.choose order = .ok f) :
    Route.hasFork order.swaps = true ↔ f = .split := by
  have hf := eq_of_choose h
  by_cases hfork : Route.hasFork order.swaps = true
  · rw [if_pos hfork] at hf
    exact iff_of_true hfork hf
  · rw [if_neg hfork] at hf
    refine iff_of_false hfork fun hsplit => ?_
    rw [hsplit] at hf
    split at hf <;> cases hf

/-- All swaps of an order for the simplest function are in one group. -/
theorem exists_group_eq_singleton_of_choose (h : t.choose order = .ok .single) :
    ∃ g, Route.group t.config.capabilities order.swaps = [g] := by
  have hf := eq_of_choose h
  split at hf
  · cases hf
  · split at hf
    next hsingle => exact List.length_eq_one_iff.1 hsingle
    · cases hf

/-! ## Encoding -/

/-- An order is encoded for a function of the router: the function is chosen for the order, and
its encoding succeeds with some router, some source of approvals and in some circumstances. -/
def Encodes (t : Strategies) (f : RouterFunction) (order : Order) : Prop :=
  t.choose order = .ok f ∧
    ∃ router approvals known e, (t.encodeFor f order router approvals).outcome known = .ok e

/-- Every function checks the path of what it encodes. -/
theorem checkPath_of_encodeFor {router : Address} {approvals : Option ApprovalSource}
    {known : Circumstances} {e : EncodedOrder}
    (h : (t.encodeFor f order router approvals).outcome known = .ok e) :
    t.checkPath order = .ok () := by
  cases f with
  | single =>
    simp only [encodeFor, encodeSingle] at h
    split at h
    · split at h
      · cases h
      · exact (Encode.eq_ok_of_outcome_require_bind h).1
    · cases h
  | sequential => exact (Encode.eq_ok_of_outcome_require_bind h).1
  | split =>
    obtain ⟨-, hrest⟩ := Encode.eq_ok_of_outcome_require_bind h
    exact (Encode.eq_ok_of_outcome_require_bind hrest).1

/-- The function for forks checks the fractions of what it encodes. -/
theorem checkSplits_of_encodeFor {router : Address} {approvals : Option ApprovalSource}
    {known : Circumstances} {e : EncodedOrder}
    (h : (t.encodeFor .split order router approvals).outcome known = .ok e) :
    Route.checkSplits order.swaps = .ok () :=
  (Encode.eq_ok_of_outcome_require_bind h).1

/-- An order passes the checks for a function of the router: the function is chosen for it, the path
is checked, and for the function for forks the fractions are. -/
structure Passes (t : Strategies) (f : RouterFunction) (order : Order) : Prop where
  chosen : t.choose order = .ok f
  fractions : f = .split → Route.checkSplits order.swaps = .ok ()
  path : t.checkPath order = .ok ()

/-- Whatever is encoded has passed the checks. -/
theorem Encodes.passes (h : t.Encodes f order) : t.Passes f order := by
  obtain ⟨hchoose, router, approvals, known, e, he⟩ := h
  refine ⟨hchoose, fun hf => ?_, checkPath_of_encodeFor he⟩
  subst hf
  exact checkSplits_of_encodeFor he

/-! ## What the checks say together -/

/-- What the checks say of an order that they let pass for a function of the router. -/
structure Accepted (t : Strategies) (f : RouterFunction) (order : Order) : Prop where
  connected : Route.Connected order.swaps (order.firstToken t.config.chain)
    (order.lastToken t.config.chain)
  fractions : Route.FractionsFirst order.swaps
  ends : Route.EndsProperly order.nativeAction order.swaps
  /-- Without a fork no token is taken twice. -/
  nodup : f ≠ .split → (order.swaps.map Swap.tokenIn).Nodup

/-- **What passes the checks is accepted.** -/
theorem Passes.accepted (h : t.Passes f order) : t.Accepted f order := by
  have hnodup : f ≠ .split → (order.swaps.map Swap.tokenIn).Nodup := fun hf =>
    Route.nodup_map_tokenIn_of_hasFork_eq_false <|
      Bool.eq_false_iff.2 fun hfork => hf ((hasFork_iff_of_choose h.chosen).1 hfork)
  have hfractions : Route.FractionsFirst order.swaps := by
    by_cases hf : f = .split
    · exact Route.fractionsFirst_of_checkSplits (h.fractions hf)
    · exact Route.fractionsFirst_of_nodup (hnodup hf)
  have hcycles := (Route.checkOrder_eq_ok_iff.1 (checks_of_choose h.chosen).1).2.2
  exact ⟨Route.checkPathBetween_eq_ok_iff.1 h.path, hfractions,
    (Route.checkCycles_eq_ok_iff hfractions).1 hcycles, hnodup⟩

/-- The last swap of an accepted order gives the last token of its path, and then no swap takes
that token, or it gives what the first swap takes. -/
theorem Accepted.last_eq (h : t.Accepted f order) {first last : Swap}
    (hfirst : order.swaps.head? = some first) (hlast : order.swaps.getLast? = some last) :
    last.tokenOut = order.lastToken t.config.chain ∧ last.tokenOut ∉ Route.sources order.swaps ∨
      first.tokenIn = last.tokenOut ∧ order.nativeAction = none := by
  rcases (Route.endsProperly_iff hfirst hlast).1 h.ends with hout | hclosed
  · exact Or.inl ⟨h.connected.tokenOut_eq (List.mem_of_getLast? hlast) hout, hout⟩
  · exact Or.inr hclosed

/-- A path along the swaps of an accepted order ends at the last token, which no swap takes, unless
it is closed. -/
theorem Accepted.end_of_isWalk (h : t.Accepted f order) {a b : Address}
    (hwalk : Route.IsWalk a order.swaps b) (hopen : a ≠ b) :
    b = order.lastToken t.config.chain ∧ b ∉ Route.sources order.swaps := by
  cases hswaps : order.swaps with
  | nil =>
    rw [hswaps] at hwalk
    exact absurd (Route.isWalk_nil.1 hwalk) hopen
  | cons first rest =>
    have hfirst : order.swaps.head? = some first := by rw [hswaps]; rfl
    have hne : order.swaps ≠ [] := hswaps ▸ List.cons_ne_nil first rest
    obtain ⟨last, hlast, rfl⟩ := Route.getLast?_of_isWalk hwalk hne
    rw [← hswaps]
    rcases h.last_eq hfirst hlast with hend | ⟨hclosed, -⟩
    · exact hend
    · rw [hswaps] at hwalk
      exact absurd ((Route.isWalk_cons.1 hwalk).1.symm.trans hclosed) hopen

end Strategies

end SwapRouter
