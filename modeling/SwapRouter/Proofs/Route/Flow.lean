import SwapRouter.Proofs.Route.Cycle
import SwapRouter.Proofs.Route.Remainder

/-!
# Flows pass the checks

The checks look at the swaps of an order as a graph, and at the place of a few of them in the list.
What a caller means by a good list of swaps is a *flow*: every swap finds its input there when its turn
comes, and what it gives is taken up by a later one until all has become the last token.  None of the
checks asks for this, so it is worth saying that none of them gets in its way.

* The swaps of a flow reach every token that they take, by the swaps in front of it, and a token that
  is given and not taken is the last one.  So they connect the first token with the last.
* The last swap of the list hands nothing on, so it gives the last token, which no swap takes.  Where
  the fractions are in order this is all that the check for repeats looks at.
* The first swap takes the first token and the last one gives the last token, so a native action that
  fits the order fits its swaps.

That a flow has no cycle is not needed, and neither is which of the amounts of an order is exact.  A
line of swaps that returns to its first token is no flow, since that token is taken and given, but it
passes for the same reasons.

* `isFlow_iff`: whether swaps are a flow can be looked up along the list.
* `IsFlow.connected`, `connected_of_isWalk`: flows and walks connect their ends.
* `checkNativeAction_eq_ok`: a native action that fits the order fits swaps between its ends.
* `Order.IsRouted.checkOrder_and_checkPath`: **no flow is refused, and no line that returns to its
  first token.**
-/

namespace SwapRouter

namespace Route

variable {swaps : List Swap} {known : List Address} {s : Swap} {a b : Address}

/-! ## Swaps that find their input -/

/-- Whether each swap takes a token that is known or that an earlier swap gives. -/
def isFed : List Address → List Swap → Bool
  | _, [] => true
  | known, s :: later => known.contains s.tokenIn && isFed (s.tokenOut :: known) later

theorem isFed_iff : isFed known swaps = true ↔
    ∀ earlier s, earlier ++ [s] <+: swaps →
      s.tokenIn ∈ known ∨ ∃ r ∈ earlier, r.tokenOut = s.tokenIn := by
  induction swaps generalizing known with
  | nil =>
    refine iff_of_true rfl fun earlier s h => ?_
    exact absurd (List.prefix_nil.1 h) (List.append_ne_nil_of_right_ne_nil _ (List.cons_ne_nil s []))
  | cons x rest ih =>
    rw [isFed, Bool.and_eq_true, ih, List.contains_iff_mem]
    constructor
    · rintro ⟨hx, hrest⟩ earlier s hbegins
      cases earlier with
      | nil =>
        obtain ⟨rfl, -⟩ := List.cons_prefix_cons.1 hbegins
        exact Or.inl hx
      | cons y earlier =>
        rw [List.cons_append, List.cons_prefix_cons] at hbegins
        obtain ⟨rfl, hbegins⟩ := hbegins
        rcases hrest earlier s hbegins with hknown | ⟨r, hr, hrs⟩
        · rcases List.mem_cons.1 hknown with hout | hknown
          · exact Or.inr ⟨y, List.mem_cons_self, hout.symm⟩
          · exact Or.inl hknown
        · exact Or.inr ⟨r, List.mem_cons_of_mem y hr, hrs⟩
    · intro h
      constructor
      · refine (h [] x ⟨rest, rfl⟩).resolve_right ?_
        rintro ⟨r, hr, -⟩
        exact absurd hr List.not_mem_nil
      · intro earlier s hbegins
        rcases h (x :: earlier) s (List.cons_prefix_cons.2 ⟨rfl, hbegins⟩) with hknown | ⟨r, hr, hrs⟩
        · exact Or.inl (List.mem_cons_of_mem _ hknown)
        · rcases List.mem_cons.1 hr with rfl | hr
          · exact Or.inl (hrs ▸ List.mem_cons_self)
          · exact Or.inr ⟨r, hr, hrs⟩

/-- Swaps that find their input reach it from the first token. -/
theorem reaches_of_isFed (h : isFed [a] swaps = true) :
    ∀ s ∈ swaps, Reaches swaps a s.tokenIn := by
  rw [isFed_iff] at h
  induction swaps using List.reverseRecOn with
  | nil => exact fun s hs => absurd hs List.not_mem_nil
  | append_singleton front last ih =>
    have hsub : front ⊆ front ++ [last] := List.subset_append_left _ _
    have hfront : ∀ s ∈ front, Reaches (front ++ [last]) a s.tokenIn := fun s hs =>
      (ih (fun earlier r hbegins => h earlier r (hbegins.trans (List.prefix_append _ _))) s hs).mono
        hsub
    intro s hs
    rcases List.mem_append.1 hs with hs | hs
    · exact hfront s hs
    · obtain rfl := List.mem_singleton.1 hs
      rcases h front s (List.prefix_refl _) with hfirst | ⟨r, hr, hrs⟩
      · rw [List.mem_singleton.1 hfirst]
        exact Reaches.refl _ a
      · exact hrs ▸ (hfront r hr).trans (reaches_of_mem (hsub hr))

/-! ## Flows -/

/-- The swaps are a flow from one token to another in the order of the list. -/
structure IsFlow (swaps : List Swap) (a b : Address) : Prop where
  /-- Every swap takes the first token or what an earlier swap gives. -/
  fed : ∀ earlier s, earlier ++ [s] <+: swaps → s.tokenIn = a ∨ ∃ r ∈ earlier, r.tokenOut = s.tokenIn
  /-- Whatever is given is taken by some swap, the last token apart. -/
  taken : ∀ s ∈ swaps, s.tokenOut ≠ b → s.tokenOut ∈ sources swaps
  /-- The last swap out of a token stands behind all swaps into it. -/
  remainderLast : ∀ t i, IsRemainder swaps t i → ∀ k s, swaps[k]? = some s → s.tokenOut = t → k < i
  /-- No swap gives the first token. -/
  startKept : ∀ s ∈ swaps, s.tokenOut ≠ a
  /-- No swap takes the last token. -/
  finishKept : ∀ s ∈ swaps, s.tokenIn ≠ b

theorem IsFlow.isFed (h : IsFlow swaps a b) : isFed [a] swaps = true :=
  isFed_iff.2 fun earlier s hbegins => (h.fed earlier s hbegins).imp_left List.mem_singleton.2

theorem IsFlow.isHandedOn (h : IsFlow swaps a b) : isHandedOn b swaps = true := by
  refine forall_isRemainder_iff.1 ?_
  rintro t hne ⟨s, hs, rfl⟩
  obtain ⟨i, hi⟩ := exists_isRemainder (h.taken s hs hne)
  exact ⟨i, hi, h.remainderLast _ i hi⟩

/-- **Whether swaps are a flow can be looked up along the list.** -/
theorem isFlow_iff : IsFlow swaps a b ↔
    isFed [a] swaps = true ∧ isHandedOn b swaps = true ∧ (∀ s ∈ swaps, s.tokenOut ≠ a) ∧
      ∀ s ∈ swaps, s.tokenIn ≠ b := by
  refine ⟨fun h => ⟨h.isFed, h.isHandedOn, h.startKept, h.finishKept⟩, ?_⟩
  rintro ⟨hfed, hhanded, hstart, hfinish⟩
  refine ⟨fun earlier s hbegins => ?fed, fun s hs hne => ?taken, fun t i hi k s hs hst => ?last,
    hstart, hfinish⟩
  case fed => exact (isFed_iff.1 hfed earlier s hbegins).imp_left List.mem_singleton.1
  case taken =>
    obtain ⟨before, later, rfl⟩ := List.append_of_mem hs
    have htaken := isHandedOn_iff.1 hhanded s later (List.suffix_append before _)
    obtain ⟨x, hx, hxt⟩ := mem_sources.1 (htaken.resolve_left hne)
    exact mem_sources.2 ⟨x, List.mem_append_right _ (List.mem_cons_of_mem s hx), hxt⟩
  case last =>
    obtain ⟨r, hr, hrt⟩ := hi.2
    have hne : t ≠ b := hrt ▸ hfinish r (List.mem_of_getElem? hr)
    exact lt_of_isRemainder hhanded hne hi hs hst

/-- **A flow connects its ends.** -/
theorem IsFlow.connected (h : IsFlow swaps a b) {first last : Swap}
    (hfirst : swaps.head? = some first) (hlast : swaps.getLast? = some last) :
    first.tokenIn = a ∧ last.tokenOut = b ∧ Connected swaps a b := by
  have hin : first.tokenIn = a := by
    refine (h.fed [] first ?_).resolve_right ?_
    · obtain ⟨rest, rfl⟩ := List.head?_eq_some_iff.1 hfirst
      exact ⟨rest, rfl⟩
    · rintro ⟨r, hr, -⟩
      exact absurd hr List.not_mem_nil
  have hout : last.tokenOut = b := by
    obtain ⟨front, rfl⟩ := List.getLast?_eq_some_iff.1 hlast
    refine (isHandedOn_iff.1 h.isHandedOn last [] (List.suffix_append front _)).resolve_right ?_
    exact List.not_mem_nil
  have hreach := reaches_of_isFed h.isFed
  have hmem := List.mem_of_getLast? hlast
  have hstart : a ∈ sources swaps := mem_sources.2 ⟨first, List.mem_of_head? hfirst, hin⟩
  refine ⟨hin, hout, hstart, fun t ht => ?_, ?_, fun t ht => ?_⟩
  · obtain ⟨s, hs, rfl⟩ := mem_sources.1 ht
    exact hreach s hs
  · exact hout ▸ (hreach last hmem).trans (reaches_of_mem hmem)
  · exact ht.of_closed (P := fun t => t ≠ b → t ∈ sources swaps) (fun _ => hstart)
      fun s hs _ => h.taken s hs

/-- **A walk connects its ends.** -/
theorem connected_of_isWalk (h : IsWalk a swaps b) (hne : swaps ≠ []) : Connected swaps a b := by
  have hreach : ∀ s ∈ swaps, Reaches swaps a s.tokenIn := by
    intro s hs
    obtain ⟨front, later, hsplit⟩ := List.append_of_mem hs
    obtain ⟨c, hfront, hlater⟩ := isWalk_append.1 (hsplit ▸ h)
    exact ⟨front, hsplit ▸ List.subset_append_left front _, (isWalk_cons.1 hlater).1 ▸ hfront⟩
  have hsource : ∀ t, t ∈ swaps.map Swap.tokenIn → t ∈ sources swaps := fun t ht =>
    mem_sources.2 (List.mem_map.1 ht)
  have hstart := hsource a (start_mem_of_isWalk h hne)
  refine ⟨hstart, fun t ht => ?_, ⟨swaps, List.Subset.refl _, h⟩, fun t ht => ?_⟩
  · obtain ⟨s, hs, rfl⟩ := mem_sources.1 ht
    exact hreach s hs
  · refine ht.of_closed (P := fun t => t ≠ b → t ∈ sources swaps) (fun _ => hstart) fun s hs _ hne => ?_
    exact hsource _ ((tokenOut_mem_of_isWalk h hs).resolve_right hne)

end Route

/-! ## Orders -/

namespace Order

variable {chain : Chain} {order : Order}

/-- The native action of an order fits its tokens: the native coin is given where it is wrapped, and
checked where it is unwrapped. -/
structure HasFittingAction (order : Order) : Prop where
  wrap : order.nativeAction = some .wrap → order.givenToken = Address.native
  unwrap : order.nativeAction = some .unwrap → order.checkedToken = Address.native

theorem hasFittingAction_of_eq_none (h : order.nativeAction = none) : order.HasFittingAction where
  wrap hwrap := by cases h.symm.trans hwrap
  unwrap hunwrap := by cases h.symm.trans hunwrap

/-- The swaps of an order are a flow from its first token to its last, with fractions in order. -/
structure IsFlow (chain : Chain) (order : Order) : Prop where
  action : order.HasFittingAction
  nonempty : order.swaps ≠ []
  fractions : Route.checkSplits order.swaps = .ok ()
  flow : Route.IsFlow order.swaps (order.firstToken chain) (order.lastToken chain)

/-- The swaps of an order are a line that returns to its first token, takes no token twice and leaves
the native coin alone. -/
structure IsRoundTrip (chain : Chain) (order : Order) : Prop where
  action : order.nativeAction = none
  nonempty : order.swaps ≠ []
  returns : order.lastToken chain = order.firstToken chain
  walk : Route.IsWalk (order.firstToken chain) order.swaps (order.lastToken chain)
  nodup : (order.swaps.map Swap.tokenIn).Nodup

/-- The swaps of an order are a flow, or a line that returns to its first token. -/
def IsRouted (chain : Chain) (order : Order) : Prop :=
  order.IsFlow chain ∨ order.IsRoundTrip chain

/-- A native action that fits an order fits swaps between its ends. -/
theorem checkNativeAction_eq_ok (h : order.HasFittingAction) {first last : Swap}
    (hfirst : order.swaps.head? = some first) (hlast : order.swaps.getLast? = some last)
    (hin : first.tokenIn = order.firstToken chain) (hout : last.tokenOut = order.lastToken chain) :
    Route.checkNativeAction chain order = .ok () := by
  rw [firstToken, Route.startOf] at hin
  rw [lastToken, Route.finishOf] at hout
  unfold Route.checkNativeAction
  split
  next => rfl
  next hwrap =>
    rw [if_pos hwrap] at hin
    rw [if_neg (not_not.2 (h.wrap hwrap)), hfirst]
    exact if_neg (not_not.2 hin)
  next hunwrap =>
    rw [if_pos hunwrap] at hout
    rw [if_neg (not_not.2 (h.unwrap hunwrap)), hlast]
    exact if_neg (not_not.2 hout)

/-- Swaps between the ends of an order pass its checks if they connect the ends and take nothing that
the last one gives, but for an order that returns to its first token. -/
theorem checks_of_connected {first last : Swap} (haction : order.HasFittingAction)
    (hfractions : Route.FractionsFirst order.swaps)
    (hfirst : order.swaps.head? = some first) (hlast : order.swaps.getLast? = some last)
    (hin : first.tokenIn = order.firstToken chain) (hout : last.tokenOut = order.lastToken chain)
    (hends : last.tokenOut ∉ Route.sources order.swaps ∨
      first.tokenIn = last.tokenOut ∧ order.nativeAction = none)
    (hconnected : Route.Connected order.swaps (order.firstToken chain) (order.lastToken chain)) :
    Route.checkOrder chain order = .ok () ∧
      Route.checkPath chain order.nativeAction order.swaps order.givenToken order.checkedToken =
        .ok () := by
  have hne : order.swaps ≠ [] := List.ne_nil_of_mem (List.mem_of_head? hfirst)
  have hnative := checkNativeAction_eq_ok haction hfirst hlast hin hout
  have hcycles := (Route.checkCycles_eq_ok_iff hfractions).2
    ((Route.endsProperly_iff hfirst hlast).2 hends)
  exact ⟨Route.checkOrder_eq_ok_iff.2 ⟨hne, hnative, hcycles⟩,
    Route.checkPathBetween_eq_ok_iff.2 hconnected⟩

/-- **No flow is refused by the checks of an order and of its path, and no line that returns to its
first token.** -/
theorem IsRouted.checkOrder_and_checkPath (h : order.IsRouted chain) :
    Route.checkOrder chain order = .ok () ∧
      Route.checkPath chain order.nativeAction order.swaps order.givenToken order.checkedToken =
        .ok () := by
  have hne : order.swaps ≠ [] := h.elim IsFlow.nonempty IsRoundTrip.nonempty
  obtain ⟨first, hfirst⟩ := Option.ne_none_iff_exists'.1 (mt List.head?_eq_none_iff.1 hne)
  obtain ⟨last, hlast⟩ := Option.ne_none_iff_exists'.1 (mt List.getLast?_eq_none_iff.1 hne)
  rcases h with h | h
  · obtain ⟨hin, hout, hconnected⟩ := h.flow.connected hfirst hlast
    have hends : last.tokenOut ∉ Route.sources order.swaps := fun hmem => by
      obtain ⟨s, hs, hst⟩ := Route.mem_sources.1 hmem
      exact h.flow.finishKept s hs (hst.trans hout)
    exact checks_of_connected h.action (Route.fractionsFirst_of_checkSplits h.fractions) hfirst hlast
      hin hout (Or.inl hends) hconnected
  · obtain ⟨last', hlast', hout⟩ := Route.getLast?_of_isWalk h.walk hne
    obtain rfl : last' = last := Option.some.inj (hlast'.symm.trans hlast)
    have hin : first.tokenIn = order.firstToken chain := by
      obtain ⟨rest, hrest⟩ := List.head?_eq_some_iff.1 hfirst
      exact (Route.isWalk_cons.1 (hrest ▸ h.walk)).1
    exact checks_of_connected (hasFittingAction_of_eq_none h.action)
      (Route.fractionsFirst_of_nodup h.nodup) hfirst hlast hin hout
      (Or.inr ⟨hin.trans (h.returns.symm.trans hout.symm), h.action⟩)
      (Route.connected_of_isWalk h.walk hne)

end Order

namespace Sample

/-- The native coin is wrapped and sold by three ways, of which two join and fork again. -/
def nestedFork : Order :=
  { sale [swap usdcWeth weth usdc half, swap usdcWeth' weth usdc quarter, swap daiUsdc usdc dai half,
      swap daiWeth weth dai, swap daiUsdc usdc dai] with
    givenToken := Address.native
    nativeAction := some .wrap }

theorem isFlow_nestedFork : nestedFork.IsFlow .ethereum where
  action := ⟨fun _ => rfl, fun h => by cases h⟩
  nonempty := List.cons_ne_nil _ _
  fractions := eq_ok_of_toOption_eq_some (by decide +kernel)
  flow := Route.isFlow_iff.2 (by decide)

theorem isRoundTrip_roundTrip : roundTrip.IsRoundTrip .ethereum where
  action := rfl
  nonempty := List.cons_ne_nil _ _
  returns := rfl
  walk := by decide
  nodup := by decide

/-- A flow with forks within forks passes, and so does a line that returns. -/
theorem checkOrder_nestedFork_roundTrip :
    nestedFork.IsRouted .ethereum ∧ roundTrip.IsRouted .ethereum ∧
      Route.checkOrder .ethereum nestedFork = .ok () ∧
      Route.checkPath .ethereum (some .wrap) nestedFork.swaps Address.native dai = .ok () ∧
      Route.checkOrder .ethereum roundTrip = .ok () ∧
      Route.checkPath .ethereum none roundTrip.swaps weth weth = .ok () := by
  have hflow : nestedFork.IsRouted .ethereum := Or.inl isFlow_nestedFork
  have hreturns : roundTrip.IsRouted .ethereum := Or.inr isRoundTrip_roundTrip
  obtain ⟨horder, hpath⟩ := Order.IsRouted.checkOrder_and_checkPath hflow
  obtain ⟨horder', hpath'⟩ := Order.IsRouted.checkOrder_and_checkPath hreturns
  exact ⟨hflow, hreturns, horder, hpath, horder', hpath'⟩

end Sample

end SwapRouter
