import SwapRouter.Proofs.FractionSum
import SwapRouter.Proofs.Route.HopRest

/-!
# What the hops out of a token sum to

The hops out of a token take parts of it, and the last one takes the rest, so the others should not
take more parts than there are.  They take the parts of the fractions that the check has added, each
rounded on its own.  Where the last swap carries no fraction, the check wants a millionth to be left
over, which makes up for the rounding of a few dozen fractions.  Where it carries one, all of them
sum to one up to a millionth, and the others may already take more than there is.

* `HopHeader.SharesFit`: what is asked of the hops out of each token.
* `Route.SharesFit`, `Route.FewLeaveRest`: when the fractions of an order see to it.
* `Strategies.sharesFit_iff`: **the hops in front of the last one take no more than there is exactly
  if the parts of their fractions fit**, and a few swaps in front of one without a fraction fit.
-/

namespace SwapRouter

namespace Route

variable {swaps later rest : List Swap} {s : Swap} {t : Address} {g : SwapGroup}
  {groups : List SwapGroup}

/-! ## Swaps before the last one out of a token -/

/-- The swaps before the last one out of a token. -/
def explicitOf (swaps : List Swap) (token : Address) : List Swap :=
  (outgoingOf swaps token).dropLast

/-- The parts that the fraction of a swap is written as. -/
def share (s : Swap) : ℕ := Wire.partsOf s.split.magnitude

/-- The swaps before the last one out of each token take no more parts than there are. -/
def SharesFit (swaps : List Swap) : Prop :=
  ∀ token ∈ sources swaps, ((explicitOf swaps token).map share).sum ≤ Wire.fractionScale

instance (swaps : List Swap) : Decidable (SharesFit swaps) :=
  inferInstanceAs (Decidable (∀ token ∈ sources swaps, _))

/-- The last swap out of each token carries no fraction, and few swaps stand before it. -/
def FewLeaveRest (swaps : List Swap) : Prop :=
  ∀ token ∈ sources swaps, (explicitOf swaps token).length ≤ Wire.maxExplicit ∧
    ∀ s ∈ (outgoingOf swaps token).getLast?, s.split.isZero = true

instance (swaps : List Swap) : Decidable (FewLeaveRest swaps) :=
  inferInstanceAs (Decidable (∀ token ∈ sources swaps, _ ∧ _))

theorem outgoingOf_append : outgoingOf (later ++ rest) t = outgoingOf later t ++ outgoingOf rest t :=
  List.filter_append ..

theorem outgoingOf_eq_nil_iff : outgoingOf swaps t = [] ↔ ∀ s ∈ swaps, s.tokenIn ≠ t := by
  rw [outgoingOf, List.filter_eq_nil_iff]
  simp

/-- Nothing stands before the last swap out of a token that is no fork. -/
theorem explicitOf_eq_nil_of_isFork (h : isFork swaps t = false) : explicitOf swaps t = [] := by
  rw [isFork, decide_eq_false_iff_not, not_lt] at h
  rw [explicitOf, ← List.length_eq_zero_iff, List.length_dropLast]
  omega

theorem isLastOut_iff_outgoingOf_eq_nil :
    isLastOut s later = true ↔ outgoingOf later s.tokenIn = [] := by
  rw [isLastOut_iff, mem_sources, outgoingOf_eq_nil_iff]
  push Not
  rfl

/-- Of a group, only the first swap takes its token. -/
theorem Unforked.outgoingOf_later (h : Unforked (g :: groups)) :
    outgoingOf (g.later ++ groups.flatMap SwapGroup.swaps) g.tokenIn =
      outgoingOf (groups.flatMap SwapGroup.swaps) g.tokenIn := by
  have hlater : outgoingOf g.later g.tokenIn = [] :=
    outgoingOf_eq_nil_iff.2 fun s hs => h.tokenIn_ne List.mem_cons_self hs
  rw [outgoingOf_append, hlater, List.nil_append]

/-- A group changes nothing before the last swap out of a token other than its own. -/
theorem Unforked.explicitOf_of_ne (h : Unforked (g :: groups)) (hne : g.tokenIn ≠ t) :
    explicitOf ((g :: groups).flatMap SwapGroup.swaps) t =
      explicitOf (groups.flatMap SwapGroup.swaps) t := by
  by_cases hlater : ∃ s ∈ g.later, s.tokenIn = t
  · -- such a swap is the only one that takes the token
    obtain ⟨s, hs, rfl⟩ := hlater
    have hfork := h g List.mem_cons_self s hs
    have hrest : isFork (groups.flatMap SwapGroup.swaps) s.tokenIn = false :=
      isFork_eq_false_of_sublist (List.sublist_append_right g.swaps _) hfork
    rw [explicitOf_eq_nil_of_isFork hfork, explicitOf_eq_nil_of_isFork hrest]
  · have hnil : outgoingOf g.swaps t = [] :=
      outgoingOf_eq_nil_iff.2 (List.forall_mem_cons.2 ⟨hne, fun s hs heq => hlater ⟨s, hs, heq⟩⟩)
    rw [explicitOf, List.flatMap_cons, outgoingOf_append, hnil, List.nil_append, explicitOf]

theorem isFraction_of_mem_explicitOf (h : checkSplits swaps = .ok ()) (hs : s ∈ explicitOf swaps t) :
    isFraction s.split = true :=
  isFraction_of_checkSplits h (mem_outgoingOf.1 (List.mem_of_mem_dropLast hs)).1

theorem tokenIn_mem_sources (hg : g ∈ groups) :
    g.tokenIn ∈ sources (groups.flatMap SwapGroup.swaps) :=
  mem_sources.2 ⟨g.first, List.mem_flatMap_of_mem hg List.mem_cons_self, rfl⟩

/-- What the check says of the sum of the fractions before the last one. -/
theorem sum_lt_of_checkSum {inner : List Swap} {last : Swap}
    (hinner : ∀ s ∈ inner, isFraction s.split = true) (hlast : isFraction last.split = true)
    (h : checkSum t inner last = .ok ()) :
    (Binary64.sum (inner.map Swap.split)).lt Wire.excess = true ∧
      (last.split.isZero = true →
        (Binary64.sum (inner.map Swap.split)).lt (Binary64.one.sub splitTolerance) = true) := by
  have htotal : (Binary64.zero false).le (Binary64.sum (inner.map Swap.split)) = true :=
    Binary64.nonneg_sum (List.forall_mem_map.2 hinner)
  unfold checkSum at h
  split at h
  · cases h
  dsimp only at h
  split at h
  next hzero =>
    split at h
    · cases h
    next hle =>
      have hlt := Binary64.lt_of_le_eq_false (by decide +kernel) htotal (Bool.eq_false_iff.2 hle)
      exact ⟨Wire.lt_excess_of_lt htotal hlt, fun _ => hlt⟩
  next hzero =>
    split at h
    · cases h
    next hnear =>
      -- the last fraction is not negative, so the sum without it is not above the sum with it
      have hwhole := Wire.lt_excess
        (Binary64.nonneg_add htotal (Binary64.nonneg_of_isFraction hlast))
        (Bool.eq_false_iff.2 hnear)
      refine ⟨?_, fun h => absurd h hzero⟩
      obtain ⟨-, -, hbound, -⟩ := Wire.excessUnits_bounds
      exact (Binary64.lt_and_magnitude_le_of_add_lt hbound htotal hlast hwhole).1

/-- What the check says of the swaps before the last one out of a token. -/
theorem sum_lt_of_checkSplitsOf {outs : List Swap}
    (hfractions : ∀ s ∈ outs, isFraction s.split = true) (h : checkSplitsOf t outs = .ok ()) :
    (Binary64.sum (outs.dropLast.map Swap.split)).lt Wire.excess = true ∧
      ((∀ s ∈ outs.getLast?, s.split.isZero = true) →
        (Binary64.sum (outs.dropLast.map Swap.split)).lt
          (Binary64.one.sub splitTolerance) = true) := by
  have hempty : (Binary64.sum []).lt Wire.excess = true ∧
      (Binary64.sum []).lt (Binary64.one.sub splitTolerance) = true := by decide +kernel
  obtain ⟨⟨⟩, -, hsum⟩ := bind_eq_ok_iff.1 h
  rcases outs with _ | ⟨first, _ | ⟨second, rest⟩⟩
  · exact ⟨hempty.1, fun _ => hempty.2⟩
  · exact ⟨hempty.1, fun _ => hempty.2⟩
  · have hlast : (first :: second :: rest).getLast? = some ((second :: rest).getLastD first) := by
      rw [List.getLast?_cons, List.getLastD_eq_getLast?]
    obtain ⟨hexcess, hrest⟩ := sum_lt_of_checkSum
      (fun s hs => hfractions s (List.mem_of_mem_dropLast hs))
      (hfractions _ (List.mem_of_getLast? hlast)) hsum
    exact ⟨hexcess, fun hzero => hrest (hzero _ hlast)⟩

theorem sum_lt_of_checkSplits (h : checkSplits swaps = .ok ()) (ht : t ∈ sources swaps) :
    (Binary64.sum ((explicitOf swaps t).map Swap.split)).lt Wire.excess = true ∧
      ((∀ s ∈ (outgoingOf swaps t).getLast?, s.split.isZero = true) →
        (Binary64.sum ((explicitOf swaps t).map Swap.split)).lt
          (Binary64.one.sub splitTolerance) = true) := by
  obtain ⟨s, hs, rfl⟩ := mem_sources.1 ht
  exact sum_lt_of_checkSplitsOf
    (fun s' hs' => isFraction_of_checkSplits h (mem_outgoingOf.1 hs').1)
    (checkSplitsOf_of_checkSplits h hs)

theorem sum_share_eq {l : List Swap} : (l.map share).sum =
    ((l.map Swap.split).map fun x => Wire.partsOf x.magnitude).sum := by
  rw [List.map_map]
  exact congrArg List.sum (List.map_congr_left fun s _ => by rw [share, Function.comp_apply])

/-- The swaps before the last one out of a token take few more parts than there are. -/
theorem sum_share_le (h : checkSplits swaps = .ok ()) (ht : t ∈ sources swaps) :
    ((explicitOf swaps t).map share).sum ≤
      Wire.fractionScale + 17 + (explicitOf swaps t).length := by
  have hparts := Wire.sum_partsOf_le_add
    (List.forall_mem_map.2 fun s hs => isFraction_of_mem_explicitOf h hs)
    (sum_lt_of_checkSplits h ht).1
  rwa [List.length_map, ← sum_share_eq] at hparts

/-- **A few swaps in front of one that carries no fraction** take no more parts than there are. -/
theorem sharesFit_of_fewLeaveRest (h : checkSplits swaps = .ok ()) (hfew : FewLeaveRest swaps) :
    SharesFit swaps := by
  intro t ht
  obtain ⟨hlen, hlast⟩ := hfew t ht
  rw [sum_share_eq]
  refine Wire.sum_partsOf_le_fractionScale
    (List.forall_mem_map.2 fun s hs => isFraction_of_mem_explicitOf h hs) ?_
    ((sum_lt_of_checkSplits h ht).2 hlast)
  rwa [List.length_map]

end Route

/-! ## Hops before the last one out of a token -/

namespace HopHeader

variable {table : List Address} {groups : List SwapGroup} {g : SwapGroup}
  {h : HopHeader} {headers : List HopHeader} {i : ℕ} {token : Address}

/-- The hops in front of the last one out of each token take no more parts than there are. -/
def SharesFit (headers : List HopHeader) : Prop :=
  ∀ i ∈ headers.map HopHeader.tokenIn, (outOf headers i).dropLast.sum ≤ Wire.fractionScale

/-- A header in front of a group whose token another one takes tells the parts of its fraction. -/
theorem Describes.parts_eq_share {later : List Swap} (hh : Describes table g later h)
    (hfraction : Route.isFraction g.split = true) (hlast : Route.isLastOut g.first later = false) :
    h.parts = Route.share g.first := by
  have hparts := hh.parts
  rw [hlast, if_neg Bool.false_ne_true, Wire.fractionParts_of_isFraction hfraction] at hparts
  exact (Int.ofNat.inj (Except.ok.inj hparts)).symm

/-- A header never tells more parts than there are. -/
theorem Describes.parts_le {later : List Swap} (hh : Describes table g later h)
    (hfraction : Route.isFraction g.split = true) : h.parts ≤ Wire.fractionScale := by
  cases hlast : Route.isLastOut g.first later with
  | true =>
    have hparts := hh.parts
    rw [hlast, if_pos rfl] at hparts
    rw [hparts]
    exact Nat.zero_le _
  | false =>
    rw [hh.parts_eq_share hfraction hlast]
    exact Wire.partsOf_le_fractionScale hfraction

theorem outOf_cons_of_ne (hne : h.tokenIn ≠ i) : outOf (h :: headers) i = outOf headers i := by
  rw [outOf, List.filter_cons_of_neg (by simpa using hne), outOf]

theorem outOf_cons_self : outOf (h :: headers) h.tokenIn = h.parts :: outOf headers h.tokenIn := by
  simp [outOf]

/-- **The hops before the last one out of a token take the parts of the swaps before the last one.** -/
theorem DescribeAll.dropLast_outOf (hall : DescribeAll table groups headers)
    (hunforked : Route.Unforked groups)
    (hfractions : ∀ g ∈ groups, Route.isFraction g.split = true)
    (hi : Route.tokenPosition table token = .ok i) :
    (outOf headers i).dropLast =
      (Route.explicitOf (groups.flatMap SwapGroup.swaps) token).map Route.share := by
  induction hall with
  | nil => rfl
  | @cons g groups h headers hhead htail ih =>
    obtain ⟨hfraction, hothers⟩ := List.forall_mem_cons.1 hfractions
    have hrest := ih hunforked.of_cons hothers
    by_cases htoken : g.tokenIn = token
    · subst htoken
      obtain rfl : h.tokenIn = i := (Route.tokenPosition_inj hhead.tokenIn hi).2 rfl
      have houts : Route.outgoingOf ((g :: groups).flatMap SwapGroup.swaps) g.tokenIn =
          g.first :: Route.outgoingOf (groups.flatMap SwapGroup.swaps) g.tokenIn := by
        rw [← hunforked.outgoingOf_later, List.flatMap_cons, SwapGroup.swaps, List.cons_append,
          Route.outgoingOf_cons]
        exact if_pos rfl
      -- the first hop is the last one out of the token exactly if its first swap is
      have hnil : outOf headers h.tokenIn = [] ↔
          Route.isLastOut g.first (g.later ++ groups.flatMap SwapGroup.swaps) = true := by
        rw [outOf_eq_nil_iff, htail.forall_tokenIn_ne hhead.tokenIn, hunforked.isLastOut_iff]
      have hnil' : Route.outgoingOf (groups.flatMap SwapGroup.swaps) g.tokenIn = [] ↔
          Route.isLastOut g.first (g.later ++ groups.flatMap SwapGroup.swaps) = true := by
        rw [← hunforked.outgoingOf_later]
        exact Route.isLastOut_iff_outgoingOf_eq_nil.symm
      rw [outOf_cons_self, Route.explicitOf, houts]
      cases hlast : Route.isLastOut g.first (g.later ++ groups.flatMap SwapGroup.swaps) with
      | true =>
        rw [hnil.2 hlast, hnil'.2 hlast]
        rfl
      | false =>
        rw [hlast] at hnil hnil'
        rw [List.dropLast_cons_of_ne_nil (mt hnil.1 Bool.false_ne_true),
          List.dropLast_cons_of_ne_nil (mt hnil'.1 Bool.false_ne_true), List.map_cons,
          hhead.parts_eq_share hfraction hlast, hrest, Route.explicitOf]
    · have hindex : h.tokenIn ≠ i := fun heq =>
        htoken ((Route.tokenPosition_inj hhead.tokenIn hi).1 heq)
      rw [outOf_cons_of_ne hindex, hrest, hunforked.explicitOf_of_ne htoken]

/-- What holds of the places that headers tell holds of the places of the groups' tokens. -/
theorem DescribeAll.forall_tokenIn_iff {P : ℕ → Prop} (hall : DescribeAll table groups headers) :
    (∀ i ∈ headers.map HopHeader.tokenIn, P i) ↔
      ∀ g ∈ groups, ∃ i, Route.tokenPosition table g.tokenIn = .ok i ∧ P i := by
  induction hall with
  | nil => exact iff_of_true (List.forall_mem_nil _) (List.forall_mem_nil _)
  | cons hhead _ ih =>
    rw [List.map_cons, List.forall_mem_cons, List.forall_mem_cons, ih, hhead.tokenIn]
    refine and_congr_left' ⟨fun hP => ⟨_, rfl, hP⟩, ?_⟩
    rintro ⟨i, ⟨⟩, hP⟩
    exact hP

theorem DescribeAll.exists_tokenPosition (hall : DescribeAll table groups headers)
    (hg : g ∈ groups) : ∃ i, Route.tokenPosition table g.tokenIn = .ok i := by
  obtain ⟨i, hi, -⟩ := (hall.forall_tokenIn_iff (P := fun _ => True)).1 (fun _ _ => trivial) g hg
  exact ⟨i, hi⟩

theorem DescribeAll.parts_le (hall : DescribeAll table groups headers)
    (hfractions : ∀ g ∈ groups, Route.isFraction g.split = true) :
    ∀ h ∈ headers, h.parts ≤ Wire.fractionScale := by
  induction hall with
  | nil => exact List.forall_mem_nil _
  | cons hhead _ ih =>
    obtain ⟨hfraction, hothers⟩ := List.forall_mem_cons.1 hfractions
    exact List.forall_mem_cons.2 ⟨hhead.parts_le hfraction, ih hothers⟩

/-- The hops fit exactly if the fractions of the swaps do. -/
theorem DescribeAll.sharesFit_iff_swaps (hall : DescribeAll table groups headers)
    (hunforked : Route.Unforked groups)
    (hfractions : ∀ g ∈ groups, Route.isFraction g.split = true) :
    SharesFit headers ↔ Route.SharesFit (groups.flatMap SwapGroup.swaps) := by
  rw [SharesFit, hall.forall_tokenIn_iff]
  constructor
  · intro hfit token htoken
    obtain ⟨s, hs, rfl⟩ := Route.mem_sources.1 htoken
    obtain ⟨g, hg, hs⟩ := List.mem_flatMap.1 hs
    rcases List.mem_cons.1 hs with rfl | hlater
    · obtain ⟨i, hi, hsum⟩ := hfit g hg
      rwa [hall.dropLast_outOf hunforked hfractions hi] at hsum
    · rw [Route.explicitOf_eq_nil_of_isFork (hunforked g hg s hlater)]
      exact Nat.zero_le _
  · intro hfit g hg
    obtain ⟨i, hi⟩ := hall.exists_tokenPosition hg
    refine ⟨i, hi, ?_⟩
    rw [hall.dropLast_outOf hunforked hfractions hi]
    exact hfit _ (Route.tokenIn_mem_sources hg)

end HopHeader

namespace Strategies

variable {t : Strategies} {order : Order} {router : Address} {approvals : Option ApprovalSource}
  {c : Circumstances} {e : EncodedOrder}

/-- **What the hops out of a token sum to**, for an encoded order with forks.  No hop takes more
parts than there are.  Together, the hops in front of the last one out of each token take no more
exactly if the parts of their fractions sum to no more.  What they take beyond that is what the
tolerance makes up for and one part for each of them, at most; and it is nothing if there are few of
them and the last swap carries no fraction. -/
theorem sharesFit_iff (h : (t.encodeSplit order router approvals).outcome c = .ok e) :
    ∃ headers, HopHeader.readAll? e.swaps = some headers ∧
      (∀ h ∈ headers, h.parts ≤ Wire.fractionScale) ∧
      (HopHeader.SharesFit headers ↔ Route.SharesFit order.swaps) ∧
      (∀ i ∈ headers.map HopHeader.tokenIn, (HopHeader.outOf headers i).dropLast.sum ≤
        Wire.fractionScale + 17 + (HopHeader.outOf headers i).dropLast.length) ∧
      (Route.FewLeaveRest order.swaps → HopHeader.SharesFit headers) := by
  obtain ⟨headers, hread, hall⟩ := exists_describeAll_of_encodeSplit h
  obtain ⟨hsplits, -⟩ := exists_of_encodeSplit h
  have hswaps : (t.groupsOf order).flatMap SwapGroup.swaps = order.swaps :=
    Route.flatMap_swaps_group _ _
  have hunforked : Route.Unforked (t.groupsOf order) := Route.unforked_group
  have hfractions : ∀ g ∈ t.groupsOf order, Route.isFraction g.split = true := fun g hg => by
    refine Route.isFraction_of_checkSplits hsplits ?_
    rw [← hswaps]
    exact List.mem_flatMap_of_mem hg List.mem_cons_self
  have hiff : HopHeader.SharesFit headers ↔ Route.SharesFit order.swaps := by
    rw [hall.sharesFit_iff_swaps hunforked hfractions, hswaps]
  refine ⟨headers, hread, hall.parts_le hfractions, hiff, ?_,
    fun hfew => hiff.2 (Route.sharesFit_of_fewLeaveRest hsplits hfew)⟩
  rw [hall.forall_tokenIn_iff]
  intro g hg
  obtain ⟨i, hi⟩ := hall.exists_tokenPosition hg
  refine ⟨i, hi, ?_⟩
  rw [hall.dropLast_outOf hunforked hfractions hi, List.length_map, hswaps]
  exact Route.sum_share_le hsplits (hswaps ▸ Route.tokenIn_mem_sources hg)

end Strategies

namespace Sample

/-- Where the other hops take a half and a quarter, they leave something over. -/
theorem sharesFit_joined :
    ∃ e, (strategies.encodeSplit joined Sample.router none).outcome {} = .ok e ∧
      ∃ headers, HopHeader.readAll? e.swaps = some headers ∧ HopHeader.SharesFit headers := by
  have hfew : Route.FewLeaveRest joined.swaps := by decide +kernel
  obtain ⟨e, hencodes⟩ := exists_encodeFor isSample_joined (by decide) passes_joined {}
  obtain ⟨headers, hread, -, -, -, hfit⟩ := Strategies.sharesFit_iff hencodes
  exact ⟨e, hencodes, headers, hread, hfit hfew⟩

/-- Two halves of the first token go through two pools, and a sliver of it through a third one. -/
def halved : Order :=
  sale [swap usdcWeth weth usdc half, swap usdcWeth' weth usdc half, swap daiWeth weth dai sliver,
    swap daiUsdc usdc dai]

/-- This order is accepted and encoded, and its first two hops take one part more than there is. -/
theorem not_sharesFit_halved :
    strategies.choose halved = .ok .split ∧ ∃ e headers,
      (strategies.encodeSplit halved Sample.router none).outcome {} = .ok e ∧
        HopHeader.readAll? e.swaps = some headers ∧
        (HopHeader.outOf headers 0).dropLast.sum = Wire.fractionScale + 1 ∧
        ¬ HopHeader.SharesFit headers := by
  have hrun : ((strategies.encodeSplit halved Sample.router none).outcome {}).toOption.isSome =
      true := by decide +kernel
  have hfractions : ∀ g ∈ strategies.groupsOf halved, Route.isFraction g.split = true := by
    decide +kernel
  have hplace : (Route.tokenPosition (strategies.tableOf halved) weth).toOption = some 0 := by
    decide +kernel
  have hsum : ((Route.explicitOf ((strategies.groupsOf halved).flatMap SwapGroup.swaps) weth).map
      Route.share).sum = Wire.fractionScale + 1 := by decide +kernel
  have hnot : ¬ Route.SharesFit ((strategies.groupsOf halved).flatMap SwapGroup.swaps) := by
    decide +kernel
  obtain ⟨e, hencodes⟩ := exists_eq_ok_of_isSome hrun
  obtain ⟨headers, hread, hall⟩ := Strategies.exists_describeAll_of_encodeSplit hencodes
  refine ⟨eq_ok_of_toOption_eq_some (by decide +kernel), e, headers, hencodes, hread, ?_,
    fun hfit => hnot ((hall.sharesFit_iff_swaps Route.unforked_group hfractions).1 hfit)⟩
  rw [hall.dropLast_outOf Route.unforked_group hfractions (eq_ok_of_toOption_eq_some hplace), hsum]

end Sample

end SwapRouter
