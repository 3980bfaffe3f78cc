import SwapRouter.Proofs.Fraction
import SwapRouter.Proofs.Route.HopHeader
import SwapRouter.Proofs.Route.Remainder

/-!
# Which hop takes the rest of a token

No parts in the header of a hop mean the rest of its token, and each token should have one such hop,
behind all others that take it.  A swap is written as the rest if no later swap takes its token, and
such a swap always starts a hop: a swap behind the first one of a group is the only one that takes
its token.  So the last hop out of a token takes the rest of it.  Another one may do so as well, for
the checks see to it that its fraction is not zero, and not that the parts of it are not.

* `HopHeader.outOf`, `HopHeader.RestLast`: the hops out of each token, and what is asked of them.
* `Route.FractionsKept`: every fraction is more than half of a part, the last one out of each token
  apart.
* `Strategies.restLast_iff`: **the last hop out of a token is the only one that takes the rest of it
  exactly if the fractions are more than half of a part.**
-/

namespace SwapRouter

/-! ## Swaps that are the last out of their token -/

namespace Route

variable {capabilities : Capabilities} {swaps later : List Swap} {s : Swap} {t : Address}
  {g : SwapGroup} {groups : List SwapGroup}

/-- Every swap behind which another one takes its token carries more than half of a part. -/
def FractionsKept (swaps : List Swap) : Prop :=
  swaps.Pairwise fun s later => s.tokenIn = later.tokenIn → Wire.halfPart.lt s.split = true

instance (swaps : List Swap) : Decidable (FractionsKept swaps) :=
  inferInstanceAs (Decidable (List.Pairwise _ swaps))

theorem isLastOut_eq_false_iff :
    isLastOut s later = false ↔ ∃ s' ∈ later, s'.tokenIn = s.tokenIn := by
  rw [← Bool.not_eq_true, isLastOut_iff, not_not, mem_sources]

theorem fractionsKept_cons : FractionsKept (s :: later) ↔
    (isLastOut s later = false → Wire.halfPart.lt s.split = true) ∧ FractionsKept later := by
  rw [FractionsKept, List.pairwise_cons]
  refine and_congr_left' ⟨fun h hlast => ?_, fun h s' hs' heq => ?_⟩
  · obtain ⟨s', hs', heq⟩ := isLastOut_eq_false_iff.1 hlast
    exact h s' hs' heq.symm
  · exact h (isLastOut_eq_false_iff.2 ⟨s', hs', heq.symm⟩)

/-- The token of a first swap is no fork exactly if no later swap takes it. -/
theorem isFork_cons_self : isFork (s :: later) s.tokenIn = false ↔ isLastOut s later = true := by
  rw [isFork, outgoingOf_cons, if_pos rfl, List.length_cons, decide_eq_false_iff_not, not_lt,
    Nat.succ_le_succ_iff, Nat.le_zero, List.length_eq_zero_iff, outgoingOf, List.filter_eq_nil_iff,
    isLastOut, List.all_eq_true]
  simp

/-! ## Swaps behind the first one of a group -/

/-- The swaps behind the first one of each group take tokens that are no forks. -/
def Unforked (groups : List SwapGroup) : Prop :=
  ∀ g ∈ groups, ∀ s ∈ g.later, isFork (groups.flatMap SwapGroup.swaps) s.tokenIn = false

/-- What stands behind a first entry stands behind some entry. -/
theorem exists_pair_infix_of_mem {α : Type} {a x : α} {l : List α} (h : a ∈ l) :
    ∃ b, [b, a] <:+: x :: l := by
  induction l generalizing x with
  | nil => cases h
  | cons y l ih =>
    rcases List.mem_cons.1 h with rfl | hmem
    · exact ⟨x, pair_infix_cons.2 (Or.inl ⟨rfl, rfl⟩)⟩
    · obtain ⟨b, hb⟩ := ih hmem
      exact ⟨b, pair_infix_cons.2 (Or.inr hb)⟩

/-- Only a swap whose token is no fork joins the one before it. -/
theorem unforked_group : Unforked (group capabilities swaps) := by
  intro g hg s hs
  obtain ⟨before, hpair⟩ := exists_pair_infix_of_mem (x := g.first) hs
  obtain ⟨-, hjoins⟩ := merged_iff.1 ⟨g, hg, hpair⟩
  rw [flatMap_swaps_group]
  exact (joins_iff.1 hjoins).2.2.2.2

theorem Unforked.of_cons (h : Unforked (g :: groups)) : Unforked groups := by
  intro g' hg' s hs
  refine isFork_eq_false_of_sublist ?_ (h g' (List.mem_cons_of_mem g hg') s hs)
  exact List.sublist_append_right g.swaps _

/-- No swap behind the first one of a group takes the token of a first group. -/
theorem Unforked.tokenIn_ne (h : Unforked (g :: groups)) {g' : SwapGroup} (hg' : g' ∈ g :: groups)
    (hs : s ∈ g'.later) : s.tokenIn ≠ g.tokenIn := by
  intro heq
  -- the first swap of the first group would be another one that takes the token
  have hfork := h g' hg' s hs
  rw [heq] at hfork
  have hmem : s ∈ g.later ++ groups.flatMap SwapGroup.swaps := by
    rcases List.mem_cons.1 hg' with rfl | hmem
    · exact List.mem_append_left _ hs
    · exact List.mem_append_right _ (List.mem_flatMap_of_mem hmem (List.mem_cons_of_mem _ hs))
  exact absurd (isFork_cons_self.1 hfork)
    (Bool.eq_false_iff.1 (isLastOut_eq_false_iff.2 ⟨s, hmem, heq⟩))

/-- The first swap of a group is the last out of its token exactly if no later group takes it. -/
theorem Unforked.isLastOut_iff (h : Unforked (g :: groups)) :
    isLastOut g.first (g.later ++ groups.flatMap SwapGroup.swaps) = true ↔
      ∀ g' ∈ groups, g'.tokenIn ≠ g.tokenIn := by
  rw [← not_iff_not, Bool.not_eq_true, isLastOut_eq_false_iff]
  push Not
  constructor
  · rintro ⟨s, hs, heq⟩
    rcases List.mem_append.1 hs with hlater | hrest
    · exact absurd heq (h.tokenIn_ne List.mem_cons_self hlater)
    · obtain ⟨g', hg', hs'⟩ := List.mem_flatMap.1 hrest
      rcases List.mem_cons.1 hs' with rfl | hlater
      · exact ⟨g', hg', heq⟩
      · exact absurd heq (h.tokenIn_ne (List.mem_cons_of_mem g hg') hlater)
  · rintro ⟨g', hg', heq⟩
    refine ⟨g'.first, List.mem_append_right _ ?_, heq⟩
    exact List.mem_flatMap_of_mem hg' List.mem_cons_self

/-- Swaps whose tokens are no forks carry no fraction that counts. -/
theorem fractionsKept_append {l rest : List Swap}
    (h : ∀ s ∈ l, isFork (l ++ rest) s.tokenIn = false) :
    FractionsKept (l ++ rest) ↔ FractionsKept rest := by
  induction l with
  | nil => rfl
  | cons s l ih =>
    have hlast : isLastOut s (l ++ rest) = true := isFork_cons_self.1 (h s List.mem_cons_self)
    have htail : ∀ s' ∈ l, isFork (l ++ rest) s'.tokenIn = false := fun s' hs' =>
      isFork_eq_false_of_sublist (List.sublist_cons_self s _) (h s' (List.mem_cons_of_mem s hs'))
    rw [List.cons_append, fractionsKept_cons, hlast, ih htail]
    simp

/-- Of the fractions of a group, the one of its first swap counts. -/
theorem Unforked.fractionsKept_iff (h : Unforked (g :: groups)) :
    FractionsKept ((g :: groups).flatMap SwapGroup.swaps) ↔
      (isLastOut g.first (g.later ++ groups.flatMap SwapGroup.swaps) = false →
        Wire.halfPart.lt g.split = true) ∧ FractionsKept (groups.flatMap SwapGroup.swaps) := by
  have hlater : ∀ s ∈ g.later,
      isFork (g.later ++ groups.flatMap SwapGroup.swaps) s.tokenIn = false := fun s hs =>
    isFork_eq_false_of_sublist (List.sublist_cons_self g.first _) (h g List.mem_cons_self s hs)
  rw [List.flatMap_cons, SwapGroup.swaps, List.cons_append, fractionsKept_cons,
    fractionsKept_append hlater]
  rfl

end Route

/-! ## Hops out of a token -/

namespace HopHeader

variable {table : List Address} {groups : List SwapGroup} {g : SwapGroup} {later : List Swap}
  {h : HopHeader} {headers : List HopHeader} {i : ℕ} {p : ℕ} {parts : List ℕ}

/-- The parts of the hops that take the token at a place, in their order. -/
def outOf (headers : List HopHeader) (i : ℕ) : List ℕ :=
  (headers.filter (·.tokenIn = i)).map HopHeader.parts

/-- The last number is zero, and no other one is. -/
def IsOnlyLastZero (parts : List ℕ) : Prop := parts.getLast? = some 0 ∧ parts.count 0 = 1

/-- Of the hops out of each token the last one takes the rest, and no other one does. -/
def RestLast (headers : List HopHeader) : Prop :=
  ∀ i ∈ headers.map HopHeader.tokenIn, IsOnlyLastZero (outOf headers i)

theorem isOnlyLastZero_singleton : IsOnlyLastZero [p] ↔ p = 0 := by
  rw [IsOnlyLastZero, List.getLast?_singleton, Option.some_inj]
  refine and_iff_left_of_imp ?_
  rintro rfl
  rfl

theorem isOnlyLastZero_cons (hne : parts ≠ []) :
    IsOnlyLastZero (p :: parts) ↔ p ≠ 0 ∧ IsOnlyLastZero parts := by
  rw [IsOnlyLastZero, IsOnlyLastZero, List.getLast?_cons_of_ne_nil hne, List.count_cons]
  constructor
  · rintro ⟨hlast, hcount⟩
    have hpos : 0 < parts.count 0 := List.count_pos_iff.2 (List.mem_of_getLast? hlast)
    refine ⟨?_, hlast, by omega⟩
    rintro rfl
    simp at hcount
    omega
  · rintro ⟨hp, hlast, hcount⟩
    exact ⟨hlast, by rw [hcount, if_neg (by simpa using hp)]⟩

theorem outOf_eq_nil_iff : outOf headers i = [] ↔ ∀ h ∈ headers, h.tokenIn ≠ i := by
  rw [outOf, List.map_eq_nil_iff, List.filter_eq_nil_iff]
  simp

theorem outOf_ne_nil_iff : outOf headers i ≠ [] ↔ i ∈ headers.map HopHeader.tokenIn := by
  rw [Ne, outOf_eq_nil_iff, List.mem_map]
  push Not
  rfl

/-- What holds of the hops out of each token, with a hop in front. -/
theorem forall_outOf_cons {P : List ℕ → Prop} :
    (∀ i ∈ (h :: headers).map HopHeader.tokenIn, P (outOf (h :: headers) i)) ↔
      P (h.parts :: outOf headers h.tokenIn) ∧
        ∀ i ∈ headers.map HopHeader.tokenIn, i ≠ h.tokenIn → P (outOf headers i) := by
  have hself : outOf (h :: headers) h.tokenIn = h.parts :: outOf headers h.tokenIn := by
    simp [outOf]
  have hother : ∀ i ≠ h.tokenIn, outOf (h :: headers) i = outOf headers i := fun i hne => by
    simp [outOf, hne.symm]
  rw [List.map_cons, List.forall_mem_cons, hself]
  refine and_congr_right fun hfirst => forall₂_congr fun i _ => ?_
  by_cases hi : i = h.tokenIn
  · rw [hi, hself]
    exact iff_of_true hfirst fun hne => absurd rfl hne
  · rw [hother i hi]
    exact (imp_iff_right hi).symm

/-- The last hops take the rest, for a hop in front: it does so exactly if no other one takes its
token. -/
theorem restLast_cons : RestLast (h :: headers) ↔
    (h.parts = 0 ↔ ∀ h' ∈ headers, h'.tokenIn ≠ h.tokenIn) ∧ RestLast headers := by
  rw [RestLast, forall_outOf_cons, ← outOf_eq_nil_iff]
  by_cases hnil : outOf headers h.tokenIn = []
  · -- the hop in front is the only one out of its token
    rw [hnil, isOnlyLastZero_singleton, iff_true_intro rfl, iff_true]
    refine and_congr_right fun _ => forall₂_congr fun i hi => imp_iff_right ?_
    rintro rfl
    exact outOf_ne_nil_iff.2 hi hnil
  · rw [isOnlyLastZero_cons hnil, iff_false_right hnil, and_assoc]
    refine and_congr_right fun _ => ⟨?_, fun hrest => ⟨?_, fun i hi _ => hrest i hi⟩⟩
    · rintro ⟨hself, hrest⟩ i hi
      by_cases heq : i = h.tokenIn
      · exact heq ▸ hself
      · exact hrest i hi heq
    · exact hrest _ (outOf_ne_nil_iff.1 hnil)

/-! ## Headers and the swaps that they stand for -/

/-- Whether a hop takes the rest of its token. -/
def takesRest (h : HopHeader) : Bool := h.parts = 0

/-- The first swaps of groups that are the last out of their token. -/
def lastOuts : List SwapGroup → List Bool
  | [] => []
  | g :: groups =>
    Route.isLastOut g.first (g.later ++ groups.flatMap SwapGroup.swaps) :: lastOuts groups

/-- A header takes the rest exactly for the last swap out of a token, if the fraction of another one
is more than half of a part. -/
theorem Describes.parts_eq_zero_iff (hh : Describes table g later h)
    (hfraction : Route.isFraction g.split = true) :
    (h.parts = 0 ↔ Route.isLastOut g.first later = true) ↔
      (Route.isLastOut g.first later = false → Wire.halfPart.lt g.split = true) := by
  have hparts := hh.parts
  cases hlast : Route.isLastOut g.first later with
  | true =>
    rw [hlast, if_pos rfl] at hparts
    exact iff_of_true (iff_of_true hparts rfl) fun hfalse => by cases hfalse
  | false =>
    rw [hlast, if_neg Bool.false_ne_true] at hparts
    have hzero := Wire.fractionParts_eq_zero_iff hfraction hparts
    rw [Int.natCast_eq_zero] at hzero
    simp [hzero]

/-- No header tells the place of a token exactly if no group takes it. -/
theorem DescribeAll.forall_tokenIn_ne (hall : DescribeAll table groups headers) {token : Address}
    (hi : Route.tokenPosition table token = .ok i) :
    (∀ h ∈ headers, h.tokenIn ≠ i) ↔ ∀ g ∈ groups, g.tokenIn ≠ token := by
  induction hall with
  | nil => exact iff_of_true (List.forall_mem_nil _) (List.forall_mem_nil _)
  | cons hhead _ ih =>
    rw [List.forall_mem_cons, List.forall_mem_cons, ih]
    exact and_congr_left' (not_congr (Route.tokenPosition_inj hhead.tokenIn hi))

/-- The last hop out of each token takes the rest of it. -/
theorem DescribeAll.getLast?_outOf (hall : DescribeAll table groups headers)
    (hunforked : Route.Unforked groups) :
    ∀ i ∈ headers.map HopHeader.tokenIn, (outOf headers i).getLast? = some 0 := by
  induction hall with
  | nil => exact List.forall_mem_nil _
  | @cons g groups h headers hhead htail ih =>
    refine (forall_outOf_cons (P := fun l => l.getLast? = some 0)).2
      ⟨?_, fun i hi _ => ih hunforked.of_cons i hi⟩
    by_cases hnil : outOf headers h.tokenIn = []
    · have hne := (htail.forall_tokenIn_ne hhead.tokenIn).1 (outOf_eq_nil_iff.1 hnil)
      have hlast := hunforked.isLastOut_iff.2 hne
      have hparts := hhead.parts
      rw [if_pos hlast] at hparts
      rw [hnil, hparts]
      rfl
    · rw [List.getLast?_cons_of_ne_nil hnil]
      exact ih hunforked.of_cons _ (outOf_ne_nil_iff.1 hnil)

/-- Only the last hops take the rest exactly if the fractions are more than half of a part. -/
theorem DescribeAll.restLast_iff_fractionsKept (hall : DescribeAll table groups headers)
    (hunforked : Route.Unforked groups)
    (hfractions : ∀ g ∈ groups, Route.isFraction g.split = true) :
    RestLast headers ↔ Route.FractionsKept (groups.flatMap SwapGroup.swaps) := by
  induction hall with
  | nil => exact iff_of_true (List.forall_mem_nil _) List.Pairwise.nil
  | cons hhead htail ih =>
    obtain ⟨hfraction, hothers⟩ := List.forall_mem_cons.1 hfractions
    rw [restLast_cons, hunforked.fractionsKept_iff, ih hunforked.of_cons hothers,
      ← hhead.parts_eq_zero_iff hfraction, hunforked.isLastOut_iff,
      htail.forall_tokenIn_ne hhead.tokenIn]

/-- The hops that take the rest are those whose first swap is the last out of its token, exactly if
the fractions are more than half of a part. -/
theorem DescribeAll.map_takesRest_iff (hall : DescribeAll table groups headers)
    (hunforked : Route.Unforked groups)
    (hfractions : ∀ g ∈ groups, Route.isFraction g.split = true) :
    headers.map takesRest = lastOuts groups ↔
      Route.FractionsKept (groups.flatMap SwapGroup.swaps) := by
  induction hall with
  | nil => exact iff_of_true rfl List.Pairwise.nil
  | cons hhead _ ih =>
    obtain ⟨hfraction, hothers⟩ := List.forall_mem_cons.1 hfractions
    rw [List.map_cons, lastOuts, List.cons_eq_cons, hunforked.fractionsKept_iff,
      ih hunforked.of_cons hothers, ← hhead.parts_eq_zero_iff hfraction, takesRest,
      Bool.eq_iff_iff, decide_eq_true_iff]

end HopHeader

/-! ## Fractions of an order -/

/-- The check of the fractions lets fractions between zero and one pass. -/
theorem Route.isFraction_of_checkSplits {swaps : List Swap} {s : Swap}
    (h : checkSplits swaps = .ok ()) (hs : s ∈ swaps) : isFraction s.split = true := by
  obtain ⟨⟨⟩, hrange, -⟩ := bind_eq_ok_iff.1 (checkSplitsOf_of_checkSplits h hs)
  rw [checkRange] at hrange
  split at hrange
  next => cases hrange
  next hfind =>
    have hnone := List.find?_eq_none.1 hfind s (mem_outgoingOf.2 ⟨hs, rfl⟩)
    simpa using hnone

namespace Strategies

variable {t : Strategies} {order : Order} {router : Address} {approvals : Option ApprovalSource}
  {c : Circumstances} {e : EncodedOrder}

/-- **Which hops take the rest of their token**, for an encoded order with forks.  The last hop out
of each token always does.  It is the only one, and the rest is taken by those hops alone whose
first swap is the last out of its token, exactly if every other swap carries more than half of a
part. -/
theorem restLast_iff (h : (t.encodeSplit order router approvals).outcome c = .ok e) :
    ∃ headers, HopHeader.readAll? e.swaps = some headers ∧
      (∀ i ∈ headers.map HopHeader.tokenIn, (HopHeader.outOf headers i).getLast? = some 0) ∧
      (HopHeader.RestLast headers ↔ Route.FractionsKept order.swaps) ∧
      (headers.map HopHeader.takesRest = HopHeader.lastOuts (t.groupsOf order) ↔
        Route.FractionsKept order.swaps) := by
  obtain ⟨headers, hread, hall⟩ := exists_describeAll_of_encodeSplit h
  obtain ⟨hsplits, -⟩ := exists_of_encodeSplit h
  have hswaps : (t.groupsOf order).flatMap SwapGroup.swaps = order.swaps :=
    Route.flatMap_swaps_group _ _
  have hunforked : Route.Unforked (t.groupsOf order) := Route.unforked_group
  have hfractions : ∀ g ∈ t.groupsOf order, Route.isFraction g.split = true := fun g hg => by
    refine Route.isFraction_of_checkSplits hsplits ?_
    rw [← hswaps]
    exact List.mem_flatMap_of_mem hg List.mem_cons_self
  refine ⟨headers, hread, hall.getLast?_outOf hunforked, ?_, ?_⟩
  · rw [hall.restLast_iff_fractionsKept hunforked hfractions, hswaps]
  · rw [hall.map_takesRest_iff hunforked hfractions, hswaps]

end Strategies

namespace Sample

/-- Where the other hops take a half and a quarter, the last one alone takes the rest. -/
theorem restLast_joined :
    ∃ e, (strategies.encodeSplit joined Sample.router none).outcome {} = .ok e ∧
      ∃ headers, HopHeader.readAll? e.swaps = some headers ∧ HopHeader.RestLast headers := by
  have hkept : Route.FractionsKept joined.swaps := by decide +kernel
  obtain ⟨e, hencodes⟩ := exists_encodeFor isSample_joined (by decide) passes_joined {}
  obtain ⟨headers, hread, -, hrest, -⟩ := Strategies.restLast_iff hencodes
  exact ⟨e, hencodes, headers, hread, hrest.2 hkept⟩

/-- A fraction of one in a thousand million. -/
def sliver : Binary64 := (Numeral.decimal false 1 (-9)).toBinary64

/-- A sliver of the first token goes through one pool, and the rest of it through another. -/
def sliced : Order :=
  sale [swap usdcWeth weth usdc sliver, swap usdcWeth' weth usdc, swap daiUsdc usdc dai]

/-- This order is accepted and encoded, and its first hop takes the rest of the first token. -/
theorem not_restLast_sliced :
    strategies.choose sliced = .ok .split ∧ ∃ e headers,
      (strategies.encodeSplit sliced Sample.router none).outcome {} = .ok e ∧
        HopHeader.readAll? e.swaps = some headers ∧ ¬ HopHeader.RestLast headers := by
  have hrun : ((strategies.encodeSplit sliced Sample.router none).outcome {}).toOption.isSome =
      true := by decide +kernel
  have hfractions : ∀ g ∈ strategies.groupsOf sliced, Route.isFraction g.split = true := by
    decide +kernel
  have hnot : ¬ Route.FractionsKept ((strategies.groupsOf sliced).flatMap SwapGroup.swaps) := by
    decide +kernel
  obtain ⟨e, hencodes⟩ := exists_eq_ok_of_isSome hrun
  obtain ⟨headers, hread, hall⟩ := Strategies.exists_describeAll_of_encodeSplit hencodes
  refine ⟨eq_ok_of_toOption_eq_some (by decide +kernel), e, headers, hencodes, hread,
    fun hrest => ?_⟩
  exact hnot ((hall.restLast_iff_fractionsKept Route.unforked_group hfractions).1 hrest)

end Sample

end SwapRouter
