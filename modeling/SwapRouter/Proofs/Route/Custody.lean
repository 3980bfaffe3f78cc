import SwapRouter.Proofs.Route.Plain

/-!
# Who holds the tokens along a route

A route is planned hop by hop, and a hop is told one thing of the hop before it: whether that one
has paid the pool of its group.  The receiver of an output is chosen with both groups in sight, the
holder of the next input with this flag and the next group alone.  They agree because the flag is
raised only if the next pool has an address, and that is all that the holder depends on.

The funds of the user are pulled where a group takes the token that the order gives.  So they are
pulled once if no later group takes that token again, nor the wrapped one after the native coin has
been wrapped; with different inputs along the route, only the first group can.

* `TransferSetting.hopOf`, `TransferSetting.getElem?_plan_succ`: a hop, from the hop before it.
* `TransferSetting.isCustodyChain_plan`: **whoever receives an output holds the next input**, from
  the router to the receiver of the order.
* `TransferSetting.isPulledOnce_plan`: **the funds of the user are pulled once**, for the first hop.
-/

namespace SwapRouter

theorem Chain.wrappedToken_ne_native (chain : Chain) : chain.wrappedToken ≠ Address.native := by
  cases chain <;> decide

/-- If what holds only of the head of a list is counted, the count is at most one. -/
theorem countP_le_one {α : Type*} {p : α → Bool} {l : List α}
    (h : ∀ i a, l[i + 1]? = some a → p a = false) : l.countP p ≤ 1 := by
  cases l with
  | nil => exact Nat.zero_le 1
  | cons a l =>
    have hrest : l.countP p = 0 := List.countP_eq_zero.2 fun b hb => by
      obtain ⟨i, hi⟩ := List.getElem?_of_mem hb
      exact Bool.eq_false_iff.1 (h i b hi)
    rw [List.countP_cons, hrest]
    split <;> decide

namespace TransferSetting

variable {s : TransferSetting} {given orderReceiver : Address} {wraps unwraps isPaid : Bool}
  {g next : SwapGroup} {groups : List SwapGroup} {hop : Hop} {i : ℕ}

/-! ## A hop from the one before it -/

/-- The hop of a group with the group behind it, if the hop before it has paid its pool or not. -/
def hopOf (s : TransferSetting) (given orderReceiver : Address) (wraps unwraps isPaid : Bool)
    (g : SwapGroup) (next : Option SwapGroup) : Hop where
  transferType := s.transferType g given wraps isPaid
  receiver := (s.receiver g next orderReceiver unwraps).1
  holder := s.holder g isPaid
  paysNextPool := (s.receiver g next orderReceiver unwraps).2

theorem plan_cons :
    s.plan given orderReceiver wraps unwraps isPaid (g :: groups) =
      s.hopOf given orderReceiver wraps unwraps isPaid g groups.head? ::
        s.plan given orderReceiver wraps unwraps
          (s.hopOf given orderReceiver wraps unwraps isPaid g groups.head?).paysNextPool groups :=
  rfl

theorem getElem?_plan_zero :
    (s.plan given orderReceiver wraps unwraps isPaid groups)[0]? =
      groups[0]?.map fun g => s.hopOf given orderReceiver wraps unwraps isPaid g groups[1]? := by
  cases groups with
  | nil => rfl
  | cons g groups => cases groups <;> rfl

/-- **A hop from the one before it.** -/
theorem getElem?_plan_succ
    (h : (s.plan given orderReceiver wraps unwraps isPaid groups)[i]? = some hop) :
    (s.plan given orderReceiver wraps unwraps isPaid groups)[i + 1]? =
      groups[i + 1]?.map fun g =>
        s.hopOf given orderReceiver wraps unwraps hop.paysNextPool g groups[i + 2]? := by
  induction groups generalizing isPaid i with
  | nil => cases h
  | cons g groups ih =>
    rw [plan_cons] at h ⊢
    cases i with
    | zero =>
      obtain rfl := Option.some.inj h
      exact getElem?_plan_zero
    | succ i => exact ih h

/-- Every hop is the one of its group, whatever it is told of the hop before it. -/
theorem exists_eq_hopOf
    (h : (s.plan given orderReceiver wraps unwraps isPaid groups)[i]? = some hop) :
    ∃ g told, groups[i]? = some g ∧
      hop = s.hopOf given orderReceiver wraps unwraps told g groups[i + 1]? := by
  induction groups generalizing isPaid i with
  | nil => cases h
  | cons g groups ih =>
    rw [plan_cons] at h
    cases i with
    | zero =>
      refine ⟨g, isPaid, rfl, ?_⟩
      obtain rfl := Option.some.inj h
      cases groups <;> rfl
    | succ i => exact ih h

/-! ## Custody -/

/-- The output of a group goes to the pool of the next one if the protocols allow it and the pool has
an address, and else to the router.  A pool is paid only if both protocols may be chained and the
next one takes its input before it swaps. -/
structure HandsOn (s : TransferSetting) (g next : SwapGroup) (hop : Hop) : Prop where
  receiver : hop.receiver = if hop.paysNextPool then next.entryPool.normal else s.router.normal
  pays_iff : hop.paysNextPool = true ↔
    s.capabilities.allowsDirectTransfer g.protocol next.protocol = true ∧
      next.entryPool.isWellFormed = true
  chained : hop.paysNextPool = true →
    s.capabilities.isUnsupportedForChaining g.protocol = false ∧
      s.capabilities.isUnsupportedForChaining next.protocol = false ∧
      s.capabilities.needsInTransfer next.protocol = true

/-- Hops hand tokens on along groups.  The router holds the first input, whoever receives an output
holds the next input, and the last output leaves for the receiver of the order, or stays with the
router to be unwrapped. -/
structure IsCustodyChain (s : TransferSetting) (orderReceiver : Address) (unwraps : Bool)
    (groups : List SwapGroup) (hops : List Hop) : Prop where
  length_eq : hops.length = groups.length
  start : ∀ hop, hops[0]? = some hop → hop.holder = s.router.normal
  handed : ∀ i hop hop', hops[i]? = some hop → hops[i + 1]? = some hop' →
    hop'.holder = hop.receiver
  between : ∀ i g next hop, groups[i]? = some g → groups[i + 1]? = some next →
    hops[i]? = some hop → s.HandsOn g next hop
  finish : ∀ hop, hops.getLast? = some hop → hop.paysNextPool = false ∧
    hop.receiver = if unwraps then s.router.normal else orderReceiver.normal

/-- Whoever receives the output of a group holds the input of the next one. -/
theorem holder_eq_receiver :
    s.holder next (s.receiver g (some next) orderReceiver unwraps).2 =
      (s.receiver g (some next) orderReceiver unwraps).1 := by
  unfold receiver
  dsimp only
  split
  next hpays =>
    rw [Bool.and_eq_true] at hpays
    rw [holder, hpays.2]
    rfl
  next => rfl

theorem handsOn_hopOf :
    s.HandsOn g next (s.hopOf given orderReceiver wraps unwraps isPaid g (some next)) := by
  have hreceiver : s.receiver g (some next) orderReceiver unwraps =
      if s.capabilities.allowsDirectTransfer g.protocol next.protocol
          && next.entryPool.isWellFormed then
        (next.entryPool.normal, true) else (s.router.normal, false) := rfl
  have hpays : (s.hopOf given orderReceiver wraps unwraps isPaid g (some next)).paysNextPool = true ↔
      s.capabilities.allowsDirectTransfer g.protocol next.protocol = true ∧
        next.entryPool.isWellFormed = true := by
    show (s.receiver g (some next) orderReceiver unwraps).2 = true ↔ _
    rw [hreceiver, ← Bool.and_eq_true]
    split
    next hdirect => exact iff_of_true rfl hdirect
    next hdirect => exact iff_of_false Bool.false_ne_true hdirect
  refine ⟨?_, hpays, ?_⟩
  · show (s.receiver g (some next) orderReceiver unwraps).1 =
      if (s.receiver g (some next) orderReceiver unwraps).2 then next.entryPool.normal
        else s.router.normal
    rw [hreceiver]
    split <;> rfl
  · intro h
    obtain ⟨hdirect, -⟩ := hpays.1 h
    simp only [Capabilities.allowsDirectTransfer, Bool.and_eq_true, Bool.not_eq_true'] at hdirect
    obtain ⟨⟨⟨hfrom, hto⟩, hneeds⟩, -⟩ := hdirect
    exact ⟨hfrom, hto, hneeds⟩

/-- The hop of a group hands its output on to the group behind it. -/
theorem handsOn_of_plan (hg : groups[i]? = some g) (hnext : groups[i + 1]? = some next)
    (hhop : (s.plan given orderReceiver wraps unwraps isPaid groups)[i]? = some hop) :
    s.HandsOn g next hop := by
  obtain ⟨g', told, hg', rfl⟩ := exists_eq_hopOf hhop
  obtain rfl : g = g' := Option.some.inj (hg.symm.trans hg')
  rw [hnext]
  exact handsOn_hopOf

/-- The input of the first group is held by the router. -/
theorem holder_of_plan_zero
    (hhop : (s.plan given orderReceiver wraps unwraps false groups)[0]? = some hop) :
    hop.holder = s.router.normal := by
  rw [getElem?_plan_zero, Option.map_eq_some_iff] at hhop
  obtain ⟨g, -, rfl⟩ := hhop
  rfl

/-- The input of a later group is held by whoever receives the output of the one before it. -/
theorem holder_of_plan_succ {hop' : Hop}
    (hhop : (s.plan given orderReceiver wraps unwraps isPaid groups)[i]? = some hop)
    (hhop' : (s.plan given orderReceiver wraps unwraps isPaid groups)[i + 1]? = some hop') :
    hop'.holder = hop.receiver := by
  rw [getElem?_plan_succ hhop, Option.map_eq_some_iff] at hhop'
  obtain ⟨next, hnext, rfl⟩ := hhop'
  obtain ⟨g, told, -, rfl⟩ := exists_eq_hopOf hhop
  rw [hnext]
  exact holder_eq_receiver

/-- **Whoever receives an output holds the next input**, for the plan of any groups. -/
theorem isCustodyChain_plan (s : TransferSetting) (given orderReceiver : Address)
    (wraps unwraps : Bool) (groups : List SwapGroup) :
    s.IsCustodyChain orderReceiver unwraps groups
      (s.plan given orderReceiver wraps unwraps false groups) := by
  have hlength : (s.plan given orderReceiver wraps unwraps false groups).length = groups.length :=
    Strategies.length_plan
  refine ⟨hlength, fun hop => holder_of_plan_zero, fun i hop hop' => holder_of_plan_succ,
    fun i g next hop => handsOn_of_plan, ?_⟩
  -- the last hop has no group behind it
  intro hop hhop
  rw [List.getLast?_eq_getElem?] at hhop
  obtain ⟨g, told, hg, rfl⟩ := exists_eq_hopOf hhop
  have hpos : 0 < groups.length := Nat.zero_lt_of_lt (List.getElem?_eq_some_iff.1 hg).1
  have hnone : groups[(s.plan given orderReceiver wraps unwraps false groups).length - 1 + 1]? =
      none := by
    rw [hlength, Nat.sub_add_cancel hpos, List.getElem?_eq_none_iff]
  rw [hnone]
  exact ⟨rfl, rfl⟩

/-! ## The funds of the user -/

/-- A group that takes neither the token that the order gives, unless that is the native coin, nor
the one that has been wrapped is paid from the router or by the pool before it. -/
theorem transferType_of_later (hgiven : g.tokenIn = given → given = Address.native)
    (hwrapped : wraps = true → g.tokenIn ≠ s.chain.wrappedToken) :
    s.transferType g given wraps isPaid =
      if g.tokenIn ≠ Address.native ∧ s.capabilities.needsInTransfer g.protocol = true ∧
        isPaid = false then .transfer else .none := by
  unfold transferType
  by_cases hnative : g.tokenIn = Address.native
  · simp [hnative]
  · have hne : g.tokenIn ≠ given := fun h => hnative (h.trans (hgiven h))
    have hwrap : (wraps && decide (g.tokenIn = s.chain.wrappedToken)) = false := by
      cases wraps with
      | false => rfl
      | true => simpa using hwrapped rfl
    cases hneeds : s.capabilities.needsInTransfer g.protocol <;> cases isPaid <;>
      simp [hnative, hne, hwrap]

/-- The first group takes what the router has wrapped, or the funds of the user. -/
theorem transferType_of_first
    (hfirst : g.tokenIn = if wraps then s.chain.wrappedToken else given) :
    (s.transferType g given wraps isPaid = .transferFrom ↔
      s.userTransfer ≠ .none ∧ g.tokenIn ≠ Address.native ∧ wraps = false) ∧
    (wraps = true → s.transferType g given wraps isPaid = .transfer) := by
  unfold transferType
  cases wraps with
  | true =>
    have hnative : g.tokenIn ≠ Address.native := hfirst ▸ s.chain.wrappedToken_ne_native
    have hwrapped : g.tokenIn = s.chain.wrappedToken := hfirst
    simp [hwrapped, s.chain.wrappedToken_ne_native]
  | false =>
    have hgiven : g.tokenIn = given := hfirst
    by_cases hnative : given = Address.native
    · simp [hgiven, hnative]
    · by_cases huser : s.userTransfer = .none
      · cases s.capabilities.needsInTransfer g.protocol <;> simp [hgiven, hnative, huser]
      · simp [hgiven, hnative, huser]

/-- The output of a group goes straight to the pool of the next one, and that pool has the address of the
router.  What the router receives so is the pool's, not left with the router to be handed on. -/
def paysRouterAsPool (s : TransferSetting) (g next : SwapGroup) : Bool :=
  decide (next.entryPool.normal = s.router.normal) && next.entryPool.isWellFormed
    && s.capabilities.allowsDirectTransfer g.protocol next.protocol

/-- The next pool is left unpaid exactly if the router is paid, other than as that pool. -/
theorem HandsOn.paysNextPool_eq_false_iff (h : s.HandsOn g next hop) :
    hop.paysNextPool = false ↔
      hop.receiver = s.router.normal ∧ s.paysRouterAsPool g next = false := by
  have hreceiver := h.receiver
  cases hpays : hop.paysNextPool with
  | true =>
    rw [hpays, if_pos rfl] at hreceiver
    obtain ⟨hdirect, hpool⟩ := h.pays_iff.1 hpays
    refine iff_of_false Bool.true_eq_false.mp fun ⟨hrouter, has⟩ => ?_
    rw [paysRouterAsPool, hdirect, hpool, ← hreceiver, decide_eq_true hrouter] at has
    exact Bool.noConfusion has
  | false =>
    rw [hpays, if_neg Bool.false_ne_true] at hreceiver
    refine iff_of_true rfl ⟨hreceiver, Bool.eq_false_iff.2 fun has => ?_⟩
    rw [paysRouterAsPool, Bool.and_eq_true, Bool.and_eq_true] at has
    rw [h.pays_iff.2 ⟨has.2, has.1.2⟩] at hpays
    exact Bool.noConfusion hpays

/-- How the inputs along a route reach their pools: there is a hop for every group.  The funds of the
user are pulled at most once, and only for the first group.  Every later input is pushed by the router
if the pool asks for it and the hop before has paid the router, other than as this very pool. -/
structure IsPulledOnce (s : TransferSetting) (wraps : Bool) (groups : List SwapGroup)
    (hops : List Hop) : Prop where
  length_eq : hops.length = groups.length
  count_le : hops.countP (fun hop => hop.transferType = .transferFrom) ≤ 1
  pulled_iff : ∀ i g hop, groups[i]? = some g → hops[i]? = some hop →
    (hop.transferType = .transferFrom ↔
      i = 0 ∧ s.userTransfer ≠ .none ∧ g.tokenIn ≠ Address.native ∧ wraps = false)
  wrapped : wraps = true → ∀ hop, hops[0]? = some hop → hop.transferType = .transfer
  handed : ∀ i g next before hop, groups[i]? = some g → groups[i + 1]? = some next →
    hops[i]? = some before → hops[i + 1]? = some hop →
    hop.transferType =
      if next.tokenIn ≠ Address.native ∧ s.capabilities.needsInTransfer next.protocol = true ∧
        before.receiver = s.router.normal ∧ s.paysRouterAsPool g next = false then .transfer else .none

/-- The first hop reaches its pool as the first group asks for it. -/
theorem transferType_plan_zero (hg : groups[0]? = some g)
    (hhop : (s.plan given orderReceiver wraps unwraps isPaid groups)[0]? = some hop) :
    hop.transferType = s.transferType g given wraps isPaid := by
  rw [getElem?_plan_zero, hg] at hhop
  obtain rfl := Option.some.inj hhop
  rfl

section

variable {before : Hop} (hdistinct : (groups.map SwapGroup.tokenIn).Nodup)
  (hfirst : ∀ g, groups[0]? = some g → g.tokenIn = if wraps then s.chain.wrappedToken else given)
  (hnative : wraps = true → given = Address.native)

include hdistinct hfirst hnative

/-- A group behind the first one takes another token than the order gives, unless that is the native
coin that is wrapped, and another one than has been wrapped. -/
theorem tokenIn_ne_of_later (hg : groups[i + 1]? = some g) :
    (g.tokenIn = given → given = Address.native) ∧
      (wraps = true → g.tokenIn ≠ s.chain.wrappedToken) := by
  cases groups with
  | nil => cases hg
  | cons first rest =>
    have hmem : g ∈ rest := List.mem_of_getElem? hg
    have hne : g.tokenIn ≠ first.tokenIn := fun heq =>
      (List.nodup_cons.1 hdistinct).1 (heq ▸ List.mem_map_of_mem hmem)
    rw [hfirst first rfl] at hne
    cases wraps with
    | true => exact ⟨fun _ => hnative rfl, fun _ => hne⟩
    | false => exact ⟨fun heq => absurd heq hne, fun h => absurd h Bool.false_ne_true⟩

/-- A hop behind the first one takes what the one before it has left with the router, if it has not
paid the pool already. -/
theorem transferType_plan_succ (hnext : groups[i + 1]? = some next)
    (hbefore : (s.plan given orderReceiver wraps unwraps isPaid groups)[i]? = some before)
    (hhop : (s.plan given orderReceiver wraps unwraps isPaid groups)[i + 1]? = some hop) :
    hop.transferType =
      if next.tokenIn ≠ Address.native ∧ s.capabilities.needsInTransfer next.protocol = true ∧
        before.paysNextPool = false then .transfer else .none := by
  rw [getElem?_plan_succ hbefore, hnext] at hhop
  obtain rfl := Option.some.inj hhop
  obtain ⟨hgiven, hwrapped⟩ := tokenIn_ne_of_later hdistinct hfirst hnative hnext
  exact transferType_of_later hgiven hwrapped

/-- No hop behind the first one pulls the funds of the user. -/
theorem transferType_plan_succ_ne
    (hhop : (s.plan given orderReceiver wraps unwraps isPaid groups)[i + 1]? = some hop) :
    hop.transferType ≠ .transferFrom := by
  obtain ⟨next, told, hnext, -⟩ := exists_eq_hopOf hhop
  obtain ⟨hlt, -⟩ := List.getElem?_eq_some_iff.1 hhop
  rw [transferType_plan_succ hdistinct hfirst hnative hnext
    (List.getElem?_eq_getElem (Nat.lt_of_succ_lt hlt)) hhop]
  split <;> exact TransferType.noConfusion

end

/-- **The funds of the user are pulled once**, along groups with different inputs of which the first
is what the order gives or the router has wrapped. -/
theorem isPulledOnce_plan (s : TransferSetting) (given orderReceiver : Address)
    (wraps unwraps : Bool) (groups : List SwapGroup)
    (hdistinct : (groups.map SwapGroup.tokenIn).Nodup)
    (hfirst : ∀ g, groups[0]? = some g →
      g.tokenIn = if wraps then s.chain.wrappedToken else given)
    (hnative : wraps = true → given = Address.native) :
    s.IsPulledOnce wraps groups (s.plan given orderReceiver wraps unwraps false groups) := by
  have hnever : ∀ i hop, (s.plan given orderReceiver wraps unwraps false groups)[i + 1]? =
      some hop → hop.transferType ≠ .transferFrom := fun i hop =>
    transferType_plan_succ_ne hdistinct hfirst hnative
  refine ⟨Strategies.length_plan, ?_, ?_, ?_, ?_⟩
  · exact countP_le_one fun i hop hhop => decide_eq_false (hnever i hop hhop)
  · intro i g hop hg hhop
    cases i with
    | zero =>
      rw [transferType_plan_zero hg hhop, (transferType_of_first (hfirst g hg)).1]
      exact ⟨fun h => ⟨rfl, h⟩, fun h => h.2⟩
    | succ i =>
      exact ⟨fun h => absurd h (hnever i hop hhop), fun h => absurd h.1 (Nat.succ_ne_zero i)⟩
  · intro hwraps hop hhop
    obtain ⟨g, -, hg, -⟩ := exists_eq_hopOf hhop
    rw [transferType_plan_zero hg hhop]
    exact (transferType_of_first (hfirst g hg)).2 hwraps
  · intro i g next before hop hg hnext hbefore hhop
    have hhands : s.HandsOn g next before := handsOn_of_plan hg hnext hbefore
    rw [transferType_plan_succ hdistinct hfirst hnative hnext hbefore hhop]
    simp only [hhands.paysNextPool_eq_false_iff]

end TransferSetting

namespace Sample

/-- Three pools after each other.  The second is paid by the first; the third has no address, so that its
input is left with the router. -/
def relay : List SwapGroup :=
  [⟨swap usdcWeth weth usdc, []⟩, ⟨swap daiUsdc usdc dai, []⟩, ⟨swap (pool "0x" [dai, weth]) dai weth, []⟩]

/-- The route of an order that gives the native coin, which the router wraps. -/
theorem isPulledOnce_relay :
    (strategies.transfers (sale []) router).IsPulledOnce true relay
      ((strategies.transfers (sale []) router).plan Address.native user true false false relay) ∧
    ((strategies.transfers (sale []) router).plan Address.native user true false false relay).map
      Hop.transferType = [.transfer, .none, .transfer] :=
  ⟨TransferSetting.isPulledOnce_plan _ _ _ _ _ _ (by decide)
    (fun g hg => by obtain rfl := Option.some.inj hg; decide) fun _ => rfl, by decide +kernel⟩

/-- Two pools after each other, of which the second has the address of the router. -/
def routerPool : List SwapGroup :=
  [⟨swap usdcWeth weth usdc, []⟩, ⟨swap (pool router.text [dai, usdc]) usdc dai, []⟩]

/-- Not every hop behind one that has paid the router is handed its input by the router: the first pool
pays the second one here, and that is the router. -/
theorem not_handsOn_routerPool : ¬ ∀ (s : TransferSetting) (given orderReceiver : Address)
    (wraps unwraps : Bool) (groups : List SwapGroup),
    (∀ i g next, groups[i]? = some g → groups[i + 1]? = some next → g.tokenOut = next.tokenIn) →
    (groups.map SwapGroup.tokenIn).Nodup →
    (∀ g, groups[0]? = some g → g.tokenIn = if wraps then s.chain.wrappedToken else given) →
    (wraps = true → given = Address.native) →
    ∀ i next before hop, groups[i + 1]? = some next →
      (s.plan given orderReceiver wraps unwraps false groups)[i]? = some before →
      (s.plan given orderReceiver wraps unwraps false groups)[i + 1]? = some hop →
      (hop.transferType = .transfer ↔ next.tokenIn ≠ Address.native ∧
        s.capabilities.needsInTransfer next.protocol = true ∧ before.receiver = s.router.normal) := by
  intro h
  have hchain : ∀ i g next, routerPool[i]? = some g → routerPool[i + 1]? = some next →
      g.tokenOut = next.tokenIn := by
    intro i g next hg hnext
    match i with
    | 0 =>
      obtain rfl := Option.some.inj hg
      obtain rfl := Option.some.inj hnext
      rfl
    | i + 1 => cases hnext
  have hhop := h (strategies.transfers (sale []) router) weth user false false routerPool hchain (by decide)
    (fun g hg => by obtain rfl := Option.some.inj hg; rfl) Bool.noConfusion 0 _ _ _ rfl rfl rfl
  exact absurd hhop (by decide +kernel)

end Sample

end SwapRouter
