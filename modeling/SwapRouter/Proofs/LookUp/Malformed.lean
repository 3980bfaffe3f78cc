import SwapRouter.Proofs.LookUp.Call
import SwapRouter.Proofs.Reason.Order

/-!
# Malformed orders ask nothing

Some orders are refused for what they are: they fix their output, there is no router for them, a
protocol has no encoder, or their swaps do not fit together.  All of this is checked before the first
swap is encoded and before a permit is made, so such an order costs nobody anything.

The checks are spread out.  Those of all orders stand in `encodeOrder` and `Strategies.choose`; the
path is checked by each of the three functions of the router, and the fractions by the one for forks
alone.  That one is enough: fractions are out of place only where an order forks, and then this
function is chosen.  So an order is malformed exactly if it does not pass the checks of the function
that is chosen for it, and each function makes its checks first.

* `RouterEncoder.isMalformed_iff`: which orders do not pass.
* `RouterEncoder.isInstant_encodeOrder`: they come to a reason at once.
* `RouterEncoder.refusesUnasked_of_isMalformed`: **a malformed order is refused, and asks nothing**,
  alone or beside others.
* `RouterEncoder.exists_not_isMalformed_of_asked`: in a call, whatever is asked is asked for an order
  that is not malformed.
-/

namespace SwapRouter

open Event

variable {order : Order} {f : RouterFunction} {router : Address} {approvals : Option ApprovalSource}

/-- What does not fail has a value. -/
theorem eq_ok_of_not_error {ε : Type} {x : Except ε Unit} (h : ∀ e, x ≠ .error e) : x = .ok () := by
  cases x with
  | ok u => rfl
  | error e => exact absurd rfl (h e)

theorem Session.after_nil (s : Session) : s.after [] = s := by
  cases s with
  | mk known asked => cases known <;> simp [Session.after]

/-- What comes to an outcome at once and asks nothing leaves a session as it is. -/
theorem Encode.IsInstant.run {α : Type} {x : Encode α} {outcome : Except Failure α}
    (hx : x.IsInstant outcome []) (s : Session) : x.run s = (outcome, s) := by
  refine Prod.ext (hx.outcome _) ?_
  change s.after (x.together.course { known := s.known }).ending.asked = s
  rw [Encode.together]
  dsimp only
  rw [hx.ending]
  exact s.after_nil

/-! ## Fractions without a fork -/

namespace Route

variable {swaps : List Swap}

theorem isFraction_of_isZero {x : Binary64} (h : x.isZero = true) : isFraction x = true := by
  obtain ⟨negative, hx⟩ : ∃ negative, x = .zero negative := by
    cases x with
    | nan => cases h
    | infinite negative => cases h
    | finite negative units hunits =>
      obtain rfl : units = 0 := by simpa [Binary64.isZero] using h
      exact ⟨negative, rfl⟩
  rw [hx]
  cases negative <;> decide +kernel

/-- **Without a fork the fractions pass.** -/
theorem checkSplits_of_hasFork_eq_false (h : hasFork swaps = false) : checkSplits swaps = .ok () := by
  refine forM_eq_ok_iff.2 fun out hout => ?_
  obtain ⟨token, htoken, rfl⟩ := List.mem_map.1 hout
  have hzero : ∀ s ∈ outgoingOf swaps token, s.split.isZero = true := fun s hs =>
    isZero_of_hasFork_eq_false h (mem_outgoingOf.1 hs).1
  have hlen : (outgoingOf swaps token).length ≤ 1 := by
    rw [hasFork, Bool.or_eq_false_iff] at h
    simpa [isFork] using List.any_eq_false.1 h.2 token htoken
  have hrange : checkRange token (outgoingOf swaps token) = .ok () := by
    rw [checkRange, List.find?_eq_none.2 fun s hs => by simp [isFraction_of_isZero (hzero s hs)]]
  unfold checkSplitsOf
  dsimp only
  rw [hrange]
  cases houts : outgoingOf swaps token with
  | nil => rfl
  | cons only rest =>
    rw [houts] at hlen hzero
    obtain rfl : rest = [] := List.length_eq_zero_iff.1 (Nat.le_zero.1 (Nat.le_of_succ_le_succ hlen))
    exact if_pos (hzero only List.mem_cons_self)

end Route

namespace Strategies

variable {t : Strategies}

/-- The check of the protocols looks for the encoder of each swap. -/
theorem checkProtocols_eq_ok_iff :
    t.checkProtocols order = .ok () ↔ ∀ s ∈ order.swaps, t.encoders.contains s.protocol = true := by
  unfold checkProtocols
  cases hfind : order.swaps.find? fun s => !t.encoders.contains s.protocol with
  | none => exact iff_of_true rfl (by simpa using hfind)
  | some s =>
    refine iff_of_false (fun h => by cases h) fun h => ?_
    have hmissing := List.find?_some hfind
    rw [h s (List.mem_of_find?_eq_some hfind)] at hmissing
    cases hmissing

theorem checkProtocols_of_choose (h : t.choose order = .ok f) : t.checkProtocols order = .ok () := by
  cases hprotocols : t.checkProtocols order with
  | error e =>
    rw [choose, hprotocols] at h
    cases h
  | ok u => rfl

/-- Every protocol has an encoder where a function is chosen. -/
theorem contains_of_choose (h : t.choose order = .ok f) {s : Swap} (hs : s ∈ order.swaps) :
    t.encoders.contains s.protocol = true :=
  checkProtocols_eq_ok_iff.1 (checkProtocols_of_choose h) s hs

/-- The choice of a function fails for a reason. -/
theorem exists_reason_of_choose {e : Failure} (h : t.choose order = .error e) :
    ∃ reason, e = .encoding reason := by
  have hreasoned : Reasoned _ (t.choose order) := reasoned_choose
  rw [h] at hreasoned
  cases hreasoned with
  | reason reason => exact ⟨reason, rfl⟩

/-- A function is chosen for an order that passes the checks of all orders. -/
theorem exists_choose (hprotocols : ∀ s ∈ order.swaps, t.encoders.contains s.protocol = true)
    (horder : Route.checkOrder t.config.chain order = .ok ()) (hout : order.exactOut = false) :
    ∃ f, t.choose order = .ok f := by
  have hcheck : t.checkProtocols order = .ok () := checkProtocols_eq_ok_iff.2 hprotocols
  have hempty : order.swaps.isEmpty = false := by
    simpa using (Route.checkOrder_eq_ok_iff.1 horder).1
  obtain ⟨f, hf⟩ : ∃ f, (order.shape t.config.capabilities >>= functionOf) = .ok f := by
    rw [Order.shape, hempty, hout]
    cases Route.hasFork order.swaps with
    | true => exact ⟨.split, rfl⟩
    | false =>
      by_cases hsingle : (Route.group t.config.capabilities order.swaps).length = 1
      · exact ⟨.single, by simp [hsingle]; rfl⟩
      · exact ⟨.sequential, by simp [hsingle]; rfl⟩
  exact ⟨f, by rw [choose, hcheck, horder]; simp only [hf]; rfl⟩

/-- A check that fails stops what stands behind it. -/
theorem isInstant_require_of_error {α β : Type} {check : Except EncodingError α} {x : α → Encode β}
    {e : EncodingError} (h : check = .error e) :
    (Encode.require check >>= x).IsInstant (.error (.encoding e)) [] := by
  rw [h]
  exact (Encode.isInstant_require (.error e)).bind_of_error

/-- **Each function of the router makes its checks first**: an order that does not pass them is
refused at once. -/
theorem isInstant_encodeFor (hchoose : t.choose order = .ok f) (h : ¬ t.Passes f order) :
    ∃ reason, (t.encodeFor f order router approvals).IsInstant (.error (.encoding reason)) [] := by
  cases hpath : t.checkPath order with
  | error e =>
    cases f with
    | single =>
      obtain ⟨g, hg⟩ := exists_group_eq_singleton_of_choose hchoose
      rw [encodeFor, encodeSingle, hg]
      dsimp only
      split
      · exact ⟨_, Encode.isInstant_fail _⟩
      · exact ⟨e, isInstant_require_of_error hpath⟩
    | sequential => exact ⟨e, isInstant_require_of_error hpath⟩
    | split =>
      cases hsplits : Route.checkSplits order.swaps with
      | error e => exact ⟨e, isInstant_require_of_error hsplits⟩
      | ok u =>
        refine ⟨e, Encode.IsInstant.bind_of_silent (a := ()) ?_ (isInstant_require_of_error hpath)⟩
        rw [hsplits]
        exact Encode.isInstant_require (.ok ())
  | ok u =>
    -- the path is right, so the order forks and its fractions are not
    obtain ⟨hf, e, hsplits⟩ : f = .split ∧ ∃ e, Route.checkSplits order.swaps = .error e := by
      cases hsplits : Route.checkSplits order.swaps with
      | ok u => exact absurd ⟨hchoose, fun _ => hsplits, hpath⟩ h
      | error e =>
        refine ⟨by_contra fun hf => h ⟨hchoose, fun h => absurd h hf, hpath⟩, e, rfl⟩
    subst hf
    exact ⟨e, isInstant_require_of_error hsplits⟩

end Strategies

/-! ## Malformed orders -/

namespace RouterEncoder

variable {r : RouterEncoder}

/-- An order is malformed. -/
inductive IsMalformed (r : RouterEncoder) (order : Order) : Prop where
  /-- It fixes its output. -/
  | exactOut (h : order.exactOut = true)
  /-- No router is named, neither by the order nor by the encoder nor by the setup. -/
  | noRouter (horder : given? order.router = none) (hencoder : given? r.router = none)
      (hconfig : r.strategies.config.router = none)
  /-- A protocol has no encoder. -/
  | unknownProtocol {s : Swap} (hs : s ∈ order.swaps)
      (h : r.strategies.encoders.contains s.protocol = false)
  /-- It has no swaps. -/
  | empty (h : order.swaps = [])
  /-- Its native action does not fit its ends. -/
  | nativeAction {e : EncodingError}
      (h : Route.checkNativeAction r.strategies.config.chain order = .error e)
  /-- A token is repeated. -/
  | cycle {e : Failure} (h : Route.checkCycles order = .error e)
  /-- Its fractions are out of range or do not add up. -/
  | splits {e : EncodingError} (h : Route.checkSplits order.swaps = .error e)
  /-- Its swaps do not lead from the given token to the checked one. -/
  | path {e : EncodingError} (h : r.strategies.checkPath order = .error e)

/-- An order passes all checks that stand in front of its encoding. -/
structure Admits (r : RouterEncoder) (order : Order) : Prop where
  exactIn : order.exactOut = false
  router : ∃ router, r.routerOf order = .ok router
  passes : ∃ f, r.strategies.Passes f order

theorem routerOf_eq_error_iff {e : EncodingError} :
    r.routerOf order = .error e ↔
      given? order.router = none ∧ given? r.router = none ∧ r.strategies.config.router = none ∧
        e = .noRouter r.strategies.config.chain.name := by
  unfold routerOf
  cases given? order.router with
  | some router => simp
  | none =>
    cases given? r.router with
    | some router => simp
    | none =>
      cases hconfig : r.strategies.config.router with
      | some router => simp [hconfig]
      | none => simp [hconfig, eq_comm]

/-- **An order is malformed exactly if it does not pass the checks.** -/
theorem isMalformed_iff : r.IsMalformed order ↔ ¬ r.Admits order := by
  constructor
  · rintro hmalformed ⟨hout, ⟨router, hrouter⟩, f, hpasses⟩
    have horder := Route.checkOrder_eq_ok_iff.1 (Strategies.checks_of_choose hpasses.chosen).1
    cases hmalformed with
    | exactOut h => exact absurd (hout.symm.trans h) Bool.false_ne_true
    | noRouter horder hencoder hconfig =>
      have hnone := routerOf_eq_error_iff.2 ⟨horder, hencoder, hconfig, rfl⟩
      rw [hnone] at hrouter
      cases hrouter
    | unknownProtocol hs h =>
      rw [Strategies.contains_of_choose hpasses.chosen hs] at h
      cases h
    | empty h => exact horder.1 h
    | nativeAction h => rw [horder.2.1] at h; cases h
    | cycle h => rw [horder.2.2] at h; cases h
    | splits h =>
      by_cases hfork : Route.hasFork order.swaps = true
      · rw [hpasses.fractions ((Strategies.hasFork_iff_of_choose hpasses.chosen).1 hfork)] at h
        cases h
      · rw [Route.checkSplits_of_hasFork_eq_false (Bool.eq_false_iff.2 hfork)] at h
        cases h
    | path h => rw [hpasses.path] at h; cases h
  · refine fun hrefused => by_contra fun hsound => hrefused ?_
    have hout : order.exactOut = false := Bool.eq_false_iff.2 fun h => hsound (.exactOut h)
    have hprotocols : ∀ s ∈ order.swaps, r.strategies.encoders.contains s.protocol = true :=
      fun s hs => Bool.not_eq_false _ ▸ fun h => hsound (.unknownProtocol hs h)
    have horder : Route.checkOrder r.strategies.config.chain order = .ok () := by
      refine Route.checkOrder_eq_ok_iff.2 ⟨fun h => hsound (.empty h), ?_, ?_⟩
      · exact eq_ok_of_not_error fun e h => hsound (.nativeAction h)
      · exact eq_ok_of_not_error fun e h => hsound (.cycle h)
    obtain ⟨f, hf⟩ := Strategies.exists_choose hprotocols horder hout
    constructor
    case exactIn => exact hout
    case router =>
      cases hrouter : r.routerOf order with
      | ok router => exact ⟨router, rfl⟩
      | error e =>
        obtain ⟨horder, hencoder, hconfig, -⟩ := routerOf_eq_error_iff.1 hrouter
        exact absurd (.noRouter horder hencoder hconfig) hsound
    case passes =>
      refine ⟨f, hf, fun _ => ?_, ?_⟩
      · exact eq_ok_of_not_error fun e h => hsound (.splits h)
      · exact eq_ok_of_not_error fun e h => hsound (.path h)

/-- **An order that does not pass the checks comes to a reason at once**, and asks nothing. -/
theorem isInstant_encodeOrder (h : ¬ r.Admits order) :
    ∃ reason, (r.encodeOrder approvals order).IsInstant (.error (.encoding reason)) [] := by
  unfold encodeOrder
  split
  next hout => exact ⟨_, Encode.isInstant_fail _⟩
  next hout =>
    cases hrouter : r.routerOf order with
    | error e => exact ⟨e, (Encode.isInstant_require (.error e)).bind_of_error⟩
    | ok router =>
      cases hchoose : r.strategies.choose order with
      | error e =>
        obtain ⟨reason, rfl⟩ := Strategies.exists_reason_of_choose hchoose
        refine ⟨reason, (Encode.isInstant_require (.ok router)).bind_of_silent ?_⟩
        exact (Encode.isInstant_ofExcept (.error (.encoding reason))).bind_of_error
      | ok f =>
        have hchecks : ¬ r.strategies.Passes f order := fun hpasses =>
          h ⟨Bool.eq_false_iff.2 hout, ⟨router, hrouter⟩, f, hpasses⟩
        obtain ⟨reason, hencode⟩ : ∃ reason, (r.strategies.encodeFor f order router
            approvals).IsInstant (.error (.encoding reason)) [] :=
          Strategies.isInstant_encodeFor hchoose hchecks
        refine ⟨reason, (Encode.isInstant_require (.ok router)).bind_of_silent ?_⟩
        exact (Encode.isInstant_ofExcept (.ok f)).bind_of_silent hencode.bind_of_error

/-- **What becomes of a refused order.**  It comes to the same reason whatever else goes on, and puts
nothing down, whether a signal stops it or not; alone in a session it leaves the session as it is. -/
structure RefusesUnasked (r : RouterEncoder) (approvals : Option ApprovalSource) (order : Order)
    (reason : EncodingError) : Prop where
  outcome : ∀ c, (r.encodeOrder approvals order).outcome c = .error (.encoding reason)
  unasked : ∀ c signal, (r.encodeOrder approvals order).askedIf c signal = []
  session : ∀ s, (r.encodeOrder approvals order).run s = (.error (.encoding reason), s)

/-- What comes to an end at once and puts nothing down has nothing asked. -/
theorem askedIf_of_isInstant {reason : EncodingError}
    (h : (r.encodeOrder approvals order).IsInstant (.error (.encoding reason)) []) (c : Circumstances)
    (signal : Option Moment) : (r.encodeOrder approvals order).askedIf c signal = [] := by
  rw [h.askedIf]
  split <;> rfl

/-- **A malformed order is refused for a reason, and nobody is asked anything for it.** -/
theorem refusesUnasked_of_isMalformed (r : RouterEncoder) (order : Order) (h : r.IsMalformed order)
    (approvals : Option ApprovalSource) : ∃ reason, r.RefusesUnasked approvals order reason := by
  obtain ⟨reason, hinstant⟩ : ∃ reason,
      (r.encodeOrder approvals order).IsInstant (.error (.encoding reason)) [] :=
    isInstant_encodeOrder (isMalformed_iff.1 h)
  exact ⟨reason, hinstant.outcome, askedIf_of_isInstant hinstant, fun s => hinstant.run s⟩

end RouterEncoder

namespace Sample

/-- An order that sells to the vault, but for a token that the vault does not give. -/
def straySale : Order :=
  sale [swap vaultPool weth usdc] dai

/-- The vault wants an approval, and it is not asked for. -/
theorem refusesUnasked_straySale :
    wantingEncoder.IsMalformed straySale ∧
      ∃ reason, wantingEncoder.RefusesUnasked wantingEncoder.approvals straySale reason := by
  have hpath : wantingEncoder.strategies.checkPath straySale =
      .error (.unreachableEnd dai.text weth.text) := rfl
  exact ⟨.path hpath, wantingEncoder.refusesUnasked_of_isMalformed straySale (.path hpath) _⟩

end Sample

/-! ## Calls -/

namespace RouterEncoder

/-- **Whatever a call asks is asked for an order that is not malformed.** -/
theorem exists_not_isMalformed_of_asked {r : RouterEncoder} {solutions : List Solution} {s : Session}
    {q : Question}
    (h : q ∈ ((r.encodeSolutions solutions).run s).2.asked) (hnew : q ∉ s.asked) :
    ∃ order ∈ solutions.flatMap Solution.orders, ¬ r.IsMalformed order ∧
      ∃ c signal, .asked q ∈ (r.encodeOrder r.approvals order).askedIf c signal := by
  rw [run_encodeSolutions, asked_after, List.mem_append] at h
  have hasked := mem_questions_iff.1 (h.resolve_left hnew)
  obtain ⟨later, hlater, hcall⟩ := Encode.exists_askedIf_bind (P := fun _ => False)
    (x := r.encodeOrders (solutions.flatMap Solution.orders))
    (fun transactions => Encode.asksAtOnce_pure (align (solutions.map Solution.orders) transactions))
    (r.inCall solutions) none
  have hnone : later = [] := List.eq_nil_iff_forall_not_mem.2 hlater
  rw [encodeAligned, hcall, hnone, List.map_nil, List.append_nil] at hasked
  rcases Encode.askedIf_sideBySide ((solutions.flatMap Solution.orders).map
    (r.encodeOrder r.approvals)) (r.inCall solutions) none with ⟨s, hs, -⟩ | ⟨passed, -, hjobs⟩
  · cases hs
  · rw [encodeOrders, hjobs] at hasked
    obtain ⟨job, hjob, i, hevent⟩ := Encode.mem_askedByJobs hasked
    obtain ⟨order, horder, rfl⟩ := List.mem_map.1 hjob
    refine ⟨order, horder, fun hmalformed => ?_, _, _, hevent⟩
    obtain ⟨reason, hinstant⟩ : ∃ reason,
        (r.encodeOrder r.approvals order).IsInstant (.error (.encoding reason)) [] :=
      isInstant_encodeOrder (isMalformed_iff.1 hmalformed)
    rw [askedIf_of_isInstant hinstant] at hevent
    exact absurd hevent List.not_mem_nil

end RouterEncoder

end SwapRouter
