import SwapRouter.Proofs.Route.Plain
import SwapRouter.Router

/-!
# Orders that are encoded in one call

The orders of a call run side by side and share the approvals that they look up.  Whether they
succeed, and with which transactions, is the same as if each of them had a call of its own: a
look-up comes to the same wherever it is made.  The transactions are listed by solution, in the
order of its orders.

With failures it is different.  The first failure that happens ends the call, and when something
happens depends on the look-ups that other orders have begun: an order that joins a look-up has
less to wait for.  The order that fails first fails alone, too; but where several of its hops
fail, another one of them may be the first.

* `RouterEncoder.outcome_encodeSolutions_eq_ok_iff`: the transactions of a call, order by order.
* `RouterEncoder.foundIn`, `RouterEncoder.courseIn`: what an order finds in a call, and what
  becomes of it there.
* `RouterEncoder.exists_of_outcome_encodeSolutions_eq_error`: the failure of a call.
* `RouterEncoder.outcome_encodeSolutions`: **a call against the calls for its orders alone.**
-/

namespace SwapRouter

/-! ## Lists of lists -/

section Align

variable {α β : Type} {R : α → β → Prop} {parts : List (List α)}

/-- Values that fit a list of lists one by one fit it list by list, if they are cut to its
lengths. -/
theorem forall₂_align {values : List β} (h : List.Forall₂ R parts.flatten values) :
    List.Forall₂ (List.Forall₂ R) parts (RouterEncoder.align parts values) := by
  induction parts generalizing values with
  | nil => exact .nil
  | cons part parts ih =>
    rw [List.flatten_cons] at h
    have htake := List.forall₂_take part.length h
    have hdrop := List.forall₂_drop part.length h
    rw [List.take_left] at htake
    rw [List.drop_left] at hdrop
    exact .cons htake (ih hdrop)

/-- Lists of the same lengths are what their values are cut to. -/
theorem align_flatten {lists : List (List β)} (h : List.Forall₂ (List.Forall₂ R) parts lists) :
    RouterEncoder.align parts lists.flatten = lists := by
  induction h with
  | nil => rfl
  | cons hpart _ ih =>
    rw [RouterEncoder.align, List.flatten_cons, hpart.length_eq, List.take_left, List.drop_left, ih]

/-- Every entry fits some value exactly if the whole list fits some list of values. -/
theorem exists_forall₂_iff {l : List α} :
    (∃ values, List.Forall₂ R l values) ↔ ∀ a ∈ l, ∃ b, R a b := by
  induction l with
  | nil => exact iff_of_true ⟨[], .nil⟩ fun a ha => absurd ha List.not_mem_nil
  | cons a l ih =>
    rw [List.forall_mem_cons, ← ih]
    constructor
    · rintro ⟨_, _ | ⟨ha, hl⟩⟩
      exact ⟨⟨_, ha⟩, _, hl⟩
    · rintro ⟨⟨b, ha⟩, values, hl⟩
      exact ⟨b :: values, .cons ha hl⟩

end Align

namespace Encode

variable {α : Type} {c : Circumstances}

theorem getElem?_courses {jobs : List (Encode α)} {position i : ℕ} :
    (courses c position jobs)[i]? = jobs[i]?.map fun job => job.course (c.ofJob (position + i)) := by
  induction jobs generalizing position i with
  | nil => rfl
  | cons job jobs ih =>
    cases i with
    | zero => rfl
    | succ i =>
      rw [courses_cons, List.getElem?_cons_succ, List.getElem?_cons_succ, ih,
        Nat.succ_add_eq_add_succ]

end Encode

namespace RouterEncoder

variable {r : RouterEncoder} {solutions : List Solution} {c : Circumstances}

/-! ## Calls -/

/-- The orders of a call, side by side. -/
def encodeOrders (r : RouterEncoder) (orders : List Order) : Encode (List Transaction) :=
  .sideBySide (orders.map (r.encodeOrder r.approvals))

/-- What a call does before its approvals are kept. -/
def encodeAligned (r : RouterEncoder) (solutions : List Solution) :
    Encode (List (List Transaction)) := do
  let transactions ← r.encodeOrders (solutions.flatMap Solution.orders)
  return align (solutions.map Solution.orders) transactions

/-- Where approvals are kept, and none is known. -/
def kept : Circumstances := { known := some [] }

/-- What the orders of a call find: no approval is known, and it is known when the look-ups of all of
them begin. -/
def foundIn (r : RouterEncoder) (solutions : List Solution) (c : Circumstances) : Circumstances :=
  (r.encodeAligned solutions).foreseen { c with known := some [] }

theorem known_foundIn : (r.foundIn solutions c).known = kept.known :=
  Encode.known_foreseen (r.encodeAligned solutions) _

theorem outcome_encodeSolutions_eq :
    (r.encodeSolutions solutions).outcome c =
      (r.encodeAligned solutions).outcome (r.foundIn solutions c) := rfl

/-! ## Successes -/

/-- **A call succeeds exactly with the transactions of its orders**, listed by solution. -/
theorem outcome_encodeSolutions_eq_ok_iff {lists : List (List Transaction)} :
    (r.encodeSolutions solutions).outcome c = .ok lists ↔
      List.Forall₂ (fun s transactions => List.Forall₂
        (fun o tx => (r.encodeOrder r.approvals o).outcome kept = .ok tx) s.orders transactions)
        solutions lists := by
  rw [outcome_encodeSolutions_eq,
    Encode.outcome_eq_ok_iff_of_known known_foundIn, encodeAligned, Encode.outcome_bind_eq_ok_iff]
  simp only [encodeOrders, Encode.outcome_sideBySide_eq_ok_iff, List.map_map,
    Function.comp_def, Encode.outcome_pure, Except.ok.injEq, map_eq_map_ok_iff, List.flatMap_def]
  rw [← List.forall₂_map_left_iff (f := Solution.orders)]
  constructor
  · rintro ⟨transactions, h, rfl⟩
    exact forall₂_align h
  · intro h
    exact ⟨lists.flatten, List.rel_flatten h, align_flatten h⟩

/-- An order has a call of its own that succeeds exactly if the order does. -/
theorem outcome_encodeSolutions_singleton_eq_ok_iff {o : Order} {lists : List (List Transaction)} :
    (r.encodeSolutions [⟨[o]⟩]).outcome c = .ok lists ↔
      ∃ tx, (r.encodeOrder r.approvals o).outcome kept = .ok tx ∧ lists = [[tx]] := by
  rw [outcome_encodeSolutions_eq_ok_iff]
  constructor
  · rintro (_ | ⟨_ | ⟨htx, ⟨⟩⟩, ⟨⟩⟩)
    exact ⟨_, htx, rfl⟩
  · rintro ⟨tx, htx, rfl⟩
    exact .cons (.cons htx .nil) .nil

/-! ## Failures -/

/-- What becomes of an order at a position of a call. -/
def courseIn (r : RouterEncoder) (solutions : List Solution) (c : Circumstances) (position : ℕ)
    (o : Order) : Course Event Transaction :=
  (r.encodeOrder r.approvals o).course ((r.foundIn solutions c).ofJob position)

theorem outcome_courseIn_eq_ok_iff {position : ℕ} {o : Order} {tx : Transaction} :
    (r.courseIn solutions c position o).outcome = .ok tx ↔
      (r.encodeOrder r.approvals o).outcome kept = .ok tx :=
  Encode.outcome_eq_ok_iff_of_known ((Circumstances.known_ofJob _ _).trans known_foundIn)

/-- **The failure of a call is the failure of one of its orders**, and no order of the call fails
before that one. -/
theorem exists_of_outcome_encodeSolutions_eq_error {e : Failure}
    (h : (r.encodeSolutions solutions).outcome c = .error e) :
    ∃ position o, (solutions.flatMap Solution.orders)[position]? = some o ∧
      (r.courseIn solutions c position o).outcome = .error e ∧
      ∀ position' o', (solutions.flatMap Solution.orders)[position']? = some o' →
        ∀ e', (r.courseIn solutions c position' o').outcome = .error e' →
          (r.courseIn solutions c position' o').ending.moment.before
            (r.courseIn solutions c position o).ending.moment = false := by
  rw [outcome_encodeSolutions_eq] at h
  -- it is the failure of the orders side by side
  have hside : (r.encodeOrders (solutions.flatMap Solution.orders)).outcome
      (r.foundIn solutions c) = .error e := by
    rw [encodeAligned, Encode.outcome_bind_pure] at h
    cases hrun : (r.encodeOrders (solutions.flatMap Solution.orders)).outcome
        (r.foundIn solutions c) with
    | error e' =>
      rw [hrun] at h
      cases h
      rfl
    | ok transactions =>
      rw [hrun] at h
      cases h
  have hcourses : ∀ position, (Encode.courses (r.foundIn solutions c) 0
      ((solutions.flatMap Solution.orders).map (r.encodeOrder r.approvals)))[position]? =
      (solutions.flatMap Solution.orders)[position]?.map (r.courseIn solutions c position) := by
    intro position
    rw [Encode.getElem?_courses, List.getElem?_map, Option.map_map, Nat.zero_add]
    rfl
  obtain ⟨f, hf, rfl⟩ := Course.all_outcome_eq_error_iff.1 hside
  obtain ⟨t, ht, hfailure, hmoment⟩ := Course.exists_of_firstFailure hf
  obtain ⟨position, hposition⟩ := List.mem_iff_getElem?.1 ht
  rw [hcourses, Option.map_eq_some_iff] at hposition
  obtain ⟨o, ho, rfl⟩ := hposition
  refine ⟨position, o, ho, hfailure, fun position' o' ho' e' he' => ?_⟩
  rw [hmoment]
  refine Course.before_of_firstFailure hf (List.mem_of_getElem? (i := position') ?_) he'
  rw [hcourses, ho', Option.map_some]

/-! ## A call against the calls for its orders alone -/

/-- **A call succeeds exactly if every order has a call of its own that succeeds**, wherever that one
is made.  It lists, solution by solution, the transactions that its orders get alone.  If it fails,
its failure is what an order of the call comes to there that fails alone, too; and no other order
fails there earlier. -/
theorem outcome_encodeSolutions (r : RouterEncoder) (solutions : List Solution)
    (c : Circumstances) :
    ((∃ lists, (r.encodeSolutions solutions).outcome c = .ok lists) ↔
      ∀ s ∈ solutions, ∀ o ∈ s.orders, ∀ c',
        ∃ lists, (r.encodeSolutions [⟨[o]⟩]).outcome c' = .ok lists) ∧
    (∀ lists, (r.encodeSolutions solutions).outcome c = .ok lists →
      List.Forall₂ (fun s transactions => List.Forall₂
        (fun o tx => ∀ c', (r.encodeSolutions [⟨[o]⟩]).outcome c' = .ok [[tx]])
        s.orders transactions) solutions lists) ∧
    ∀ e, (r.encodeSolutions solutions).outcome c = .error e →
      ∃ position o, (solutions.flatMap Solution.orders)[position]? = some o ∧
        (∀ c', ∃ e', (r.encodeSolutions [⟨[o]⟩]).outcome c' = .error e') ∧
        (r.courseIn solutions c position o).outcome = .error e ∧
        ∀ position' o', (solutions.flatMap Solution.orders)[position']? = some o' →
          ∀ e', (r.courseIn solutions c position' o').outcome = .error e' →
            (r.courseIn solutions c position' o').ending.moment.before
              (r.courseIn solutions c position o).ending.moment = false := by
  refine ⟨?_, ?_, ?_⟩
  · have hcall : (∃ lists, (r.encodeSolutions solutions).outcome c = .ok lists) ↔
        ∀ s ∈ solutions, ∀ o ∈ s.orders,
          ∃ tx, (r.encodeOrder r.approvals o).outcome kept = .ok tx := by
      simp only [outcome_encodeSolutions_eq_ok_iff, exists_forall₂_iff]
    rw [hcall]
    refine forall₂_congr fun s _ => forall₂_congr fun o _ => ?_
    constructor
    · rintro ⟨tx, htx⟩ c'
      exact ⟨[[tx]], outcome_encodeSolutions_singleton_eq_ok_iff.2 ⟨tx, htx, rfl⟩⟩
    · intro h
      obtain ⟨lists, hlists⟩ := h c
      obtain ⟨tx, htx, -⟩ := outcome_encodeSolutions_singleton_eq_ok_iff.1 hlists
      exact ⟨tx, htx⟩
  · intro lists h
    rw [outcome_encodeSolutions_eq_ok_iff] at h
    refine h.imp fun s transactions hs => hs.imp fun o tx htx c' => ?_
    exact outcome_encodeSolutions_singleton_eq_ok_iff.2 ⟨tx, htx, rfl⟩
  · intro e h
    obtain ⟨position, o, ho, hfailed, hfirst⟩ := exists_of_outcome_encodeSolutions_eq_error h
    refine ⟨position, o, ho, fun c' => ?_, hfailed, hfirst⟩
    cases halone : (r.encodeSolutions [⟨[o]⟩]).outcome c' with
    | error e' => exact ⟨e', rfl⟩
    | ok lists =>
      -- a success alone would be a success in the call
      obtain ⟨tx, htx, -⟩ := outcome_encodeSolutions_singleton_eq_ok_iff.1 halone
      cases hfailed.symm.trans (outcome_courseIn_eq_ok_iff.2 htx)

end RouterEncoder

namespace Sample

/-! ## A look-up that is shared -/

/-- A pool of a vault. -/
def vaultPool : Pool where
  id := "0x0b09dea16768f0799065c475be02919503cb2a3500020000000000000000001a"
  protocol := "vm:balancer_v2"
  tokens := [weth, usdc]

/-- A market maker. -/
def maker : Pool where
  id := "0xbebebebebebebebebebebebebebebebebebebebe"
  protocol := "rfq:bebop"
  tokens := [usdc, dai]

/-- The failure of a look-up that comes to no answer. -/
def timeout : Failure := .encoding (.reported .recoverable "timeout")

/-- A source of approvals that has no answer for one of the tokens. -/
def halfSilent : ApprovalSource :=
  .answers fun key => if key.token = weth then .error timeout else .ok true

/-- A quote for a million, and one for twice as much whose amount does not fit its field. -/
def quotes : QuoteBook where
  entries :=
    let payload := [("calldata", [0xca, 0xfe])]
    [((usdc, dai, 1000000), some ⟨1000000, payload⟩),
      ((usdc, dai, 2000000), some ⟨Nat.pow 2 256, payload⟩)]

/-- The encoders of a vault and of a market maker. -/
def askingEncoder : RouterEncoder where
  strategies :=
    { config := .bundled .ethereum
      encoders := ⟨[
        ("vm:balancer_v2", ⟨.balancerV2, ⟨"0x1d1499e622d69689cdf9004d05ec547d650ff211"⟩, .ethereum,
          [("vault_address", .str "0xba12222222228d8ba445958a75a0704d566bf2c8")], none, none⟩),
        ("rfq:bebop", ⟨.rfq, ⟨"0xa0cb889707d426a7a386870a03bc70d1b0697598"⟩, .ethereum,
          [("settlement_address", .str "0xbbbbbbb520d69a9775e85b458c58c648259fad5f")], none,
          some (.prepared "rfq:bebop" quotes)⟩)]⟩ }
  approvals := some halfSilent
  router := some router

/-- A swap with the market maker, who is asked for a quote for an amount. -/
def quotedSwap (amount : Uint256) : Swap :=
  { swap maker usdc dai with estimatedAmountIn := some amount }

/-- An order that looks the approval of one token up. -/
def quotedOrder : Order :=
  { sale [quotedSwap ⟨1000000, by decide⟩] with givenToken := usdc, withCall := false }

/-- An order that looks the approvals of two tokens up.  There is no answer for the first one, and
the swap that needs the second one does not get further than that look-up. -/
def vaultOrder : Order :=
  { sale [swap vaultPool weth usdc, quotedSwap ⟨2000000, by decide⟩] with withCall := false }

/-- Alone, the second order fails at the look-up without an answer.  In a call with the first one,
which succeeds alone, the other look-up is over earlier, and the call fails with a defect: with
what no order of the call fails alone. -/
theorem outcome_sharedLookUp :
    (askingEncoder.encodeSolutions [⟨[quotedOrder, vaultOrder]⟩]).outcome {} = .error .defect ∧
      (∃ lists, (askingEncoder.encodeSolutions [⟨[quotedOrder]⟩]).outcome {} = .ok lists) ∧
      (askingEncoder.encodeSolutions [⟨[vaultOrder]⟩]).outcome {} = .error timeout := by
  -- the three calls share their addresses, so they are run together
  have hrun : (askingEncoder.encodeSolutions [⟨[quotedOrder, vaultOrder]⟩]).outcome {} =
      .error .defect ∧
      ((askingEncoder.encodeSolutions [⟨[quotedOrder]⟩]).outcome {}).toOption.isSome = true ∧
      (askingEncoder.encodeSolutions [⟨[vaultOrder]⟩]).outcome {} = .error timeout := by
    decide +kernel
  obtain ⟨htogether, hquoted, hvault⟩ := hrun
  exact ⟨htogether, exists_eq_ok_of_isSome hquoted, hvault⟩

end Sample

end SwapRouter
