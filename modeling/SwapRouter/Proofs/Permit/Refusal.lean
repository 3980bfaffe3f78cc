import SwapRouter.Proofs.LookUp.Events
import SwapRouter.Proofs.Permit.Signed
import SwapRouter.Proofs.Route.Custody

/-!
# Orders for which no permit is made

A signer makes permits in its own name and for amounts that fit.  It looks at the sender and at the
amount before anything else, so an order that it refuses is refused without a question, whatever the
order is encoded in the middle of.

The rest of an encoding does not depend on the signer: the funds of the user are pulled either way, and
the swaps are planned and encoded alike.  So an order that would be encoded without a signer fails with
the reason of the signer and with nothing else.

* `Signer.refusal?`: why a signer makes no permit.
* `Strategies.planFor_unsigned`: an order is planned in the same way without a signer.
* `Strategies.outcome_encodeFor_of_refusal`: **a refused order fails with the refusal.**
* `RouterEncoder.isPermitRead_eq_false`: **no nonce is read for it**, nor where no permit is used.
-/

namespace SwapRouter

/-- Whether a nonce is read. -/
def Question.isPermitRead : Question → Bool
  | .read .permit _ _ => true
  | .quote _ _ | .approval _ | .read .approval _ _ => false

theorem Question.isPermitRead_eq_false_of_isApproval {q : Question} (h : q.isApproval = true) :
    q.isPermitRead = false := by
  cases q with
  | quote source request => rfl
  | approval key => rfl
  | read purpose contract data =>
    cases purpose with
    | approval => rfl
    | permit => cases h

namespace Signer

variable {s : Signer} {spender owner token : Address} {amount : ℤ} {reason : EncodingError}

/-- Why a signer makes no permit: it is not the owner, or the amount is too large. -/
def refusal? (s : Signer) (owner : Address) (amount : ℤ) : Option EncodingError :=
  if owner.normal ≠ s.owner then some (.foreignSender owner.normal.text s.owner.text)
  else if (Nat.pow 2 160 : ℕ) ≤ amount then some (.permitTooLarge amount)
  else none

theorem isSome_refusal?_iff :
    (s.refusal? owner amount).isSome = true ↔ owner.normal ≠ s.owner ∨ (Nat.pow 2 160 : ℕ) ≤ amount := by
  unfold refusal?
  by_cases howner : owner.normal ≠ s.owner
  · rw [if_pos howner]
    exact iff_of_true rfl (Or.inl howner)
  · rw [if_neg howner, or_iff_right howner]
    by_cases hamount : (Nat.pow 2 160 : ℕ) ≤ amount
    · rw [if_pos hamount]
      exact iff_of_true rfl hamount
    · rw [if_neg hamount]
      exact iff_of_false Bool.false_ne_true hamount

/-- The data of the order are to blame. -/
theorem kind_of_refusal? (h : s.refusal? owner amount = some reason) : reason.kind = .invalidInput := by
  unfold refusal? at h
  split at h
  · cases h
    rfl
  · split at h
    · cases h
      rfl
    · cases h

/-- A signer refuses before it asks anything. -/
theorem permit_of_refusal? (h : s.refusal? owner amount = some reason) :
    s.permit spender owner token amount = .fail (.encoding reason) := by
  unfold refusal? at h
  unfold Signer.permit
  by_cases howner : owner.normal ≠ s.owner
  · rw [if_pos howner] at h ⊢
    cases h
    rfl
  · rw [if_neg howner] at h ⊢
    by_cases hamount : (Nat.pow 2 160 : ℕ) ≤ amount
    · rw [if_pos hamount] at h ⊢
      cases h
      rfl
    · rw [if_neg hamount] at h
      cases h

end Signer

/-! ## The same order without a signer -/

namespace TransferSetting

variable {s : TransferSetting} {u : UserTransfer} {given orderReceiver : Address}
  {wraps unwraps isPaid : Bool} {g : SwapGroup}

/-- It does not matter how the funds of the user are pulled, as long as they are. -/
theorem transferType_of_userTransfer (hs : s.userTransfer ≠ .none) (hu : u ≠ .none) :
    { s with userTransfer := u }.transferType g given wraps isPaid =
      s.transferType g given wraps isPaid := by
  unfold transferType
  dsimp only
  rw [if_pos hu, if_pos hs]

theorem plan_of_userTransfer (hs : s.userTransfer ≠ .none) (hu : u ≠ .none) (groups : List SwapGroup) :
    { s with userTransfer := u }.plan given orderReceiver wraps unwraps isPaid groups =
      s.plan given orderReceiver wraps unwraps isPaid groups := by
  induction groups generalizing isPaid with
  | nil => rfl
  | cons g groups ih =>
    have hhop : { s with userTransfer := u }.hopOf given orderReceiver wraps unwraps isPaid g groups.head? =
        s.hopOf given orderReceiver wraps unwraps isPaid g groups.head? := by
      unfold hopOf
      rw [transferType_of_userTransfer hs hu]
      rfl
    rw [plan_cons, plan_cons, hhop, ih]

end TransferSetting

namespace Strategies

variable {t : Strategies} {f : RouterFunction} {order : Order} {router : Address}
  {approvals : Option ApprovalSource} {c : Circumstances} {e : EncodedOrder}

/-- The same encoders without a signer. -/
def unsigned (t : Strategies) : Strategies := { t with signer := none }

theorem transfers_unsigned :
    t.unsigned.transfers order router =
      { t.transfers order router with userTransfer := .transferFrom } := rfl

theorem userTransfer_transfers_ne : (t.transfers order router).userTransfer ≠ .none := by
  unfold transfers
  dsimp only
  split <;> exact UserTransfer.noConfusion

theorem planLinear_unsigned (groups : List SwapGroup) :
    t.unsigned.planLinear order router approvals groups =
      t.planLinear order router approvals groups := by
  unfold planLinear
  rw [transfers_unsigned, TransferSetting.plan_of_userTransfer userTransfer_transfers_ne
    UserTransfer.noConfusion]

/-- **An order is planned in the same way without a signer.** -/
theorem planFor_unsigned :
    t.unsigned.planFor f order router approvals = t.planFor f order router approvals := by
  cases f with
  | single => exact planLinear_unsigned _
  | sequential => exact planLinear_unsigned _
  | split =>
    refine List.map_congr_left fun g _ => ?_
    have hhop : t.unsigned.splitHop order router g = t.splitHop order router g := by
      unfold splitHop
      rw [transfers_unsigned, TransferSetting.transferType_of_userTransfer userTransfer_transfers_ne
        UserTransfer.noConfusion]
    rw [hhop]

section

variable {failure : Failure}
  (hfinish : ∀ f swaps count d, (t.finish f order router swaps count).outcome d = .error failure)

include hfinish

theorem outcome_joinCalls_of_finish {plan : List PlannedGroup} {chunksOf : List Bytes → List Bytes}
    {count : ℕ} (h : (t.unsigned.joinCalls f order router plan chunksOf count).outcome c = .ok e) :
    (t.joinCalls f order router plan chunksOf count).outcome c = .error failure := by
  obtain ⟨calls, hcalls, h⟩ := Encode.outcome_bind_eq_ok_iff.1 h
  obtain ⟨swaps, hswaps, -⟩ := Encode.outcome_bind_eq_ok_iff.1 h
  have hcalls' : (Encode.sideBySide (plan.map t.encodeGroup)).outcome c = .ok calls := hcalls
  obtain ⟨d, hd⟩ := Encode.exists_outcome_bind hcalls' fun calls =>
    Encode.require (Wire.join (chunksOf calls)) >>= fun swaps => t.finish f order router swaps count
  rw [Encode.outcome_require_eq_ok_iff] at hswaps
  refine hd.trans ?_
  rw [hswaps]
  exact hfinish f swaps count d

/-- **An order that is encoded without a signer** gets as far as its permit with one. -/
theorem outcome_encodeFor_of_finish (h : (t.unsigned.encodeFor f order router approvals).outcome c = .ok e) :
    (t.encodeFor f order router approvals).outcome c = .error failure := by
  cases f with
  | single =>
    simp only [encodeFor, encodeSingle] at h ⊢
    split at h
    next g hgroups =>
      have hgroups' : Route.group t.config.capabilities order.swaps = [g] := hgroups
      rw [hgroups']
      dsimp only
      split at h
      · cases h
      next hsplit =>
        obtain ⟨hpath, h⟩ := Encode.eq_ok_of_outcome_require_bind h
        have hpath' : t.checkPath order = .ok () := hpath
        rw [if_neg hsplit, hpath']
        rw [planLinear_unsigned] at h
        split at h
        next p hp =>
          obtain ⟨swaps, hswaps, -⟩ := Encode.outcome_bind_eq_ok_iff.1 h
          have hswaps' : (t.encodeGroup p).outcome c = .ok swaps := hswaps
          obtain ⟨d, hd⟩ := Encode.exists_outcome_bind hswaps' fun swaps =>
            t.finish .single order router swaps 0
          exact hd.trans (hfinish .single swaps 0 d)
        next => cases h
    next => cases h
  | sequential =>
    rw [encodeFor, encodeSequential_eq] at h ⊢
    obtain ⟨hpath, h⟩ := Encode.eq_ok_of_outcome_require_bind h
    have hpath' : t.checkPath order = .ok () := hpath
    rw [planFor_unsigned] at h
    rw [hpath']
    exact outcome_joinCalls_of_finish hfinish h
  | split =>
    rw [encodeFor, encodeSplit_eq] at h ⊢
    obtain ⟨hsplits, h⟩ := Encode.eq_ok_of_outcome_require_bind h
    obtain ⟨hpath, h⟩ := Encode.eq_ok_of_outcome_require_bind h
    obtain ⟨headers, hheaders, h⟩ := Encode.outcome_bind_eq_ok_iff.1 h
    have hpath' : t.checkPath order = .ok () := hpath
    have hheaders' : splitHeaders (t.tableOf order) (t.groupsOf order) = .ok headers := by
      rwa [Encode.outcome_ofExcept] at hheaders
    rw [planFor_unsigned] at h
    rw [hsplits, hpath', hheaders']
    exact outcome_joinCalls_of_finish hfinish h

end

/-- An order is refused with the reason of its signer where it would be finished. -/
theorem isInstant_finish_of_refusal {signer : Signer} {reason : EncodingError} {swaps : Bytes} {count : ℕ}
    (huses : t.usesPermit order = true) (hsigner : t.signer = some signer)
    (hreason : signer.refusal? order.sender order.givenAmount.toNat = some reason) :
    (t.finish f order router swaps count).IsInstant (.error (.encoding reason)) [] := by
  unfold finish
  rw [if_pos huses, hsigner]
  dsimp only
  rw [Signer.permit_of_refusal? hreason]
  exact (Encode.isInstant_fail (.encoding reason)).bind_of_error

/-- **A refused order fails with the refusal**, if it is encoded without a signer. -/
theorem outcome_encodeFor_of_refusal {signer : Signer} {reason : EncodingError}
    (huses : t.usesPermit order = true) (hsigner : t.signer = some signer)
    (hreason : signer.refusal? order.sender order.givenAmount.toNat = some reason)
    (h : (t.unsigned.encodeFor f order router approvals).outcome c = .ok e) :
    (t.encodeFor f order router approvals).outcome c = .error (.encoding reason) :=
  outcome_encodeFor_of_finish (fun _ _ _ d =>
    (isInstant_finish_of_refusal huses hsigner hreason).outcome d) h

end Strategies

namespace RouterEncoder

variable {r : RouterEncoder} {order : Order} {approvals : Option ApprovalSource} {c : Circumstances}
  {signal : Option Moment} {signer : Signer} {reason : EncodingError} {tx : Transaction}

/-- The same encoder without a signer. -/
def unsigned (r : RouterEncoder) : RouterEncoder := { r with strategies := r.strategies.unsigned }

/-- **A refused order fails with the refusal**, if it is encoded without a signer. -/
theorem outcome_encodeOrder_of_refusal (huses : r.strategies.usesPermit order = true)
    (hsigner : r.strategies.signer = some signer)
    (hreason : signer.refusal? order.sender order.givenAmount.toNat = some reason)
    (h : (r.unsigned.encodeOrder approvals order).outcome c = .ok tx) :
    (r.encodeOrder approvals order).outcome c = .error (.encoding reason) := by
  obtain ⟨hexact, router, f, e, hrouter, hf, he, -⟩ := outcome_encodeOrder_eq_ok_iff.1 h
  have hrouter' : r.routerOf order = .ok router := hrouter
  have hf' : r.strategies.choose order = .ok f := hf
  have hfails := Strategies.outcome_encodeFor_of_refusal huses hsigner hreason he
  have hencode : (r.encodeOrder approvals order).outcome c =
      (r.strategies.encodeFor f order router approvals >>= fun encoded =>
        Encode.ofExcept (transaction order encoded)).outcome c := by
    rw [encodeOrder, hexact, if_neg Bool.false_ne_true, hrouter', hf']
    rfl
  rw [hencode]
  exact Encode.outcome_bind_of_error hfails

/-- **No nonce is read** for an order that uses no permit or whose permit is refused. -/
theorem isPermitRead_eq_false
    (h : r.strategies.usesPermit order = true → ∀ signer, r.strategies.signer = some signer →
      (signer.refusal? order.sender order.givenAmount.toNat).isSome = true) {q : Question}
    (hq : .asked q ∈ (r.encodeOrder approvals order).askedIf c signal) : q.isPermitRead = false := by
  have hfinish : ∀ router, r.routerOf order = .ok router → ∀ f swaps count,
      (r.strategies.finish f order router swaps count).AsksAtOnce
        fun q => q.isPermitRead = false := by
    intro router _
    refine Strategies.asksAtOnce_finish fun huses signer hsigner => ?_
    obtain ⟨reason, hreason⟩ := Option.isSome_iff_exists.1 (h huses signer hsigner)
    rw [Signer.permit_of_refusal? hreason]
    exact Encode.asksAtOnce_fail _
  have hshape : Encode.LooksUp _ approvals _ (r.encodeOrder approvals order) :=
    looksUp_encodeOrder (fun _ _ => rfl)
      (fun _ q => Question.isPermitRead_eq_false_of_isApproval) hfinish
  rcases hshape.isApproval_of_mem hq with hq | hq
  · exact hq
  · exact Question.isPermitRead_eq_false_of_isApproval hq

end RouterEncoder

end SwapRouter
