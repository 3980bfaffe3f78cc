import SwapRouter.Proofs.LookUp.Direct

/-!
# The approvals of one call

The orders of a call share the approvals that they look up, from the first order on and until the call
ends.  For the transactions this makes no difference: a call succeeds with the same transactions as if
every swap asked the source itself.

What is asked differs.  A call asks at most once for each approval, whichever of its swaps need it, in
whatever order, and however their addresses are written; and it asks for nothing that no swap needs.  If
the call succeeds, it asks for every approval that a swap needs.  If it fails it may ask for less, since
the failure stops the swaps that have not asked by then.  The next call knows nothing of it, and asks
again.

* `RouterEncoder.encodeAligned`: the orders of a call without shared approvals.
* `RouterEncoder.AsksOnce`: what is asked in a call, against what its swaps need.
* `RouterEncoder.asksOnce_encodeSolutions`: **a call asks once for each approval.**
-/

namespace SwapRouter

open Event

namespace RouterEncoder

variable {r : RouterEncoder} {solutions : List Solution} {source : ApprovalSource}

/-- **What a call asks**: some questions, and among them those for some approvals.

The questions are the same whatever was asked before the call.  Each approval is there once, in its
normal form, and is needed by a swap of the call.  Without shared approvals the call has the same
successes; these are asked for every approval as often as it is needed, and the call itself asks for
each of them. -/
structure AsksOnce (r : RouterEncoder) (solutions : List Solution) (source : ApprovalSource)
    (asked : List Question) (keys : List ApprovalKey) : Prop where
  asked_run : ∀ s : Session, ((r.encodeSolutions solutions).run s).2.asked = s.asked ++ asked
  approvals : asked.filter Question.isApproval = keys.flatMap source.questions
  nodup : keys.Nodup
  needed : keys ⊆ r.keysOfCall solutions
  normal : ∀ key ∈ keys, ApprovalKey.ofAddresses key.token key.owner key.spender = .ok key
  same : ∀ s direct : Session, direct.known = none → ∀ lists,
    ((r.encodeSolutions solutions).run s).1 = .ok lists ↔
      ((r.encodeAligned solutions).run direct).1 = .ok lists
  complete : ∀ s lists, ((r.encodeSolutions solutions).run s).1 = .ok lists →
    r.keysOfCall solutions ⊆ keys
  direct : ∀ s : Session, s.known = none → ∀ lists,
    ((r.encodeAligned solutions).run s).1 = .ok lists →
      ∃ asked', ((r.encodeAligned solutions).run s).2.asked = s.asked ++ asked' ∧
        asked'.filter Question.isApproval = (r.keysOfCall solutions).flatMap source.questions

/-! ## Keys -/

theorem ofAddresses_of_approvalKey? {e : SwapEncoder} {s : Swap} {context : SwapContext}
    {key : ApprovalKey} (h : e.approvalKey? s context = some key) :
    ApprovalKey.ofAddresses key.token key.owner key.spender = .ok key := by
  rw [SwapEncoder.approvalKey?] at h
  split at h
  · cases h
  · obtain ⟨setting, -, h⟩ := Option.bind_eq_some_iff.1 h
    rw [SwapEncoder.keyFor?] at h
    split at h
    · obtain ⟨spender, -, h⟩ := Option.bind_eq_some_iff.1 h
      exact ApprovalKey.ofAddresses_self (eq_ok_of_toOption_eq_some h)
    · cases h

/-- The approvals of a call are in their normal form. -/
theorem ofAddresses_of_mem_keysOfCall {key : ApprovalKey} (h : key ∈ r.keysOfCall solutions) :
    ApprovalKey.ofAddresses key.token key.owner key.spender = .ok key := by
  obtain ⟨order, -, h⟩ := List.mem_flatMap.1 h
  rw [keysOfOrder] at h
  split at h
  · obtain ⟨p, -, h⟩ := List.mem_flatMap.1 h
    rw [Strategies.keysOfGroup] at h
    split at h
    · obtain ⟨s, -, h⟩ := List.mem_flatMap.1 h
      exact ofAddresses_of_approvalKey? (Option.mem_toList.1 h)
    · exact absurd h List.not_mem_nil
  · exact absurd h List.not_mem_nil

/-! ## Runs in a session -/

theorem asked_after (s : Session) (events : List Event) :
    (s.after events).asked = s.asked ++ questions events := rfl

/-- What the swaps of a call find: approvals are kept, and it is known when their look-ups begin. -/
def inCall (r : RouterEncoder) (solutions : List Solution) : Circumstances :=
  Encode.keeping ((r.encodeAligned solutions).begunAlone {}) {}

/-- A call runs in the same circumstances in every session. -/
theorem course_encodeSolutions (r : RouterEncoder) (solutions : List Solution) (known : KnownApprovals) :
    (r.encodeSolutions solutions).together.course { known } =
      (r.encodeAligned solutions).course (r.inCall solutions) := by
  cases known with
  | none => rfl
  | some known => rfl

theorem run_encodeSolutions (s : Session) :
    (r.encodeSolutions solutions).run s =
      ((r.encodeAligned solutions).outcome (r.inCall solutions),
        s.after ((r.encodeAligned solutions).askedIf (r.inCall solutions) none)) := by
  have hcourse := course_encodeSolutions r solutions s.known
  rw [Encode.run, hcourse]
  rfl

/-- Without shared approvals, the orders of a call run as they are. -/
theorem run_encodeAligned {s : Session} (h : s.known = none) :
    (r.encodeAligned solutions).run s =
      ((r.encodeAligned solutions).outcome {}, s.after ((r.encodeAligned solutions).askedIf {} none)) := by
  have hcourse : (r.encodeAligned solutions).together.course { known := none } =
      (r.encodeAligned solutions).course {} := rfl
  rw [Encode.run, h, hcourse]
  rfl

/-- **A call asks once for each approval.** -/
theorem asksOnce_encodeSolutions (r : RouterEncoder) (solutions : List Solution)
    {source : ApprovalSource} (hsource : r.approvals = some source) :
    ∃ asked keys, r.AsksOnce solutions source asked keys := by
  have hshape := looksUp_encodeAligned solutions (r := r) (by rw [hsource]; rfl)
  rw [hsource] at hshape
  have hfresh : Circumstances.Fresh (r.inCall solutions) := Or.inr rfl
  have hdirect : Circumstances.Fresh {} := Or.inl rfl
  refine ⟨questions ((r.encodeAligned solutions).askedIf (r.inCall solutions) none),
    (r.encodeAligned solutions).sharedLookUps {}, ?_⟩
  constructor
  case asked_run =>
    intro s
    rw [run_encodeSolutions, asked_after]
  case approvals =>
    have hasked := hshape.asksWhereBegun ((r.encodeAligned solutions).begunAlone {}) {} none
    rw [Encode.AsksWhereBegun] at hasked
    rw [Encode.sharedLookUps, List.flatMap_map]
    exact hasked
  case nodup => exact hshape.nodup_sharedLookUps
  case needed => exact hshape.subset_sharedLookUps
  case normal =>
    exact fun key hkey => ofAddresses_of_mem_keysOfCall (hshape.subset_sharedLookUps hkey)
  case same =>
    intro s direct hnone lists
    rw [run_encodeSolutions, run_encodeAligned hnone]
    exact hshape.outcome_eq_ok_iff hfresh hdirect
  case complete =>
    intro s lists hok key hkey
    rw [run_encodeSolutions] at hok
    exact hshape.mem_sharedLookUps_of_ok hok hkey
  case direct =>
    intro s hnone lists hok
    rw [run_encodeAligned hnone] at hok ⊢
    exact ⟨_, asked_after _ _, hshape.questions_of_ok rfl hok⟩

end RouterEncoder

namespace Sample

/-- The encoders of a vault and of a market maker, with a source that wants every approval. -/
def wantingEncoder : RouterEncoder :=
  { askingEncoder with approvals := some (.answers fun _ => .ok true) }

/-- An order that sells to the vault. -/
def vaultSale : Order :=
  { sale [swap vaultPool weth usdc] usdc with withCall := false }

/-- The same order with the letters of the sold token in upper case. -/
def capitalSale : Order :=
  let capital : Address := ⟨"0xC02AAA39B223FE8D0A0E5C4F27EAD9083C756CC2"⟩
  { sale [swap vaultPool capital usdc] usdc with givenToken := capital, withCall := false }

/-- The approval that these orders need. -/
def vaultKey : ApprovalKey :=
  ⟨weth, router, ⟨"0xba12222222228d8ba445958a75a0704d566bf2c8"⟩⟩

/-- Two orders need one approval, and write it in two ways.  A call asks for it once. -/
theorem asksOnce_vaultSales :
    (∃ asked keys, wantingEncoder.AsksOnce [⟨[vaultSale]⟩, ⟨[capitalSale]⟩]
        (.answers fun _ => .ok true) asked keys) ∧
      ((wantingEncoder.encodeSolutions [⟨[vaultSale]⟩, ⟨[capitalSale]⟩]).run {}).2.asked =
        [.approval vaultKey] :=
  ⟨RouterEncoder.asksOnce_encodeSolutions wantingEncoder _ rfl, by decide +kernel⟩

/-- **A call that fails may ask for less than its swaps need.**  Here the first order has no swaps.  Its
failure stops the second one, whose swap has its look-up begun by then, but not asked.  Without shared
approvals that swap asks at its start, before it is stopped. -/
theorem asked_stoppedSale :
    (wantingEncoder.keysOfCall [⟨[sale []]⟩, ⟨[vaultSale]⟩]) = [vaultKey] ∧
      ((wantingEncoder.encodeSolutions [⟨[sale []]⟩, ⟨[vaultSale]⟩]).run {}).2.asked = [] ∧
      ((wantingEncoder.encodeAligned [⟨[sale []]⟩, ⟨[vaultSale]⟩]).run {}).2.asked =
        [.approval vaultKey] := by
  decide +kernel

end Sample

end SwapRouter
