import SwapRouter.Proofs.Outcome
import SwapRouter.Strategy

/-!
# Orders that are finished

Each function of the router puts the groups of an order together in its own way, and all of them
end alike: with a signature, the number of tokens, and a permit if one is used.

* `Strategies.IsFinished`: what an encoded order is made of.
* `Strategies.outcome_finish`: an order is finished with its permit, and fails with it.
* `Strategies.exists_of_encodeSplit`: how an order with forks is put together.
* `Strategies.exists_finish_of_encodeFor`: every function ends alike, and only the one for forks counts
  tokens.
-/

namespace SwapRouter

namespace Strategies

variable {t : Strategies} {f : RouterFunction} {order : Order} {router : Address}
  {approvals : Option ApprovalSource} {c : Circumstances} {e : EncodedOrder}

/-- An order is finished with its swaps and the number of its tokens, and with a signed permit
exactly if one is used. -/
structure IsFinished (t : Strategies) (f : RouterFunction) (order : Order) (swaps : Bytes)
    (count : Nat) (e : EncodedOrder) : Prop where
  swaps : e.swaps = swaps
  signature : e.signature = t.signatureOf f order
  tokenCount : e.tokenCount = count
  permit : e.permit.isSome = t.usesPermit order
  permitSignature : e.permitSignature.isSome = t.usesPermit order

/-! ## The permit -/

/-- The signed permit that an order is finished with, if one is used. -/
def signedPermit (t : Strategies) (order : Order) (router : Address) :
    Encode (Option (Permit × Bytes)) :=
  match if t.usesPermit order then t.signer else none with
  | none => return none
  | some signer => do
    let permit ← signer.permit router order.sender order.givenToken order.givenAmount.toNat
    let permitSignature ← .ofExcept (signer.sign permit)
    return some (permit, permitSignature)

theorem isConstant_nonce (signer : Signer) (owner token spender : Address) :
    (signer.nonce owner token spender).IsConstant := by
  unfold Signer.nonce
  split
  · exact Encode.isConstant_fail _
  · refine (Encode.isConstant_ofExcept _).bind fun data => ?_
    refine (Encode.isConstant_ask _).bind fun _ => ?_
    exact (Encode.isConstant_ofExcept _).bind fun response => Encode.isConstant_ofExcept _

/-- What a permit comes to depends on no approval and on nothing that was asked before. -/
theorem isConstant_signedPermit : (t.signedPermit order router).IsConstant := by
  unfold signedPermit
  split
  · exact Encode.isConstant_pure _
  · refine Encode.IsConstant.bind ?_ fun permit =>
      (Encode.isConstant_ofExcept _).bind fun _ => Encode.isConstant_pure _
    unfold Signer.permit
    split
    · exact Encode.isConstant_fail _
    · split
      · exact Encode.isConstant_fail _
      · refine (isConstant_nonce _ _ _ _).bind fun nonce => ?_
        exact (Encode.isConstant_ofExcept _).bind fun start => Encode.isConstant_pure _

/-- An order is finished with its permit, and fails with it. -/
theorem outcome_finish {swaps : Bytes} {count : ℕ} :
    (t.finish f order router swaps count).outcome c =
      ((t.signedPermit order router).outcome c).map fun signed =>
        ⟨swaps, router, t.signatureOf f order, count, signed.map Prod.fst,
          signed.map Prod.snd⟩ := by
  unfold finish signedPermit
  cases if t.usesPermit order then t.signer else none with
  | none => rfl
  | some signer =>
    dsimp only
    cases hpermit : (signer.permit router order.sender order.givenToken
        order.givenAmount.toNat).outcome c with
    | error e => rw [Encode.outcome_bind_of_error hpermit, Encode.outcome_bind_of_error hpermit]; rfl
    | ok permit =>
      obtain ⟨d, hd⟩ := Encode.exists_outcome_bind hpermit fun permit => do
        let permitSignature ← Encode.ofExcept (signer.sign permit)
        return (⟨swaps, router, t.signatureOf f order, count, some permit,
          some permitSignature⟩ : EncodedOrder)
      obtain ⟨d', hd'⟩ := Encode.exists_outcome_bind hpermit fun permit => do
        let permitSignature ← Encode.ofExcept (signer.sign permit)
        return some (permit, permitSignature)
      rw [hd, hd']
      cases signer.sign permit <;> rfl

theorem isSome_of_signedPermit {signed : Option (Permit × Bytes)}
    (h : (t.signedPermit order router).outcome c = .ok signed) :
    signed.isSome = t.usesPermit order := by
  unfold signedPermit at h
  cases huses : t.usesPermit order with
  | false =>
    rw [huses] at h
    cases h
    rfl
  | true =>
    obtain ⟨signer, hsigner⟩ : ∃ signer, t.signer = some signer := by
      rw [usesPermit, Bool.and_eq_true] at huses
      exact Option.isSome_iff_exists.1 huses.1
    rw [huses, if_pos rfl, hsigner] at h
    obtain ⟨permit, -, hrest⟩ := Encode.outcome_bind_eq_ok_iff.1 h
    obtain ⟨permitSignature, -, hdone⟩ := Encode.outcome_bind_eq_ok_iff.1 hrest
    cases hdone
    rfl

/-- What a finished order is put together from, beside its swaps. -/
theorem exists_signed_of_finish {swaps : Bytes} {count : ℕ}
    (h : (t.finish f order router swaps count).outcome c = .ok e) :
    ∃ signed, (t.signedPermit order router).outcome c = .ok signed ∧
      e = ⟨swaps, router, t.signatureOf f order, count, signed.map Prod.fst, signed.map Prod.snd⟩ := by
  rw [outcome_finish] at h
  cases hsigned : (t.signedPermit order router).outcome c with
  | error failure =>
    rw [hsigned] at h
    cases h
  | ok signed =>
    rw [hsigned] at h
    exact ⟨signed, rfl, (Except.ok.inj h).symm⟩

theorem isFinished_of_finish {swaps : Bytes} {count : Nat}
    (h : (t.finish f order router swaps count).outcome c = .ok e) :
    t.IsFinished f order swaps count e := by
  obtain ⟨signed, hsigned, rfl⟩ := exists_signed_of_finish h
  have huses := isSome_of_signedPermit hsigned
  exact ⟨rfl, rfl, rfl, Option.isSome_map.trans huses, Option.isSome_map.trans huses⟩

/-! ## Orders -/

/-- **How an order with forks is put together**: its fractions and its path pass the checks, every
group has a header and a hop, and the hops with their headers in front are joined. -/
theorem exists_of_encodeSplit (h : (t.encodeSplit order router approvals).outcome c = .ok e) :
    let groups := Route.group t.config.capabilities order.swaps
    let table := Route.tokenTable t.config.chain order groups
    Route.checkSplits order.swaps = .ok () ∧ t.checkPath order = .ok () ∧
      ∃ headers hops swaps, splitHeaders table groups = .ok headers ∧
        hops.length = groups.length ∧
        Wire.join (List.zipWith (· ++ ·) headers hops) = .ok swaps ∧
        t.IsFinished .split order swaps (Route.tokenCount order table) e := by
  obtain ⟨hsplits, h⟩ := Encode.eq_ok_of_outcome_require_bind h
  obtain ⟨hpath, h⟩ := Encode.eq_ok_of_outcome_require_bind h
  obtain ⟨headers, hheaders, h⟩ := Encode.outcome_bind_eq_ok_iff.1 h
  obtain ⟨hops, hhops, h⟩ := Encode.outcome_bind_eq_ok_iff.1 h
  obtain ⟨swaps, hswaps, h⟩ := Encode.outcome_bind_eq_ok_iff.1 h
  rw [Encode.outcome_ofExcept] at hheaders
  rw [Encode.outcome_require_eq_ok_iff] at hswaps
  have hlen := congrArg List.length (Encode.outcome_sideBySide_eq_ok_iff.1 hhops)
  rw [List.length_map, List.length_map, List.length_map] at hlen
  exact ⟨hsplits, hpath, headers, hops, swaps, hheaders, hlen.symm, hswaps, isFinished_of_finish h⟩

/-- A table of tokens is never counted as empty. -/
theorem tokenCount_ne_zero (chain : Chain) (order : Order) (groups : List SwapGroup) :
    Route.tokenCount order (Route.tokenTable chain order groups) ≠ 0 := by
  have hlen : 2 ≤ (Route.tokenTable chain order groups).length := by
    rw [Route.tokenTable, List.length_append, List.length_cons, List.length_singleton]
    omega
  rw [Route.tokenCount]
  split <;> omega

/-- **Every function finishes an order alike**, once its swaps are encoded.  Only the function for forks
counts tokens, and it counts some. -/
theorem exists_finish_of_encodeFor
    (h : (t.encodeFor f order router approvals).outcome c = .ok e) :
    ∃ swaps count, (t.finish f order router swaps count).outcome c = .ok e ∧
      (count = 0 ↔ f ≠ .split) := by
  cases f with
  | single =>
    simp only [encodeFor, encodeSingle] at h
    split at h
    · split at h
      · cases h
      · obtain ⟨-, hplan⟩ := Encode.eq_ok_of_outcome_require_bind h
        split at hplan
        · obtain ⟨swaps, -, hfinish⟩ := Encode.outcome_bind_eq_ok_iff.1 hplan
          exact ⟨swaps, 0, hfinish, iff_of_true rfl (by decide)⟩
        · cases hplan
    · cases h
  | sequential =>
    obtain ⟨-, hhops⟩ := Encode.eq_ok_of_outcome_require_bind h
    obtain ⟨hops, -, hjoin⟩ := Encode.outcome_bind_eq_ok_iff.1 hhops
    obtain ⟨swaps, -, hfinish⟩ := Encode.outcome_bind_eq_ok_iff.1 hjoin
    exact ⟨swaps, 0, hfinish, iff_of_true rfl (by decide)⟩
  | split =>
    obtain ⟨-, h⟩ := Encode.eq_ok_of_outcome_require_bind h
    obtain ⟨-, h⟩ := Encode.eq_ok_of_outcome_require_bind h
    obtain ⟨headers, -, h⟩ := Encode.outcome_bind_eq_ok_iff.1 h
    obtain ⟨hops, -, h⟩ := Encode.outcome_bind_eq_ok_iff.1 h
    obtain ⟨swaps, -, hfinish⟩ := Encode.outcome_bind_eq_ok_iff.1 h
    refine ⟨swaps, _, hfinish, iff_of_false ?_ fun hne => hne rfl⟩
    exact tokenCount_ne_zero t.config.chain order _

theorem isFinished_of_encodeFor
    (h : (t.encodeFor f order router approvals).outcome c = .ok e) :
    ∃ swaps count, t.IsFinished f order swaps count e ∧ (count = 0 ↔ f ≠ .split) := by
  obtain ⟨swaps, count, hfinish, hcount⟩ := exists_finish_of_encodeFor h
  exact ⟨swaps, count, isFinished_of_finish hfinish, hcount⟩

end Strategies

end SwapRouter
