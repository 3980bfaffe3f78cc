import SwapRouter.Proofs.Permit.Binding
import SwapRouter.Proofs.Route.Accepted

/-!
# How a call is funded

The input of an order reaches the router in one of three ways.  The native coin comes along with the
transaction, or the router pulls a token, with a permit or with an allowance that it has been given.
Which way it is, is decided in four places, and all of them go by the native action of the order: the
value of the transaction, the use of a permit, the flag that stands in place of a permit, and the check
that only the native coin is wrapped.  So they agree where the native coin is wrapped and where a token
is given.

They do not look at the given token otherwise.  An order may give the native coin without wrapping it;
then nothing comes along with the transaction, and the call says that the router pulls its input.

* `RouterEncoder.IsFunded`: the value of a transaction, against what its call says.
* `RouterEncoder.isFunded_of_encodeOrder`: **a wrapped input comes along, and a token is pulled.**
-/

namespace SwapRouter

variable {r : RouterEncoder} {t : Strategies} {f : RouterFunction} {order : Order} {router : Address}
  {approvals : Option ApprovalSource} {c : Circumstances} {e : EncodedOrder} {tx : Transaction}

/-- Only the native coin is wrapped. -/
theorem Strategies.givenToken_of_wrap (hf : t.choose order = .ok f)
    (hwraps : order.nativeAction = some .wrap) : order.givenToken = Address.native := by
  have hnative := (Route.checkOrder_eq_ok_iff.1 (checks_of_choose hf).1).2.1
  rw [Route.checkNativeAction, hwraps] at hnative
  dsimp only at hnative
  by_contra hother
  rw [if_pos hother] at hnative
  cases hnative

namespace RouterEncoder

/-- **How a call is funded.**  A wrapped input comes along with the transaction, and the router does not
pull it.  A token does not come along; the call carries a permit for it if there is a signer, and else it
says that the router pulls it.  The native coin that is not wrapped does not come along. -/
structure IsFunded (t : Strategies) (f : RouterFunction) (order : Order) (e : EncodedOrder)
    (tx : Transaction) (a : CallArguments) : Prop where
  wrapped : order.nativeAction = some .wrap →
    order.givenToken = Address.native ∧ tx.value = order.givenAmount ∧
      e.signature = routerSignature f.name false f.takesTokenCount ∧ a.permission = [.flag false]
  token : order.givenToken ≠ Address.native → tx.value = .zero ∧
    if t.signer.isSome then
      e.signature = routerSignature f.name true f.takesTokenCount ∧
        ∃ expiration nonce spender deadline signature,
          a.permission = [Permit.tuple a.given order.givenAmount.toNat expiration nonce spender deadline,
            .bytes signature]
    else e.signature = routerSignature f.name false f.takesTokenCount ∧ a.permission = [.flag true]
  native : order.givenToken = Address.native → order.nativeAction ≠ some .wrap → tx.value = .zero

/-- **A wrapped input comes along, and a token is pulled**, by every call that an order is encoded as. -/
theorem isFunded_of_encodeOrder (hcall : order.withCall = true)
    (h : (r.encodeOrder approvals order).outcome c = .ok tx) :
    ∃ router f e a texts types, r.routerOf order = .ok router ∧ r.strategies.choose order = .ok f ∧
      (r.strategies.encodeFor f order router approvals).outcome c = .ok e ∧
      IsCallOf r.strategies f order e tx.data a texts types ∧ IsFunded r.strategies f order e tx a := by
  obtain ⟨-, router, f, e, hrouter, hf, he, htx⟩ := outcome_encodeOrder_eq_ok_iff.1 h
  obtain ⟨swaps, count, hfinished, hcount⟩ := Strategies.isFinished_of_encodeFor he
  obtain ⟨a, texts, types, hcallOf⟩ := exists_isCallOf hcall hfinished hcount htx
  have hvalue := (target_of_transaction htx).2.2
  have hsignature := hcallOf.signature
  have hpermission := hcallOf.arguments.permission
  refine ⟨router, f, e, a, texts, types, hrouter, hf, he, hcallOf, ?_⟩
  constructor
  case wrapped =>
    intro hwraps
    have huses : r.strategies.usesPermit order = false := by
      rw [Strategies.usesPermit, decide_eq_false (not_not_intro hwraps), Bool.and_false]
    rw [huses] at hsignature
    rw [if_neg (Bool.eq_false_iff.1 huses), decide_eq_false (not_not_intro hwraps)] at hpermission
    exact ⟨Strategies.givenToken_of_wrap hf hwraps, hvalue.trans (if_pos hwraps), hsignature, hpermission⟩
  case token =>
    intro htoken
    have hwraps : order.nativeAction ≠ some .wrap := fun hwraps =>
      htoken (Strategies.givenToken_of_wrap hf hwraps)
    refine ⟨hvalue.trans (if_neg hwraps), ?_⟩
    cases hsigner : r.strategies.signer with
    | none =>
      have huses : r.strategies.usesPermit order = false := by
        rw [Strategies.usesPermit, hsigner, Option.isSome_none, Bool.false_and]
      rw [huses] at hsignature
      rw [if_neg (Bool.eq_false_iff.1 huses), decide_eq_true hwraps] at hpermission
      exact ⟨hsignature, hpermission⟩
    | some signer =>
      rw [(Strategies.usesPermit_iff hsigner).2 hwraps] at hsignature
      obtain ⟨start, nonce, spender, signature, hpermit⟩ :=
        exists_isPermitOf hsigner hwraps he hcallOf.arguments htx
      exact ⟨hsignature, _, _, _, _, _, hpermit.permission⟩
  case native => exact fun _ hwraps => hvalue.trans (if_neg hwraps)

end RouterEncoder

namespace Sample

/-- An order that wraps five units of the native coin. -/
def wrappedSale : Order :=
  { sale [swap usdcWeth weth usdc] usdc with
    givenToken := Address.native, givenAmount := ⟨5, by decide⟩, nativeAction := some .wrap }

/-- The five units come along with the transaction. -/
theorem isFunded_wrappedSale :
    ∃ tx, (encoder.encodeOrder none wrappedSale).outcome {} = .ok tx ∧
      tx.value = wrappedSale.givenAmount ∧ ∃ f e a texts types,
        IsCallOf strategies f wrappedSale e tx.data a texts types ∧
          RouterEncoder.IsFunded strategies f wrappedSale e tx a := by
  have hrun : ((encoder.encodeOrder none wrappedSale).outcome {}).toOption.isSome = true := by
    decide +kernel
  obtain ⟨tx, hencodes⟩ := exists_eq_ok_of_isSome hrun
  obtain ⟨router, f, e, a, texts, types, -, -, -, hcallOf, hfunded⟩ :=
    RouterEncoder.isFunded_of_encodeOrder rfl hencodes
  exact ⟨tx, hencodes, (hfunded.wrapped rfl).2.1, f, e, a, texts, types, hcallOf, hfunded⟩

/-- An order that gives five units of the native coin as they are. -/
def nativeSale : Order :=
  { sale [swap usdcWeth Address.native usdc] usdc with
    givenToken := Address.native, givenAmount := ⟨5, by decide⟩ }

/-- **The native coin does not come along unless it is wrapped**, and the call says that the router pulls
it. -/
theorem permission_nativeSale :
    ∃ tx, (encoder.encodeOrder none nativeSale).outcome {} = .ok tx ∧ tx.value ≠ nativeSale.givenAmount ∧
      ∃ f e a texts types, IsCallOf strategies f nativeSale e tx.data a texts types ∧
        a.permission = [.flag true] := by
  have hrun : ((encoder.encodeOrder none nativeSale).outcome {}).toOption.isSome = true := by
    decide +kernel
  obtain ⟨tx, hencodes⟩ := exists_eq_ok_of_isSome hrun
  obtain ⟨-, router, f, e, -, -, he, htx⟩ := RouterEncoder.outcome_encodeOrder_eq_ok_iff.1 hencodes
  obtain ⟨swaps, count, hfinished, hcount⟩ := Strategies.isFinished_of_encodeFor he
  obtain ⟨a, texts, types, hcallOf⟩ := RouterEncoder.exists_isCallOf rfl hfinished hcount htx
  have hvalue : tx.value = .zero := (RouterEncoder.target_of_transaction htx).2.2
  refine ⟨tx, hencodes, ?_, f, e, a, texts, types, hcallOf, hcallOf.arguments.permission⟩
  rw [hvalue]
  decide

end Sample

end SwapRouter
