import SwapRouter.Proofs.Abi.RoundTrip
import SwapRouter.Proofs.Abi.Signature
import SwapRouter.Proofs.Finish
import SwapRouter.Proofs.Route.Plain
import SwapRouter.Router

/-!
# What a call of the router says

The signature of a call is picked by the function of the router and by whether a permit is used;
its arguments are picked by the number of tokens and by whether there is a permit.  Both tell the
same, because only the function for forks counts tokens, and never none of them, and because a permit
is made exactly where the signature asks for one.

Hence the arguments fit the signature, and whoever reads the data of the call by the types of
that signature finds them.

* `RouterEncoder.outcome_encodeOrder_eq_ok_iff`: what an encoded order has gone through.
* `CallArguments`: what the order and its encoding say to the router.
* `IsCallOf`, `RouterEncoder.isCallOf_of_encodeOrder`: **the data of a call reads as these
  arguments.**
-/

namespace SwapRouter

variable {order : Order} {e : EncodedOrder} {t : Strategies} {f : RouterFunction}
  {router : Address} {approvals : Option ApprovalSource} {c : Circumstances}

/-! ## Signatures -/

/-- The types that the signature of a function lists are the ones it is written with. -/
theorem argumentTexts_routerSignature (f : RouterFunction) (withPermit : Bool) :
    Abi.argumentTexts (routerSignature f.name withPermit f.takesTokenCount) =
      .ok (routerArgumentTexts withPermit f.takesTokenCount) := by
  refine Abi.argumentTexts_router ?_ withPermit f.takesTokenCount
  cases f <;> decide

/-- The types of every signature read back. -/
theorem allReadBack_routerArgumentTexts (withPermit withTokenCount : Bool) :
    ((routerArgumentTexts withPermit withTokenCount).mapM AbiType.ofText?).map
      AbiType.allReadBack = some true := by
  cases withPermit <;> cases withTokenCount <;> decide +kernel

/-! ## Arguments -/

/-- What a call takes from an order beside its amounts and its native action. -/
structure CallArguments where
  given : Bytes
  checked : Bytes
  least : Int
  receiver : Bytes
  /-- The permit with its signature, or the flag that stands in its place. -/
  permission : List AbiValue

namespace CallArguments

/-- The arguments of a call of a function. -/
def toList (a : CallArguments) (f : RouterFunction) (order : Order) (e : EncodedOrder) :
    List AbiValue :=
  [.number order.givenAmount.toNat, .bytes a.given, .bytes a.checked, .number a.least,
      .flag (order.nativeAction = some .wrap), .flag (order.nativeAction = some .unwrap)]
    ++ (if f = .split then [.number e.tokenCount] else [])
    ++ [.bytes a.receiver] ++ a.permission ++ [.bytes e.swaps]

/-- The arguments are the ones of an order that is encoded: its tokens, its receiver, the amount
after slippage, and a permit with its signature if one is used. -/
structure AreOf (a : CallArguments) (t : Strategies) (order : Order) (e : EncodedOrder) : Prop where
  given : order.givenToken.fieldBytes "given token" = .ok a.given
  checked : order.checkedToken.fieldBytes "checked token" = .ok a.checked
  least : leastAmount order.checkAmount.toNat (order.slippage.map fun x => ⟨x, x.toText⟩) =
    .ok a.least
  receiver : order.receiver.fieldBytes "receiver" = .ok a.receiver
  permission : if t.usesPermit order then
      ∃ permit signature value, e.permit = some permit ∧ e.permitSignature = some signature ∧
        permit.toAbi = .ok value ∧ a.permission = [value, .bytes signature]
    else a.permission = [.flag (order.nativeAction ≠ some .wrap)]

theorem length_toList {a : CallArguments} (ha : a.AreOf t order e) :
    (a.toList f order e).length =
      (routerArgumentTexts (t.usesPermit order) f.takesTokenCount).length := by
  have hpermission : a.permission.length = if t.usesPermit order then 2 else 1 := by
    have h := ha.permission
    split at h
    next huses =>
      obtain ⟨permit, signature, value, -, -, -, h⟩ := h
      rw [h, if_pos huses, List.length_cons, List.length_singleton]
    next huses => rw [h, if_neg huses, List.length_singleton]
  rw [toList, routerArgumentTexts, RouterFunction.takesTokenCount]
  simp only [List.length_append, hpermission]
  cases t.usesPermit order <;> cases f <;> rfl

end CallArguments

/-- Data calls a function of the router with the arguments of an order that is encoded for it. -/
structure IsCallOf (t : Strategies) (f : RouterFunction) (order : Order) (e : EncodedOrder)
    (data : Bytes) (a : CallArguments) (texts : List String) (types : List AbiType) : Prop where
  arguments : a.AreOf t order e
  written : e.arguments order = .ok (a.toList f order e)
  signature : e.signature = routerSignature f.name (t.usesPermit order) f.takesTokenCount
  /-- The types that the signature lists, and what they stand for. -/
  listed : Abi.argumentTexts e.signature = .ok texts
  known : texts.mapM AbiType.ofText? = some types
  length_eq : (a.toList f order e).length = texts.length
  /-- The data begins with the four bytes that name the function. -/
  selector : data.take 4 = Abi.selector e.signature
  /-- The rest of the data reads as the arguments. -/
  reads : Abi.decodeAll? types (data.drop 4) = some (a.toList f order e)

/-- The arguments that are written are the ones of the order, in the order of the signature. -/
theorem Strategies.IsFinished.exists_arguments {swaps : Bytes} {count : Nat}
    (hfinished : t.IsFinished f order swaps count e) (hcount : count = 0 ↔ f ≠ .split)
    {values : List AbiValue}
    (h : e.arguments order = .ok values) :
    ∃ a : CallArguments, a.AreOf t order e ∧ values = a.toList f order e := by
  have htokens : (if e.tokenCount = 0 then [] else [AbiValue.number e.tokenCount]) =
      if f = .split then [AbiValue.number e.tokenCount] else [] := by
    rw [hfinished.tokenCount]
    by_cases hf : f = .split
    · have hne : (count : Int) ≠ 0 := fun h => hcount.1 (Int.ofNat_eq_zero.1 h) hf
      rw [if_neg hne, if_pos hf]
    · rw [hcount.2 hf, if_neg hf]
      rfl
  unfold EncodedOrder.arguments at h
  obtain ⟨given, hgiven, h⟩ := bind_eq_ok_iff.1 h
  obtain ⟨checked, hchecked, h⟩ := bind_eq_ok_iff.1 h
  dsimp only at h
  cases hleast : leastAmount order.checkAmount.toNat
      (order.slippage.map fun x => (⟨x, x.toText⟩ : Slippage)) with
  | error fault =>
    rw [hleast] at h
    cases h
  | ok least =>
    rw [hleast] at h
    simp only [pure_bind] at h
    obtain ⟨receiver, hreceiver, h⟩ := bind_eq_ok_iff.1 h
    rw [htokens] at h
    -- a permit is there exactly if one is used, and its signature with it
    cases hpermit : e.permit with
    | none =>
      have huses : t.usesPermit order = false := by rw [← hfinished.permit, hpermit]; rfl
      rw [hpermit] at h
      cases h
      refine ⟨⟨given, checked, least, receiver, _⟩, ⟨hgiven, hchecked, hleast, hreceiver, ?_⟩, rfl⟩
      rw [huses, if_neg Bool.false_ne_true, decide_not]
    | some permit =>
      have huses : t.usesPermit order = true := by rw [← hfinished.permit, hpermit]; rfl
      obtain ⟨signature, hsignature⟩ :=
        Option.isSome_iff_exists.1 (hfinished.permitSignature.trans huses)
      rw [hpermit, hsignature] at h
      obtain ⟨value, hvalue, h⟩ := bind_eq_ok_iff.1 h
      cases h
      refine ⟨⟨given, checked, least, receiver, _⟩, ⟨hgiven, hchecked, hleast, hreceiver, ?_⟩, rfl⟩
      rw [huses, if_pos rfl]
      exact ⟨permit, signature, value, hpermit, hsignature, hvalue, rfl⟩

/-! ## Calls -/

namespace Abi

variable {signature : String} {types : List AbiType} {values : List AbiValue} {bs data : Bytes}

theorem argumentTypes_eq_ok_iff :
    argumentTypes signature = .ok types ↔
      ∃ texts, argumentTexts signature = .ok texts ∧ texts.mapM AbiType.ofText? = some types := by
  rw [argumentTypes, bind_eq_ok_iff]
  refine exists_congr fun texts => and_congr_right fun _ => ?_
  cases texts.mapM AbiType.ofText? with
  | none => exact iff_of_false (fun h => by cases h) fun h => by cases h
  | some found => exact ⟨fun h => congrArg some (Except.ok.inj h), fun h => by cases h; rfl⟩

theorem encodeAll_eq_ok_iff : encodeAll types values = .ok bs ↔ encodeAll? types values = some bs := by
  rw [encodeAll]
  cases encodeAll? types values with
  | none => exact iff_of_false (fun h => by cases h) fun h => by cases h
  | some found => exact ⟨fun h => congrArg some (Except.ok.inj h), fun h => by cases h; rfl⟩

/-- The data of a call names its function and goes on with its encoded arguments. -/
theorem exists_of_call (h : call signature values = .ok data) :
    ∃ types bs, argumentTypes signature = .ok types ∧ encodeAll? types values = some bs ∧
      data = selector signature ++ bs := by
  unfold call at h
  cases hhalf : Text.hasHalf signature with
  | true =>
    rw [hhalf] at h
    cases h
  | false =>
    rw [hhalf] at h
    obtain ⟨types, htypes, h⟩ := bind_eq_ok_iff.1 h
    obtain ⟨bs, hbs, h⟩ := bind_eq_ok_iff.1 h
    cases h
    exact ⟨types, bs, htypes, encodeAll_eq_ok_iff.1 hbs, rfl⟩

end Abi

namespace RouterEncoder

variable {r : RouterEncoder} {tx : Transaction}

/-- A transaction is made of its data and of the router that they are for. -/
theorem transaction_eq : transaction order e =
    (if order.withCall then e.callData order else .ok e.swaps) >>= fun data =>
      match e.router.checked with
      | .ok target =>
        .ok ⟨target, if order.nativeAction = some .wrap then order.givenAmount else .zero, data⟩
      | .error fault => .error (.record [⟨["to"], .value fault⟩]) := by
  unfold transaction
  cases order.withCall <;> rfl

/-- The transaction of an encoded order takes the data of its call, if it is to call the router. -/
theorem data_of_transaction (h : transaction order e = .ok tx) :
    (if order.withCall then e.callData order else .ok e.swaps) = .ok tx.data := by
  rw [transaction_eq] at h
  obtain ⟨data, hdata, h⟩ := bind_eq_ok_iff.1 h
  split at h <;> cases h
  exact hdata

/-- A transaction goes to the router of its order, and takes the amount of the order along where that is
wrapped. -/
theorem target_of_transaction (h : transaction order e = .ok tx) :
    e.router.isWellFormed = true ∧ tx.target = e.router.normal ∧
      tx.value = if order.nativeAction = some .wrap then order.givenAmount else .zero := by
  rw [transaction_eq] at h
  obtain ⟨data, -, h⟩ := bind_eq_ok_iff.1 h
  rw [Address.checked] at h
  by_cases hformed : e.router.isWellFormed = true
  · rw [if_pos hformed] at h
    cases h
    exact ⟨hformed, rfl, rfl⟩
  · rw [if_neg hformed] at h
    cases h

/-- **What an encoded order has gone through**: its router is picked, a function is chosen, its
swaps are encoded for that function, and a transaction is made of them. -/
theorem outcome_encodeOrder_eq_ok_iff :
    (r.encodeOrder approvals order).outcome c = .ok tx ↔
      order.exactOut = false ∧ ∃ router f e, r.routerOf order = .ok router ∧
        r.strategies.choose order = .ok f ∧
        (r.strategies.encodeFor f order router approvals).outcome c = .ok e ∧
        transaction order e = .ok tx := by
  rw [encodeOrder]
  cases order.exactOut with
  | true => exact iff_of_false (fun h => by cases h) fun h => by cases h.1
  | false =>
    simp only [Bool.false_eq_true, if_false, true_and, Encode.outcome_bind_eq_ok_iff,
      Encode.outcome_require_eq_ok_iff, Encode.outcome_ofExcept, exists_and_left]

/-- The data of a transaction with a call reads as the arguments of its order. -/
theorem exists_isCallOf {swaps : Bytes} {count : ℕ} (hcall : order.withCall = true)
    (hfinished : t.IsFinished f order swaps count e) (hcount : count = 0 ↔ f ≠ .split)
    (htx : transaction order e = .ok tx) :
    ∃ a texts types, IsCallOf t f order e tx.data a texts types := by
  have hdata := data_of_transaction htx
  rw [if_pos hcall] at hdata
  obtain ⟨values, hvalues, hdata⟩ := bind_eq_ok_iff.1 hdata
  obtain ⟨a, ha, rfl⟩ := hfinished.exists_arguments hcount hvalues
  obtain ⟨types, bs, htypes, hbs, hdata⟩ := Abi.exists_of_call hdata
  obtain ⟨texts, htexts, htypes⟩ := Abi.argumentTypes_eq_ok_iff.1 htypes
  -- the types are the ones that the signature is written with
  have hwritten : texts = routerArgumentTexts (t.usesPermit order) f.takesTokenCount := by
    rw [hfinished.signature, Strategies.signatureOf, argumentTexts_routerSignature] at htexts
    exact (Except.ok.inj htexts).symm
  have hreads : AbiType.allReadBack types = true := by
    have hall := allReadBack_routerArgumentTexts (t.usesPermit order) f.takesTokenCount
    rw [← hwritten, htypes] at hall
    exact Option.some.inj hall
  refine ⟨a, texts, types, ?_⟩
  constructor
  case arguments => exact ha
  case written => exact hvalues
  case signature => exact hfinished.signature
  case listed => exact htexts
  case length_eq => rw [hwritten, CallArguments.length_toList ha]
  case known => exact htypes
  case selector => rw [hdata, List.take_left' (Abi.length_selector _)]
  case reads =>
    rw [hdata, List.drop_left' (Abi.length_selector _), ← List.append_nil bs]
    exact Abi.decodeAll?_encodeAll? hreads hbs []

/-- **The data of a call reads as its arguments.**  For an order that is encoded with a call, the
arguments are as many as the types of the signature, and behind the four bytes that name the
function the data reads by these types as the arguments of the order. -/
theorem isCallOf_of_encodeOrder (hcall : order.withCall = true)
    (h : (r.encodeOrder approvals order).outcome c = .ok tx) :
    ∃ router f e, r.routerOf order = .ok router ∧ r.strategies.choose order = .ok f ∧
      (r.strategies.encodeFor f order router approvals).outcome c = .ok e ∧
      ∃ a texts types, IsCallOf r.strategies f order e tx.data a texts types := by
  obtain ⟨-, router, f, e, hrouter, hf, he, htx⟩ := outcome_encodeOrder_eq_ok_iff.1 h
  obtain ⟨swaps, count, hfinished, hcount⟩ := Strategies.isFinished_of_encodeFor he
  exact ⟨router, f, e, hrouter, hf, he, exists_isCallOf hcall hfinished hcount htx⟩

end RouterEncoder

namespace Sample

/-- An encoder of orders for one router. -/
def encoder : RouterEncoder where
  strategies := strategies
  router := some Sample.router

/-- An order that forks and joins again. -/
def forkedCall : Order :=
  sale [swap usdcWeth weth usdc half, swap usdcWeth' weth usdc, swap daiUsdc usdc dai]

/-- The data of a split order reads as its arguments. -/
theorem isCallOf_forkedCall :
    ∃ tx, (encoder.encodeOrder none forkedCall).outcome {} = .ok tx ∧
      ∃ e a texts types, IsCallOf strategies .split forkedCall e tx.data a texts types := by
  have hrun : ((encoder.encodeOrder none forkedCall).outcome {}).toOption.isSome = true := by
    decide +kernel
  obtain ⟨tx, hencodes⟩ := exists_eq_ok_of_isSome hrun
  have hchoose : strategies.choose forkedCall = .ok .split :=
    eq_ok_of_toOption_eq_some (by decide +kernel)
  obtain ⟨router, f, e, -, hf, -, a, texts, types, hreads⟩ :=
    RouterEncoder.isCallOf_of_encodeOrder rfl hencodes
  cases hchoose.symm.trans hf
  exact ⟨tx, hencodes, e, a, texts, types, hreads⟩

end Sample

end SwapRouter
