import SwapRouter.Proofs.Permit.Refusal

/-!
# What a permit binds

An encoder with a signer puts a permit into every call whose order does not wrap the native coin.  The
permit is made while the order is finished, turned into a tuple for the call, and signed as typed data;
the router is picked and its address normalized before all of that, and the target of the transaction is
derived from it afterwards.  All of them go by the same five values: the sender is the signer, and the
token, the amount, the nonce and the router stand in the call as they are signed.

An order of another sender, or with an amount that no permit holds, is refused before a nonce is read.
An order that wraps the native coin uses no permit, and calls the function without one.

* `RouterEncoder.CarriesPermit`: the permit that a call carries.
* `RouterEncoder.BindsPermits`: when there is a permit, when the order is refused, and when there is none.
* `RouterEncoder.bindsPermits`: **a permit binds the signer, the order, the nonce and the target.**
-/

namespace SwapRouter

variable {r : RouterEncoder} {t : Strategies} {f : RouterFunction} {order : Order} {router : Address}
  {approvals : Option ApprovalSource} {c : Circumstances} {e : EncodedOrder} {tx : Transaction}
  {signer : Signer} {chain : Chain} {text : String} {now : Option ℤ} {reader : Option ChainReader}
  {key : Secp256k1.SecretKey}

/-! ## The permit of an order -/

namespace Signer

theorem eq_of_ofText (h : ofText chain text now reader = .ok signer) :
    readKey? text = some signer.key ∧
      signer = ⟨signer.key, addressOf signer.key, chain, now, reader⟩ := by
  rw [ofText] at h
  split at h
  next key hkey =>
    cases h
    exact ⟨hkey, rfl⟩
  next => cases h

/-- The bytes of the address of a key. -/
def ownerBytes (key : Secp256k1.SecretKey) : Bytes := (Keccak.hash key.publicBytes).drop 12

theorem length_ownerBytes (key : Secp256k1.SecretKey) : (ownerBytes key).length = 20 := by
  rw [ownerBytes, List.length_drop, Keccak.length_hash]

theorem strictBytes?_addressOf (key : Secp256k1.SecretKey) :
    (addressOf key).strictBytes? = some (ownerBytes key) :=
  Address.strictBytes?_ofBytes (length_ownerBytes key)

theorem normal_addressOf (key : Secp256k1.SecretKey) : (addressOf key).normal = addressOf key :=
  Address.normal_ofBytes (length_ownerBytes key)

end Signer

namespace Strategies

theorem usesPermit_iff (hsigner : t.signer = some signer) :
    t.usesPermit order = true ↔ order.nativeAction ≠ some .wrap := by
  rw [usesPermit, hsigner, Option.isSome_some, Bool.true_and, decide_eq_true_iff]

theorem exists_of_signedPermit {signed : Option (Permit × Bytes)} (huses : t.usesPermit order = true)
    (hsigner : t.signer = some signer) (h : (t.signedPermit order router).outcome c = .ok signed) :
    ∃ p signature, (signer.permit router order.sender order.givenToken order.givenAmount.toNat).outcome c =
      .ok p ∧ signer.sign p = .ok signature ∧ signed = some (p, signature) := by
  rw [signedPermit, if_pos huses, hsigner] at h
  obtain ⟨p, hp, h⟩ := Encode.outcome_bind_eq_ok_iff.1 h
  obtain ⟨signature, hsignature, h⟩ := Encode.outcome_bind_eq_ok_iff.1 h
  cases h
  rw [Encode.outcome_ofExcept] at hsignature
  exact ⟨p, signature, hp, hsignature, rfl⟩

end Strategies

namespace RouterEncoder

/-- **The permit that a call carries.**  The sender of the order is the owner of the key, and the amount
fits.  The permit is for the token and the amount of the order, counts from now on, has the nonce that the
chain answers for sender, token and target, and names the target of the transaction as the spender.  The
signature behind it is the one of the key for this very tuple. -/
structure CarriesPermit (chain : Chain) (key : Secp256k1.SecretKey) (now : Option ℤ)
    (reader : Option ChainReader) (order : Order) (target : Address) (a : CallArguments) : Prop where
  sender : order.sender.normal = Signer.addressOf key
  amount_le : order.givenAmount.toNat ≤ 2 ^ 160 - 1
  permission : ∃ start nonce spender signature, now = some start ∧ target = .ofBytes spender ∧
    spender.length = 20 ∧ Permit.IsRead reader (Signer.ownerBytes key) a.given spender nonce ∧
    let permit := Permit.tuple a.given order.givenAmount.toNat (start + 30 * 24 * 60 * 60) nonce spender
      (start + 30 * 60)
    Permit.IsSigned chain key permit signature ∧ a.permission = [permit, .bytes signature]

/-- When a call carries a permit, when its order is refused, and when there is none. -/
structure BindsPermits (r : RouterEncoder) (chain : Chain) (key : Secp256k1.SecretKey) (now : Option ℤ)
    (reader : Option ChainReader) (order : Order) (approvals : Option ApprovalSource)
    (c : Circumstances) : Prop where
  permitted : order.nativeAction ≠ some .wrap → order.withCall = true → ∀ tx,
    (r.encodeOrder approvals order).outcome c = .ok tx →
      ∃ router f e a texts types, r.routerOf order = .ok router ∧ r.strategies.choose order = .ok f ∧
        (r.strategies.encodeFor f order router approvals).outcome c = .ok e ∧
        IsCallOf r.strategies f order e tx.data a texts types ∧
        CarriesPermit chain key now reader order tx.target a
  refused : order.nativeAction ≠ some .wrap →
    order.sender.normal ≠ Signer.addressOf key ∨ 2 ^ 160 - 1 < order.givenAmount.toNat →
      (∃ failure, (r.encodeOrder approvals order).outcome c = .error failure) ∧
      (∀ signal q, .asked q ∈ (r.encodeOrder approvals order).askedIf c signal →
        q.isPermitRead = false) ∧
      ∀ tx, (r.unsigned.encodeOrder approvals order).outcome c = .ok tx → ∃ reason : EncodingError,
        (r.encodeOrder approvals order).outcome c = .error (.encoding reason) ∧
          reason.kind = .invalidInput
  wrapped : order.nativeAction = some .wrap →
    (∀ signal q, .asked q ∈ (r.encodeOrder approvals order).askedIf c signal →
      q.isPermitRead = false) ∧
    ∀ tx, (r.encodeOrder approvals order).outcome c = .ok tx →
      ∃ router f e, r.routerOf order = .ok router ∧ r.strategies.choose order = .ok f ∧
        (r.strategies.encodeFor f order router approvals).outcome c = .ok e ∧
        e.permit = none ∧ e.permitSignature = none ∧
        e.signature = routerSignature f.name false f.takesTokenCount ∧
        (order.withCall = true → ∃ a texts types,
          IsCallOf r.strategies f order e tx.data a texts types ∧ a.permission = [.flag false])

/-- What a finished order with a permit has gone through. -/
theorem exists_permit_of_encodeFor (hsigner : t.signer = some signer)
    (hwraps : order.nativeAction ≠ some .wrap)
    (h : (t.encodeFor f order router approvals).outcome c = .ok e) :
    ∃ p signature, (signer.permit router order.sender order.givenToken order.givenAmount.toNat).outcome c =
      .ok p ∧ signer.sign p = .ok signature ∧ e.router = router ∧ e.permit = some p ∧
        e.permitSignature = some signature := by
  obtain ⟨swaps, count, hfinish, -⟩ := Strategies.exists_finish_of_encodeFor h
  obtain ⟨signed, hsigned, rfl⟩ := Strategies.exists_signed_of_finish hfinish
  obtain ⟨p, signature, hp, hsignature, rfl⟩ :=
    Strategies.exists_of_signedPermit ((Strategies.usesPermit_iff hsigner).2 hwraps) hsigner hsigned
  exact ⟨p, signature, hp, hsignature, rfl, rfl, rfl⟩

/-- The permit among the arguments of a call, and where it comes from. -/
structure IsPermitOf (signer : Signer) (order : Order) (router : Address) (c : Circumstances)
    (target : Address) (a : CallArguments) (start nonce : ℤ) (spender signature : Bytes) : Prop where
  sender : order.sender.normal = signer.owner
  amount_lt : order.givenAmount.toNat < Nat.pow 2 160
  now : signer.now = some start
  reads_nonce : (signer.nonce order.sender.normal order.givenToken router).outcome c = .ok nonce
  target : target = .ofBytes spender
  length_spender : spender.length = 20
  /-- The token and the spender are read alike for the call, for the signature and for the nonce. -/
  reads_token : order.givenToken.normal.strictBytes? = some a.given
  reads_spender : router.normal.strictBytes? = some spender
  signed : Permit.IsSigned signer.chain signer.key (Permit.tuple a.given order.givenAmount.toNat
    (start + Permit.lifetime) nonce spender (start + Permit.signatureLifetime)) signature
  permission : a.permission = [Permit.tuple a.given order.givenAmount.toNat (start + Permit.lifetime)
    nonce spender (start + Permit.signatureLifetime), .bytes signature]

/-- **The permit of a call** is the one that its order is finished with. -/
theorem exists_isPermitOf {a : CallArguments} (hsigner : t.signer = some signer)
    (hwraps : order.nativeAction ≠ some .wrap)
    (he : (t.encodeFor f order router approvals).outcome c = .ok e) (ha : a.AreOf t order e)
    (htx : transaction order e = .ok tx) :
    ∃ start nonce spender signature,
      IsPermitOf signer order router c tx.target a start nonce spender signature := by
  obtain ⟨p, signature, hp, hsignature, hrouter, hpermit, hpermitSignature⟩ :=
    exists_permit_of_encodeFor hsigner hwraps he
  obtain ⟨howner, hamount, nonce, start, hnonce, hstart, rfl⟩ := Signer.outcome_permit_eq_ok_iff.1 hp
  obtain ⟨hformed, htarget, -⟩ := target_of_transaction htx
  rw [hrouter] at hformed htarget
  -- the given token is well formed, since it stands in a field of the call
  have hgiven : order.givenToken.isWellFormed = true ∧ order.givenToken.wellFormedBytes = .ok a.given := by
    have hfield := ha.given
    rw [Address.fieldBytes] at hfield
    split at hfield
    next hgiven => exact ⟨hgiven, hfield⟩
    next => cases hfield
  obtain ⟨token, spender, htoken, hspender, hbytes, habi, hsigned⟩ :=
    Signer.exists_tuple_of_sign hsignature (Address.isWellFormed_normal hgiven.1)
      (Address.isWellFormed_normal hformed)
  dsimp only at htoken hspender hbytes habi hsigned
  -- the token that is signed is the one of the call
  obtain rfl : token = a.given := by
    rw [Address.wellFormedBytes_normal hgiven.1, hgiven.2] at hbytes
    exact (Except.ok.inj hbytes).symm
  have hexact := Address.isExact_of_strictBytes? (Address.isWellFormed_normal hformed) hspender
  refine ⟨start, nonce, spender, signature, ?_⟩
  constructor
  case sender => exact howner
  case amount_lt => exact Int.ofNat_lt.1 hamount
  case now => exact hstart
  case reads_nonce => exact hnonce
  case target =>
    rw [htarget, ← Address.normal_normal hformed]
    exact Address.normal_eq_ofBytes hexact.1.wellFormed hexact.1.digits hexact.2.1
  case length_spender => exact hexact.2.2
  case reads_token => exact htoken
  case reads_spender => exact hspender
  case signed => exact hsigned
  case permission =>
    have hpermission := ha.permission
    rw [if_pos ((Strategies.usesPermit_iff hsigner).2 hwraps)] at hpermission
    obtain ⟨p, signature', value, hp, hsignature', hvalue, hpermission⟩ := hpermission
    obtain rfl := Option.some.inj (hpermit.symm.trans hp)
    obtain rfl := Option.some.inj (hpermitSignature.symm.trans hsignature')
    rw [hpermission, ← Except.ok.inj (habi.symm.trans hvalue)]

/-- The permit of a call is one of the key, with a nonce that the chain has answered. -/
theorem IsPermitOf.carriesPermit {a : CallArguments} {target : Address} {start nonce : ℤ}
    {spender signature : Bytes}
    (h : IsPermitOf ⟨key, Signer.addressOf key, chain, now, reader⟩ order router c target a start nonce
      spender signature) :
    CarriesPermit chain key now reader order target a := by
  obtain ⟨read, data, response, hread, hdata, hresponse, hfound⟩ :=
    Signer.outcome_nonce_eq_ok_iff.1 h.reads_nonce
  obtain ⟨amount, expiration, hdecoded⟩ := Permit.nonceOfResponse_eq_ok_iff.1 hfound
  have hcall : Abi.call Permit.allowanceSignature
      [.bytes (Signer.ownerBytes key), .bytes a.given, .bytes spender] = .ok data := by
    refine Permit.call_of_allowanceData ?_ h.reads_token h.reads_spender hdata
    rw [h.sender, Signer.normal_addressOf, Signer.strictBytes?_addressOf]
  constructor
  case sender => exact h.sender
  case amount_le => exact Nat.le_sub_one_of_lt h.amount_lt
  case permission =>
    refine ⟨start, nonce, spender, signature, h.now, h.target, h.length_spender, ?_, h.signed,
      h.permission⟩
    exact ⟨read, data, response, amount, expiration, hread, hcall, hresponse, hdecoded,
      Permit.bounds_of_decodeAll? hdecoded⟩

/-- Who sends another one's order, or one that is too large, is refused. -/
theorem isSome_refusal (hr : t.signer = some ⟨key, Signer.addressOf key, chain, now, reader⟩)
    (hwrong : order.sender.normal ≠ Signer.addressOf key ∨ 2 ^ 160 - 1 < order.givenAmount.toNat) :
    ∀ signer, t.signer = some signer →
      (signer.refusal? order.sender order.givenAmount.toNat).isSome = true := by
  intro signer hsigner
  obtain rfl := Option.some.inj (hr.symm.trans hsigner)
  refine Signer.isSome_refusal?_iff.2 (hwrong.imp id fun hlarge => ?_)
  exact Int.ofNat_le.2 (Nat.le_of_pred_lt hlarge)

/-- **A permit binds the signer, the order, the nonce and the target.** -/
theorem bindsPermits (hsigner : Signer.ofText chain text now reader = .ok signer)
    (hr : r.strategies.signer = some signer) (order : Order) (approvals : Option ApprovalSource)
    (c : Circumstances) :
    ∃ key, Signer.readKey? text = some key ∧
      r.BindsPermits chain key now reader order approvals c := by
  obtain ⟨hkey, hsame⟩ := Signer.eq_of_ofText hsigner
  rw [hsame] at hr
  refine ⟨signer.key, hkey, ?_⟩
  constructor
  case permitted =>
    intro hwraps hcall tx h
    obtain ⟨-, router, f, e, hrouter, hf, he, htx⟩ := outcome_encodeOrder_eq_ok_iff.1 h
    obtain ⟨swaps, count, hfinished, hcount⟩ := Strategies.isFinished_of_encodeFor he
    obtain ⟨a, texts, types, hcallOf⟩ := exists_isCallOf hcall hfinished hcount htx
    obtain ⟨start, nonce, spender, signature, hpermit⟩ :=
      exists_isPermitOf hr hwraps he hcallOf.arguments htx
    exact ⟨router, f, e, a, texts, types, hrouter, hf, he, hcallOf, hpermit.carriesPermit⟩
  case refused =>
    intro hwraps hwrong
    have huses : r.strategies.usesPermit order = true := (Strategies.usesPermit_iff hr).2 hwraps
    have hrefused := isSome_refusal hr hwrong
    obtain ⟨reason, hreason⟩ := Option.isSome_iff_exists.1 (hrefused _ hr)
    refine ⟨?_, fun signal q => isPermitRead_eq_false fun _ => hrefused, fun tx h =>
      ⟨reason, outcome_encodeOrder_of_refusal huses hr hreason h, Signer.kind_of_refusal? hreason⟩⟩
    cases h : (r.encodeOrder approvals order).outcome c with
    | error failure => exact ⟨failure, rfl⟩
    | ok tx =>
      obtain ⟨-, router, f, e, -, -, he, -⟩ := outcome_encodeOrder_eq_ok_iff.1 h
      obtain ⟨p, -, hp, -⟩ := exists_permit_of_encodeFor hr hwraps he
      rw [Signer.permit_of_refusal? hreason] at hp
      cases hp
  case wrapped =>
    intro hwraps
    have huses : r.strategies.usesPermit order = false :=
      Bool.eq_false_iff.2 fun huses => (Strategies.usesPermit_iff hr).1 huses hwraps
    refine ⟨fun signal q => isPermitRead_eq_false fun h => absurd h (Bool.eq_false_iff.1 huses),
      fun tx h => ?_⟩
    obtain ⟨-, router, f, e, hrouter, hf, he, htx⟩ := outcome_encodeOrder_eq_ok_iff.1 h
    obtain ⟨swaps, count, hfinished, hcount⟩ := Strategies.isFinished_of_encodeFor he
    have hnone {α : Type} {x : Option α} (h : x.isSome = r.strategies.usesPermit order) : x = none :=
      Option.not_isSome_iff_eq_none.1 (Bool.eq_false_iff.1 (h.trans huses))
    refine ⟨router, f, e, hrouter, hf, he, hnone hfinished.permit, hnone hfinished.permitSignature, ?_,
      fun hcall => ?_⟩
    · rw [hfinished.signature, Strategies.signatureOf, huses]
    · obtain ⟨a, texts, types, hcallOf⟩ := exists_isCallOf hcall hfinished hcount htx
      refine ⟨a, texts, types, hcallOf, ?_⟩
      have hpermission := hcallOf.arguments.permission
      rw [if_neg (Bool.eq_false_iff.1 huses)] at hpermission
      rw [hpermission, decide_eq_false (not_not_intro hwraps)]

end RouterEncoder

namespace Sample

/-- A reader that answers with seven as the number of the next permit. -/
def numberedReader : ChainReader := fun _ _ => .ok (Bytes.zeros 95 ++ [7])

/-- A signer that reads from such a chain. -/
def readingSigner : Signer :=
  ⟨unreadKey, Signer.addressOf unreadKey, .ethereum, some 1700000000, some numberedReader⟩

/-- Encoders with this signer. -/
def signedEncoder : RouterEncoder :=
  { encoder with strategies := { strategies with signer := some readingSigner } }

/-- An order of the signer. -/
def ownSale : Order :=
  { inOrder with sender := Signer.addressOf unreadKey, givenAmount := ⟨12, by decide⟩ }

/-- The words of the permit for that order: token, amount, end, number, spender, and how long the
signature may be used. -/
def ownPermit : Bytes :=
  [0xC02AAA39B223FE8D0A0E5C4F27EAD9083C756CC2, 12, 1700000000 + 30 * 24 * 60 * 60, 7,
    0xFD0B31D2E955FA55E3FA641FE90E08B677188D35, 1700000000 + 30 * 60].flatMap (Bytes.ofNat 32)

/-- An order of the signer that no permit holds. -/
def largeSale : Order :=
  { ownSale with givenAmount := ⟨Nat.pow 2 160, by decide⟩, withCall := false }

theorem ofText_unreadKey :
    Signer.ofText .ethereum "0x0000000000000000000000000000000000000000000000000000000000000001"
      (some 1700000000) (some numberedReader) = .ok readingSigner := by
  have hkey : (Signer.readKey?
      "0x0000000000000000000000000000000000000000000000000000000000000001").map
        Secp256k1.SecretKey.scalar = some 1 := by decide +kernel
  obtain ⟨key, hread, hscalar⟩ := Option.map_eq_some_iff.1 hkey
  obtain ⟨scalar, hpos, hlt⟩ := key
  obtain rfl : scalar = 1 := hscalar
  rw [Signer.ofText, hread]
  rfl

/-- The encoders bind the permits of an order of the signer: its call has the words of the permit behind
seven other ones.  An order that is too large is refused with a reason that blames the order. -/
theorem bindsPermits_ownSale :
    (∃ key, Signer.readKey? "0x0000000000000000000000000000000000000000000000000000000000000001" =
      some key ∧ signedEncoder.BindsPermits .ethereum key (some 1700000000) (some numberedReader) ownSale
        none {}) ∧
    (∃ tx, (signedEncoder.encodeOrder none ownSale).outcome {} = .ok tx ∧
      (tx.data.drop (4 + 7 * 32)).take (6 * 32) = ownPermit) ∧
    ∃ reason : EncodingError, (signedEncoder.encodeOrder none largeSale).outcome {} =
      .error (.encoding reason) ∧ reason.kind = .invalidInput := by
  have hsigner : signedEncoder.strategies.signer = some readingSigner := rfl
  refine ⟨RouterEncoder.bindsPermits ofText_unreadKey hsigner ownSale none {}, ?_, ?_⟩
  · have hrun : ((signedEncoder.encodeOrder none ownSale).outcome {}).toOption.map (fun tx =>
        (tx.data.drop (4 + 7 * 32)).take (6 * 32)) = some ownPermit := by decide +kernel
    obtain ⟨tx, htx, hwords⟩ := Option.map_eq_some_iff.1 hrun
    exact ⟨tx, eq_ok_of_toOption_eq_some htx, hwords⟩
  · obtain ⟨key, -, hbinds⟩ := RouterEncoder.bindsPermits ofText_unreadKey hsigner largeSale none {}
    have hlarge : 2 ^ 160 - 1 < largeSale.givenAmount.toNat := by decide
    have hrun : ((signedEncoder.unsigned.encodeOrder none largeSale).outcome {}).toOption.isSome =
        true := by decide +kernel
    obtain ⟨tx, hunsigned⟩ := exists_eq_ok_of_isSome hrun
    exact (hbinds.refused (by decide) (Or.inr hlarge)).2.2 tx hunsigned

end Sample

end SwapRouter
