import SwapRouter.Proofs.LookUp.NormalForm
import SwapRouter.Proofs.RouterCall

/-!
# Permits and what is signed

A permit is written down three times.  It is a record while an order is encoded, a tuple among the
arguments of the call, and typed data where it is signed.  The record keeps addresses as texts, and the
two others read them in different ways: the tuple leniently, the typed data strictly.  For an address
that both accept, the bytes are the same, so what is signed can be told from the tuple alone.

* `Permit.tuple`, `Permit.digestOf?`: the tuple of a permit, and the hash that is signed for a tuple.
* `Permit.digestOf?_tuple`: **the hash of a permit is the hash of its tuple.**
* `Permit.IsRead`: the nonce that a chain answers to three addresses.
* `Signer.outcome_permit_eq_ok_iff`: **what a permit is made of.**
* `Signer.exists_tuple_of_sign`: **what is signed is the tuple.**
-/

namespace SwapRouter

namespace Permit

variable {chain : Chain} {p : Permit} {token spender owner response data : Bytes} {nonce : ℤ}

/-! ## The tuple of a permit -/

/-- A permit as an argument of a call: token, amount, end and nonce, then the spender and the time until
which the signature may be used. -/
def tuple (token : Bytes) (amount expiration nonce : ℤ) (spender : Bytes) (deadline : ℤ) : AbiValue :=
  .tuple [.tuple [.bytes token, .number amount, .number expiration, .number nonce], .bytes spender,
    .number deadline]

/-- The hash that is signed for a tuple, as typed data for the contract of permits on a chain. -/
def digestOf? (chain : Chain) : AbiValue → Option Bytes
  | .tuple [.tuple details, spender, deadline] => do
    let details ← Abi.encodeAll? [.address, .uint 160, .uint 48, .uint 48] details
    let fields ← Abi.encodeAll? [.address, .uint 256] [spender, deadline]
    let contractBytes ← contract.strictBytes?
    return Keccak.hash ([0x19, 0x01] ++ Keccak.hash (domainEncoding chain.id contractBytes) ++
      Keccak.hash (Keccak.hashText permitType ++
        Keccak.hash (Keccak.hashText detailsType ++ details) ++ fields))
  | _ => none

/-- A signature is the one that a key makes for a tuple. -/
def IsSigned (chain : Chain) (key : Secp256k1.SecretKey) (value : AbiValue) (signature : Bytes) : Prop :=
  ∃ digest s, digestOf? chain value = some digest ∧ Secp256k1.sign? key digest = some s ∧
    signature = s.toBytes

theorem addressBytes_eq_ok_iff {a : Address} {bs : Bytes} :
    addressBytes a = .ok bs ↔ a.strictBytes? = some bs := by
  rw [addressBytes]
  cases a.strictBytes? with
  | none => exact iff_of_false (fun h => by cases h) fun h => by cases h
  | some found => exact ⟨fun h => congrArg some (Except.ok.inj h), fun h => by cases h; rfl⟩

theorem toAbi_eq (htoken : p.details.token.toBytes = .ok token) (hspender : p.spender.toBytes = .ok spender) :
    p.toAbi = .ok (tuple token p.details.amount p.details.expiration p.details.nonce spender p.deadline) := by
  rw [toAbi, htoken, hspender]
  rfl

/-- **The hash of a permit is the hash of its tuple.** -/
theorem digestOf?_tuple {digest : Bytes} (h : Permit.digest chain p = .ok digest) :
    ∃ token spender, p.details.token.strictBytes? = some token ∧ p.spender.strictBytes? = some spender ∧
      digestOf? chain (tuple token p.details.amount p.details.expiration p.details.nonce spender
        p.deadline) = some digest := by
  obtain ⟨signed, hsigned, h⟩ := bind_eq_ok_iff.1 h
  obtain ⟨contractBytes, hcontract, hsigned⟩ := bind_eq_ok_iff.1 hsigned
  obtain ⟨permit, hpermit, hsigned⟩ := bind_eq_ok_iff.1 hsigned
  obtain ⟨details, hdetails, hpermit⟩ := bind_eq_ok_iff.1 hpermit
  obtain ⟨spender, hspender, hpermit⟩ := bind_eq_ok_iff.1 hpermit
  obtain ⟨fields, hfields, hpermit⟩ := bind_eq_ok_iff.1 hpermit
  obtain ⟨token, htoken, hdetails⟩ := bind_eq_ok_iff.1 hdetails
  obtain ⟨inner, hinner, hdetails⟩ := bind_eq_ok_iff.1 hdetails
  cases h
  cases hsigned
  cases hpermit
  cases hdetails
  rw [addressBytes_eq_ok_iff] at hcontract htoken hspender
  refine ⟨token, spender, htoken, hspender, ?_⟩
  have hinner' := Abi.encodeAll_eq_ok_iff.1 hinner
  have hfields' := Abi.encodeAll_eq_ok_iff.1 hfields
  rw [tuple, digestOf?, hinner', hfields', hcontract]
  rfl

/-! ## Nonces -/

/-- A nonce is what the contract of permits answers when it is asked for the permit that an owner has
given a spender for a token. -/
def IsRead (reader : Option ChainReader) (owner token spender : Bytes) (nonce : ℤ) : Prop :=
  ∃ read data response amount expiration, reader = some read ∧
    Abi.call allowanceSignature [.bytes owner, .bytes token, .bytes spender] = .ok data ∧
    read contract data = .ok response ∧
    Abi.decodeAll? [.uint 160, .uint 48, .uint 48] response =
      some [amount, expiration, .number nonce] ∧ 0 ≤ nonce ∧ nonce < (Nat.pow 2 48 : ℕ)

theorem nonceOfResponse_eq_ok_iff :
    nonceOfResponse response = .ok nonce ↔ ∃ amount expiration,
      Abi.decodeAll? [.uint 160, .uint 48, .uint 48] response =
        some [amount, expiration, .number nonce] := by
  unfold nonceOfResponse
  split
  next amount expiration found hread =>
    rw [hread]
    constructor
    · intro h
      cases h
      exact ⟨amount, expiration, rfl⟩
    · rintro ⟨amount', expiration', h⟩
      cases h
      rfl
  next hnone =>
    constructor
    · intro h
      cases h
    · rintro ⟨amount, expiration, h⟩
      exact absurd h (hnone amount expiration nonce)


/-- A nonce that is read has 48 bits. -/
theorem bounds_of_decodeAll? {amount expiration : AbiValue}
    (h : Abi.decodeAll? [.uint 160, .uint 48, .uint 48] response =
      some [amount, expiration, .number nonce]) : 0 ≤ nonce ∧ nonce < (Nat.pow 2 48 : ℕ) := by
  obtain ⟨-, h⟩ := Abi.of_decodeParts?_cons rfl h
  obtain ⟨-, h⟩ := Abi.of_decodeParts?_cons rfl h
  obtain ⟨hnonce, -⟩ := Abi.of_decodeParts?_cons rfl h
  obtain ⟨hpos, hlt⟩ := Abi.bounds_of_decode?_uint hnonce
  exact ⟨hpos, hlt⟩

theorem call_of_allowanceData {owner' token' spender' : Address}
    (howner : owner'.normal.strictBytes? = some owner) (htoken : token'.normal.strictBytes? = some token)
    (hspender : spender'.normal.strictBytes? = some spender)
    (h : allowanceData owner' token' spender' = .ok data) :
    Abi.call allowanceSignature [.bytes owner, .bytes token, .bytes spender] = .ok data := by
  obtain ⟨owner, howner', h⟩ := bind_eq_ok_iff.1 h
  obtain ⟨token, htoken', h⟩ := bind_eq_ok_iff.1 h
  obtain ⟨spender, hspender', h⟩ := bind_eq_ok_iff.1 h
  rw [addressBytes_eq_ok_iff] at howner' htoken' hspender'
  cases howner.symm.trans howner'
  cases htoken.symm.trans htoken'
  cases hspender.symm.trans hspender'
  exact h

end Permit

/-! ## What a signer makes -/

namespace Signer

variable {s : Signer} {spender owner token : Address} {amount : ℤ} {nonce : ℤ} {p : Permit}
  {c : Circumstances}

theorem outcome_nonce_eq_ok_iff :
    (s.nonce owner token spender).outcome c = .ok nonce ↔ ∃ read data response,
      s.reader = some read ∧ Permit.allowanceData owner token spender = .ok data ∧
        read Permit.contract data = .ok response ∧ Permit.nonceOfResponse response = .ok nonce := by
  unfold Signer.nonce
  cases s.reader with
  | none => exact iff_of_false (fun h => by cases h) fun ⟨_, _, _, h, _⟩ => by cases h
  | some read =>
    simp only [Encode.outcome_bind_eq_ok_iff, Encode.outcome_ofExcept, Encode.outcome_ask]
    constructor
    · rintro ⟨data, hdata, -, -, response, hresponse, hnonce⟩
      exact ⟨read, data, response, rfl, hdata, hresponse, hnonce⟩
    · rintro ⟨read', data, response, hread, hdata, hresponse, hnonce⟩
      cases hread
      exact ⟨data, hdata, (), trivial, response, hresponse, hnonce⟩

theorem start_eq_ok_iff {start : ℤ} : s.start = .ok start ↔ s.now = some start := by
  rw [Signer.start]
  cases s.now with
  | none => exact iff_of_false (fun h => by cases h) fun h => by cases h
  | some t => exact ⟨fun h => congrArg some (Except.ok.inj h), fun h => by cases h; rfl⟩

/-- **What a permit is made of.**  Its owner is the signer, its amount fits, and its nonce is read for
the owner, the token and the spender. -/
theorem outcome_permit_eq_ok_iff :
    (s.permit spender owner token amount).outcome c = .ok p ↔
      owner.normal = s.owner ∧ amount < (Nat.pow 2 160 : ℕ) ∧ ∃ nonce start,
        (s.nonce owner.normal token spender).outcome c = .ok nonce ∧ s.now = some start ∧
          p = ⟨⟨token.normal, amount, start + Permit.lifetime, nonce⟩, spender.normal,
            start + Permit.signatureLifetime⟩ := by
  unfold Signer.permit
  by_cases howner : owner.normal = s.owner
  · rw [if_neg (not_not_intro howner)]
    by_cases hamount : (Nat.pow 2 160 : ℕ) ≤ amount
    · rw [if_pos hamount]
      exact iff_of_false (fun h => by cases h) fun h => absurd h.2.1 (not_lt_of_ge hamount)
    · rw [if_neg hamount]
      simp only [Encode.outcome_bind_eq_ok_iff, Encode.outcome_ofExcept, Encode.outcome_pure,
        Except.ok.injEq, start_eq_ok_iff]
      constructor
      · rintro ⟨nonce, hnonce, start, hstart, rfl⟩
        exact ⟨howner, lt_of_not_ge hamount, nonce, start, hnonce, hstart, rfl⟩
      · rintro ⟨-, -, nonce, start, hnonce, hstart, rfl⟩
        exact ⟨nonce, hnonce, start, hstart, rfl⟩
  · rw [if_pos howner]
    exact iff_of_false (fun h => by cases h) fun h => howner h.1

theorem sign_eq_ok_iff {signature : Bytes} :
    s.sign p = .ok signature ↔ ∃ digest found, Permit.digest s.chain p = .ok digest ∧
      Secp256k1.sign? s.key digest = some found ∧ signature = found.toBytes := by
  unfold Signer.sign
  rw [bind_eq_ok_iff]
  refine exists_congr fun digest => ?_
  cases Secp256k1.sign? s.key digest with
  | none => exact iff_of_false (fun h => by cases h.2) fun ⟨_, _, h, _⟩ => by cases h
  | some found =>
    constructor
    · rintro ⟨hdigest, h⟩
      exact ⟨found, hdigest, rfl, (Except.ok.inj h).symm⟩
    · rintro ⟨found', hdigest, hfound, hsignature⟩
      obtain rfl := Option.some.inj hfound
      exact ⟨hdigest, congrArg Except.ok hsignature.symm⟩

/-- **What is signed is the tuple** that the call takes. -/
theorem exists_tuple_of_sign {signature : Bytes} (h : s.sign p = .ok signature)
    (htoken : p.details.token.isWellFormed = true) (hspender : p.spender.isWellFormed = true) :
    ∃ token spender, p.details.token.strictBytes? = some token ∧ p.spender.strictBytes? = some spender ∧
      p.details.token.wellFormedBytes = .ok token ∧ p.toAbi = .ok (Permit.tuple token p.details.amount
        p.details.expiration p.details.nonce spender p.deadline) ∧
      Permit.IsSigned s.chain s.key (Permit.tuple token p.details.amount p.details.expiration
        p.details.nonce spender p.deadline) signature := by
  obtain ⟨digest, found, hdigest, hfound, hsignature⟩ := sign_eq_ok_iff.1 h
  obtain ⟨token, spender, htoken', hspender', htuple⟩ := Permit.digestOf?_tuple hdigest
  have htokenBytes := (Address.isExact_of_strictBytes? htoken htoken').2.1
  have hspenderBytes := (Address.isExact_of_strictBytes? hspender hspender').2.1
  refine ⟨token, spender, htoken', hspender', htokenBytes, ?_, digest, found, htuple, hfound, hsignature⟩
  refine Permit.toAbi_eq ?_ ?_
  · rw [Address.toBytes, if_pos htoken, htokenBytes]
  · rw [Address.toBytes, if_pos hspender, hspenderBytes]

end Signer

end SwapRouter
