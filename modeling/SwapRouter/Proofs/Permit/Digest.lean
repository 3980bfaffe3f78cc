import SwapRouter.Proofs.Abi.Size
import SwapRouter.Proofs.Order.Spelling
import SwapRouter.Proofs.Permit.Signed

/-!
# What a signature of a permit is for

What is signed is a hash, and further hashes stand inside it: one for the domain, one for the permit, and
in that one another for the details.  None of them can be inverted, but this is not needed.  Two permits
with the same signed hash have been hashed in the same steps, and at each step there are two cases.
Either the byte strings that are hashed are the same; then their parts are, since each part has a place
of its own and the encoding of arguments reads back.  Or they are different, and then these two have the
same hash.

So whoever has two permits that differ, or one permit for two chains, with the same signed hash also has
two different byte strings with the same hash, and knows where to look for them.  Nothing is used of the
hash but that it has 32 bytes.

* `Permit.Fields`, `Permit.HasFields`: the values of the fields of a permit, each within its type.
* `Permit.encodings`: the byte strings that are hashed for a signature.
* `Permit.IsSignedHash`: the hash that every signer for a chain signs.
* `Permit.HasFields.exists_encodings`: a permit whose fields are within their types has a signed hash.
* `Permit.digest_binds_fields`: **the signed hash binds the chain and all fields**, or two of the byte
  strings have the same hash.
-/

namespace SwapRouter

namespace Permit

/-! ## The fields of a permit -/

/-- The values of the fields of a permit, each within its type.  An address is its twenty bytes, however
it is spelled. -/
@[ext] structure Fields where
  token : { bs : Bytes // bs.length = 20 }
  amount : Fin (2 ^ 160)
  expiration : Fin (2 ^ 48)
  nonce : Fin (2 ^ 48)
  spender : { bs : Bytes // bs.length = 20 }
  deadline : Fin (2 ^ 256)

namespace Fields

variable {f f' : Fields}

/-- The details, as they are encoded. -/
def details (f : Fields) : List AbiValue :=
  [.bytes f.token, .number f.amount, .number f.expiration, .number f.nonce]

/-- What is encoded beside the hash of the details. -/
def besides (f : Fields) : List AbiValue := [.bytes f.spender, .number f.deadline]

/-- **All fields are encoded.** -/
theorem eq_of_values (hdetails : f.details = f'.details) (hbesides : f.besides = f'.besides) :
    f = f' := by
  simp only [details, besides, List.cons.injEq, AbiValue.bytes.injEq, AbiValue.number.injEq,
    Int.natCast_inj, and_true] at hdetails hbesides
  obtain ⟨htoken, hamount, hexpiration, hnonce⟩ := hdetails
  obtain ⟨hspender, hdeadline⟩ := hbesides
  exact Fields.ext (Subtype.ext htoken) (Fin.ext hamount) (Fin.ext hexpiration) (Fin.ext hnonce)
    (Subtype.ext hspender) (Fin.ext hdeadline)

end Fields

/-- The fields of a permit are within their types and have these values. -/
structure HasFields (p : Permit) (f : Fields) : Prop where
  token : p.details.token.strictBytes? = some f.token.val
  amount : p.details.amount = (f.amount : ℕ)
  expiration : p.details.expiration = (f.expiration : ℕ)
  nonce : p.details.nonce = (f.nonce : ℕ)
  spender : p.spender.strictBytes? = some f.spender.val
  deadline : p.deadline = (f.deadline : ℕ)

/-- The addresses of a permit are as an order keeps them: well formed and in normal form. -/
structure IsStored (p : Permit) : Prop where
  token : p.details.token.checked = .ok p.details.token
  spender : p.spender.checked = .ok p.spender

variable {c c' : Chain} {p p' : Permit} {f f' : Fields}

/-- An address that is stored is told by its bytes. -/
theorem eq_ofBytes_of_checked {a : Address} {bs : Bytes} (ha : a.checked = .ok a)
    (hbs : a.strictBytes? = some bs) : a = .ofBytes bs := by
  obtain ⟨hformed, hnormal⟩ := Address.checked_eq_ok_iff.1 ha
  obtain ⟨hexact, hread, -⟩ := Address.isExact_of_strictBytes? hformed hbs
  exact hnormal.symm.trans (Address.normal_eq_ofBytes hformed hexact.digits hread)

/-- A permit has one value in each field. -/
theorem HasFields.unique (h : p.HasFields f) (h' : p.HasFields f') : f = f' := by
  have hnumber {m : ℤ} {n : ℕ} {a b : Fin n} (ha : m = (a : ℕ)) (hb : m = (b : ℕ)) : a = b :=
    Fin.ext (Int.natCast_inj.1 (ha.symm.trans hb))
  have hbytes {a : Address} {bs bs' : { bs : Bytes // bs.length = 20 }}
      (hbs : a.strictBytes? = some bs.val) (hbs' : a.strictBytes? = some bs'.val) : bs = bs' :=
    Subtype.ext (Option.some.inj (hbs.symm.trans hbs'))
  exact Fields.ext (hbytes h.token h'.token) (hnumber h.amount h'.amount)
    (hnumber h.expiration h'.expiration) (hnumber h.nonce h'.nonce) (hbytes h.spender h'.spender)
    (hnumber h.deadline h'.deadline)

/-- **Permits with stored addresses are told by their fields.** -/
theorem HasFields.eq_iff_of_isStored (h : p.HasFields f) (h' : p'.HasFields f') (hp : p.IsStored)
    (hp' : p'.IsStored) : f = f' ↔ p = p' := by
  constructor
  · rintro rfl
    have htoken := (eq_ofBytes_of_checked hp.token h.token).trans
      (eq_ofBytes_of_checked hp'.token h'.token).symm
    have hspender := (eq_ofBytes_of_checked hp.spender h.spender).trans
      (eq_ofBytes_of_checked hp'.spender h'.spender).symm
    obtain ⟨⟨token, amount, expiration, nonce⟩, spender, deadline⟩ := p
    obtain ⟨⟨token', amount', expiration', nonce'⟩, spender', deadline'⟩ := p'
    obtain rfl : token = token' := htoken
    obtain rfl : spender = spender' := hspender
    obtain rfl : amount = amount' := h.amount.trans h'.amount.symm
    obtain rfl : expiration = expiration' := h.expiration.trans h'.expiration.symm
    obtain rfl : nonce = nonce' := h.nonce.trans h'.nonce.symm
    obtain rfl : deadline = deadline' := h.deadline.trans h'.deadline.symm
    rfl
  · rintro rfl
    exact h.unique h'

/-! ## What is hashed -/

/-- The byte strings that are hashed for a signature, from the inside out. -/
structure Encodings where
  details : Bytes
  permit : Bytes
  domain : Bytes
  signed : Bytes

/-- What is hashed when a permit is signed for a chain. -/
def encodings (chain : Chain) (p : Permit) : Except Failure Encodings := do
  let details ← detailsEncoding p.details
  let permit ← permitEncoding p
  let contractBytes ← addressBytes contract
  let signed ← signedEncoding chain p
  return ⟨details, permit, domainEncoding chain.id contractBytes, signed⟩

/-- This is the hash of a permit for a chain, and every signer for the chain signs it and nothing else. -/
structure IsSignedHash (chain : Chain) (p : Permit) (hash : Bytes) : Prop where
  digest_eq : digest chain p = .ok hash
  sign_iff : ∀ s : Signer, s.chain = chain → ∀ signature, s.sign p = .ok signature ↔
    ∃ found, Secp256k1.sign? s.key hash = some found ∧ signature = found.toBytes

theorem isSignedHash_of_digest {hash : Bytes} (h : digest c p = .ok hash) : IsSignedHash c p hash where
  digest_eq := h
  sign_iff := by
    rintro s rfl signature
    rw [Signer.sign_eq_ok_iff]
    constructor
    · rintro ⟨_, found, hdigest, hfound⟩
      obtain rfl := Except.ok.inj (h.symm.trans hdigest)
      exact ⟨found, hfound⟩
    · rintro ⟨found, hfound⟩
      exact ⟨hash, found, h, hfound⟩

/-- Two different byte strings in the same place have the same hash. -/
def Encodings.Collide (e e' : Encodings) : Prop :=
  ∃ pair ∈ [(e.details, e'.details), (e.permit, e'.permit), (e.domain, e'.domain), (e.signed, e'.signed)],
    pair.1 ≠ pair.2 ∧ Keccak.hash pair.1 = Keccak.hash pair.2

/-- The types of the details. -/
def detailTypes : List AbiType := [.address, .uint 160, .uint 48, .uint 48]

/-- The types of what is encoded beside the hash of the details. -/
def besideTypes : List AbiType := [.address, .uint 256]

theorem exists_encodeAll?_details (f : Fields) :
    ∃ bs, Abi.encodeAll? detailTypes f.details = some bs := by
  have hfits : List.Forall₂ (Abi.Fits Abi.slot) detailTypes f.details :=
    .cons (Abi.fits_address f.token.property) <|
    .cons (Abi.fits_uint (Int.natCast_nonneg _) (Int.ofNat_lt.2 f.amount.isLt)) <|
    .cons (Abi.fits_uint (Int.natCast_nonneg _) (Int.ofNat_lt.2 f.expiration.isLt)) <|
    .cons (Abi.fits_uint (Int.natCast_nonneg _) (Int.ofNat_lt.2 f.nonce.isLt)) .nil
  obtain ⟨bs, hbs, -⟩ := Abi.exists_encodeAll? hfits (by decide +kernel)
  exact ⟨bs, hbs⟩

theorem exists_encodeAll?_besides (f : Fields) :
    ∃ bs, Abi.encodeAll? besideTypes f.besides = some bs := by
  have hfits : List.Forall₂ (Abi.Fits Abi.slot) besideTypes f.besides :=
    .cons (Abi.fits_address f.spender.property) <|
    .cons (Abi.fits_uint (Int.natCast_nonneg _) (Int.ofNat_lt.2 f.deadline.isLt)) .nil
  obtain ⟨bs, hbs, -⟩ := Abi.exists_encodeAll? hfits (by decide +kernel)
  exact ⟨bs, hbs⟩

theorem exists_strictBytes?_contract : ∃ bs, contract.strictBytes? = some bs :=
  Option.isSome_iff_exists.1 (by decide +kernel)

/-- The byte strings that are hashed for the fields of a permit. -/
structure Encodings.AreOf (e : Encodings) (chain : Chain) (f : Fields) : Prop where
  details : ∃ bs, Abi.encodeAll? detailTypes f.details = some bs ∧
    e.details = Keccak.hashText detailsType ++ bs
  permit : ∃ bs, Abi.encodeAll? besideTypes f.besides = some bs ∧
    e.permit = Keccak.hashText permitType ++ Keccak.hash e.details ++ bs
  domain : ∃ bs, contract.strictBytes? = some bs ∧ e.domain = domainEncoding chain.id bs
  signed : e.signed = [0x19, 0x01] ++ Keccak.hash e.domain ++ Keccak.hash e.permit

variable {e e' : Encodings}

theorem HasFields.exists_detailsEncoding (h : p.HasFields f) :
    ∃ details, detailsEncoding p.details = .ok details ∧
      ∃ bs, Abi.encodeAll? detailTypes f.details = some bs ∧
        details = Keccak.hashText detailsType ++ bs := by
  obtain ⟨bs, hbs⟩ := exists_encodeAll?_details f
  refine ⟨_, ?_, bs, hbs, rfl⟩
  rw [detailsEncoding, h.amount, h.expiration, h.nonce]
  exact bind_eq_ok_iff.2 ⟨f.token, addressBytes_eq_ok_iff.2 h.token,
    bind_eq_ok_iff.2 ⟨bs, Abi.encodeAll_eq_ok_iff.2 hbs, rfl⟩⟩

theorem HasFields.exists_permitEncoding (h : p.HasFields f) {details : Bytes}
    (hdetails : detailsEncoding p.details = .ok details) :
    ∃ permit, permitEncoding p = .ok permit ∧
      ∃ bs, Abi.encodeAll? besideTypes f.besides = some bs ∧
        permit = Keccak.hashText permitType ++ Keccak.hash details ++ bs := by
  obtain ⟨bs, hbs⟩ := exists_encodeAll?_besides f
  refine ⟨_, ?_, bs, hbs, rfl⟩
  rw [permitEncoding, h.deadline]
  exact bind_eq_ok_iff.2 ⟨details, hdetails, bind_eq_ok_iff.2 ⟨f.spender,
    addressBytes_eq_ok_iff.2 h.spender, bind_eq_ok_iff.2 ⟨bs, Abi.encodeAll_eq_ok_iff.2 hbs, rfl⟩⟩⟩

/-- **A permit whose fields are within their types has a signed hash.** -/
theorem HasFields.exists_encodings (h : p.HasFields f) (c : Chain) :
    ∃ e, encodings c p = .ok e ∧ e.AreOf c f ∧ IsSignedHash c p (Keccak.hash e.signed) := by
  obtain ⟨details, hdetails, hdetailsOf⟩ := h.exists_detailsEncoding
  obtain ⟨permit, hpermit, hpermitOf⟩ := h.exists_permitEncoding hdetails
  obtain ⟨contractBytes, hcontract⟩ := exists_strictBytes?_contract
  have hread := addressBytes_eq_ok_iff.2 hcontract
  obtain ⟨signed, hsigned, hsignedOf⟩ : ∃ signed, signedEncoding c p = .ok signed ∧ signed =
      [0x19, 0x01] ++ Keccak.hash (domainEncoding c.id contractBytes) ++ Keccak.hash permit := by
    rw [signedEncoding, hread, hpermit]
    exact ⟨_, rfl, rfl⟩
  refine ⟨⟨details, permit, domainEncoding c.id contractBytes, signed⟩, ?_,
    ⟨hdetailsOf, hpermitOf, ⟨contractBytes, hcontract, rfl⟩, hsignedOf⟩, ?_⟩
  · rw [encodings, hdetails, hpermit, hread, hsigned]
    rfl
  · refine isSignedHash_of_digest ?_
    rw [digest, hsigned]
    rfl

/-! ## The same bytes have the same parts -/

namespace Encodings.AreOf

theorem details_inj (h : e.AreOf c f) (h' : e'.AreOf c' f') (heq : e.details = e'.details) :
    f.details = f'.details := by
  obtain ⟨bs, hbs, hdetails⟩ := h.details
  obtain ⟨bs', hbs', hdetails'⟩ := h'.details
  rw [hdetails, hdetails', List.append_cancel_left_eq] at heq
  exact Abi.encodeAll?_inj (by decide) hbs (heq ▸ hbs')

theorem permit_inj (h : e.AreOf c f) (h' : e'.AreOf c' f') (heq : e.permit = e'.permit) :
    Keccak.hash e.details = Keccak.hash e'.details ∧ f.besides = f'.besides := by
  obtain ⟨bs, hbs, hpermit⟩ := h.permit
  obtain ⟨bs', hbs', hpermit'⟩ := h'.permit
  rw [hpermit, hpermit', List.append_assoc, List.append_assoc, List.append_cancel_left_eq] at heq
  obtain ⟨hhash, rfl⟩ := List.append_inj heq (by rw [Keccak.length_hash, Keccak.length_hash])
  exact ⟨hhash, Abi.encodeAll?_inj (by decide) hbs hbs'⟩

theorem domain_inj (h : e.AreOf c f) (h' : e'.AreOf c' f') (heq : e.domain = e'.domain) :
    c.id = c'.id := by
  obtain ⟨bs, hbs, hdomain⟩ := h.domain
  obtain ⟨bs', hbs', hdomain'⟩ := h'.domain
  obtain rfl := Option.some.inj (hbs.symm.trans hbs')
  rw [hdomain, hdomain', domainEncoding, domainEncoding, List.append_cancel_right_eq,
    List.append_cancel_right_eq, List.append_cancel_left_eq] at heq
  have hlt : ∀ c : Chain, c.id < Nat.pow 256 32 := by
    intro c
    cases c <;> decide
  rw [← Bytes.toNat_ofNat_of_lt (hlt c), heq, Bytes.toNat_ofNat_of_lt (hlt c')]

theorem signed_inj (h : e.AreOf c f) (h' : e'.AreOf c' f') (heq : e.signed = e'.signed) :
    Keccak.hash e.domain = Keccak.hash e'.domain ∧ Keccak.hash e.permit = Keccak.hash e'.permit := by
  rw [h.signed, h'.signed, List.append_assoc, List.append_assoc, List.append_cancel_left_eq] at heq
  exact List.append_inj heq (by rw [Keccak.length_hash, Keccak.length_hash])

end Encodings.AreOf

/-- **The signed hash binds the chain and all fields.**  Permits whose fields are within their types have
a hash that is signed; if the number of the chain or one of the fields differs, these hashes differ, or two
different byte strings that are hashed in the same place on the way to them have the same hash.  An address
is compared by its bytes here, and where addresses are stored in normal form this comes to the same as
comparing the permits. -/
theorem digest_binds_fields (hp : p.HasFields f) (hp' : p'.HasFields f') :
    (c.id ≠ c'.id ∨ f ≠ f' →
      ∃ e e', encodings c p = .ok e ∧ encodings c' p' = .ok e' ∧
        IsSignedHash c p (Keccak.hash e.signed) ∧ IsSignedHash c' p' (Keccak.hash e'.signed) ∧
        (Keccak.hash e.signed ≠ Keccak.hash e'.signed ∨ e.Collide e')) ∧
    (p.IsStored → p'.IsStored → (f = f' ↔ p = p')) := by
  refine ⟨fun hne => ?_, hp.eq_iff_of_isStored hp'⟩
  obtain ⟨e, he, hof, hhash⟩ := hp.exists_encodings c
  obtain ⟨e', he', hof', hhash'⟩ := hp'.exists_encodings c'
  refine ⟨e, e', he, he', hhash, hhash', ?_⟩
  by_contra hnone
  obtain ⟨hsame, hfree⟩ := not_or.1 hnone
  -- without a collision, byte strings in the same place are the same as soon as their hashes are
  have hback : ∀ pair ∈ [(e.details, e'.details), (e.permit, e'.permit), (e.domain, e'.domain),
      (e.signed, e'.signed)], Keccak.hash pair.1 = Keccak.hash pair.2 → pair.1 = pair.2 :=
    fun pair hpair hequal => by_contra fun hdiffer => hfree ⟨pair, hpair, hdiffer, hequal⟩
  simp only [List.forall_mem_cons, List.not_mem_nil, false_imp_iff, implies_true, and_true] at hback
  obtain ⟨hdetails, hpermit, hdomain, hsigned⟩ := hback
  obtain ⟨hdomainHash, hpermitHash⟩ := hof.signed_inj hof' (hsigned (not_not.1 hsame))
  obtain ⟨hdetailsHash, hbesides⟩ := hof.permit_inj hof' (hpermit hpermitHash)
  have hid : c.id = c'.id := hof.domain_inj hof' (hdomain hdomainHash)
  have hfields : f = f' := Fields.eq_of_values (hof.details_inj hof' (hdetails hdetailsHash)) hbesides
  exact hne.elim (fun h => h hid) fun h => h hfields

end Permit

namespace Sample

/-- A permit for one token, with a number. -/
def numberedPermit (nonce : ℕ) : Permit :=
  ⟨⟨weth, 1000000000000000000, 1702592000, nonce⟩, router, 1700001800⟩

/-- The fields of this permit. -/
def numberedFields (nonce : Fin (2 ^ 48)) : Permit.Fields where
  token := ⟨weth.strictBytes?.getD [], by decide +kernel⟩
  amount := ⟨1000000000000000000, by decide⟩
  expiration := ⟨1702592000, by decide⟩
  nonce := nonce
  spender := ⟨router.strictBytes?.getD [], by decide +kernel⟩
  deadline := ⟨1700001800, by decide⟩

theorem hasFields_numberedPermit (nonce : Fin (2 ^ 48)) :
    (numberedPermit nonce).HasFields (numberedFields nonce) := by
  have htoken : weth.strictBytes? = some (weth.strictBytes?.getD []) := by decide +kernel
  have hspender : router.strictBytes? = some (router.strictBytes?.getD []) := by decide +kernel
  exact ⟨htoken, rfl, rfl, rfl, hspender, rfl⟩

/-- Two permits that differ in their number alone have different hashes, or two byte strings with the same
hash come up on the way. -/
theorem digest_binds_numberedPermit :
    (numberedPermit 3).HasFields (numberedFields 3) ∧ (numberedPermit 4).HasFields (numberedFields 4) ∧
      ∃ e e', Permit.encodings .ethereum (numberedPermit 3) = .ok e ∧
        Permit.encodings .ethereum (numberedPermit 4) = .ok e' ∧
        Permit.IsSignedHash .ethereum (numberedPermit 3) (Keccak.hash e.signed) ∧
        Permit.IsSignedHash .ethereum (numberedPermit 4) (Keccak.hash e'.signed) ∧
        (Keccak.hash e.signed ≠ Keccak.hash e'.signed ∨ e.Collide e') := by
  have hfirst := hasFields_numberedPermit 3
  have hsecond := hasFields_numberedPermit 4
  have hne : numberedFields 3 ≠ numberedFields 4 :=
    fun heq => absurd (congrArg Permit.Fields.nonce heq) (by decide)
  exact ⟨hfirst, hsecond, (Permit.digest_binds_fields hfirst hsecond).1 (Or.inr hne)⟩

end Sample

end SwapRouter
