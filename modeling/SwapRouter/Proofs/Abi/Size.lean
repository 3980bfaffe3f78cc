import SwapRouter.Proofs.Abi.RoundTrip
import SwapRouter.Proofs.RouterCall

/-!
# Arguments that are encoded

Arguments that fit their types one by one are encoded together, unless they are so long that no slot
holds an offset.  So the encoding of arguments cannot fail once there is a bound on their lengths, and
the same bound tells how long the whole is.

* `exists_layOut?`: parts that are short enough are laid out.
* `exists_encodeAll?`, `exists_call`: **arguments that are short enough are encoded.**
* `argumentTypes_eq_callTypes`: the types of the arguments of the router's functions.
-/

namespace SwapRouter.Abi

variable {ts : List AbiType} {vs : List AbiValue} {parts : List Part} {bs : Bytes}
  {bits size offset : ℕ}

/-- Every offset up to the greatest number of a slot is written. -/
theorem exists_encodeUint? {n : ℕ} (h : n < Nat.pow 2 bits) :
    ∃ bs, encodeUint? bits n = some bs ∧ bs.length = slot :=
  ⟨Bytes.ofNat slot n, encodeUint?_eq_some_iff.2 ⟨⟨Int.natCast_nonneg n, h⟩, rfl⟩,
    Bytes.length_ofNat slot n⟩

/-! ## Single arguments -/

/-- A value is encoded by a type in a number of bytes, at most. -/
def Fits (size : ℕ) (t : AbiType) (v : AbiValue) : Prop :=
  ∃ bs, encode? t v = some bs ∧ bs.length ≤ size

theorem Fits.mono {t : AbiType} {v : AbiValue} {size' : ℕ} (h : Fits size t v) (hle : size ≤ size') :
    Fits size' t v := by
  obtain ⟨bs, hbs, hlen⟩ := h
  exact ⟨bs, hbs, hlen.trans hle⟩

theorem fits_uint {n : ℤ} (hnonneg : 0 ≤ n) (hlt : n < (Nat.pow 2 bits : ℕ)) :
    Fits slot (.uint bits) (.number n) := by
  obtain ⟨n, rfl⟩ := Int.eq_ofNat_of_zero_le hnonneg
  obtain ⟨bs, hbs, hlen⟩ := exists_encodeUint? (Int.ofNat_lt.1 hlt)
  exact ⟨bs, encode?_uint_eq_some_iff.2 ⟨n, rfl, hbs⟩, hlen.le⟩

theorem fits_address (h : bs.length = 20) : Fits slot .address (.bytes bs) := by
  refine ⟨Bytes.zeros 12 ++ bs, encode?_address_eq_some_iff.2 ⟨bs, rfl, h, rfl⟩, ?_⟩
  rw [List.length_append, Bytes.length_zeros, h]
  rfl

theorem fits_bool (b : Bool) : Fits slot .bool (.flag b) :=
  ⟨_, encode?_bool_eq_some_iff.2 ⟨b, rfl, rfl⟩, (Bytes.length_ofNat slot _).le⟩

/-- A byte string takes its length and its padding besides. -/
theorem fits_bytes (h : bs.length < Nat.pow 2 256) :
    Fits (bs.length + 2 * slot) .bytes (.bytes bs) := by
  obtain ⟨length, hlength, hlen⟩ := exists_encodeUint? h
  refine ⟨length ++ padRight bs,
    encode?_bytes_eq_some_iff.2 ⟨bs, rfl, encodeBytes?_eq_some_iff.2 ⟨length, hlength, rfl⟩⟩, ?_⟩
  have hpadding : (slot - bs.length % slot) % slot < slot := Nat.mod_lt _ (by decide)
  rw [List.length_append, hlen, padRight, List.length_append, Bytes.length_zeros]
  omega

/-! ## All arguments -/

/-- How many bytes a part brings with it. -/
def Part.body : Part → Bytes
  | .inPlace bs | .behind bs => bs

/-- **Parts that are short enough are laid out.** -/
theorem exists_layOut? (hparts : ∀ p ∈ parts, p.body.length ≤ size)
    (hsize : offset + parts.length * size < Nat.pow 2 256) :
    ∃ heads tails, layOut? offset parts = some (heads, tails) ∧
      heads.length + tails.length ≤ parts.length * (size + slot) := by
  induction parts generalizing offset with
  | nil => exact ⟨[], [], rfl, Nat.zero_le _⟩
  | cons p parts ih =>
    obtain ⟨hp, hrest⟩ := List.forall_mem_cons.1 hparts
    rw [List.length_cons, Nat.succ_mul] at hsize ⊢
    cases p with
    | inPlace bs =>
      change bs.length ≤ size at hp
      obtain ⟨heads, tails, hlaid, hlen⟩ := @ih offset hrest (by omega)
      refine ⟨bs ++ heads, tails, layOut?_inPlace_eq_some_iff.2 ⟨heads, hlaid, rfl⟩, ?_⟩
      rw [List.length_append]
      omega
    | behind bs =>
      change bs.length ≤ size at hp
      obtain ⟨heads, tails, hlaid, hlen⟩ := @ih (offset + bs.length) hrest (by omega)
      obtain ⟨head, hhead, hheadLen⟩ := @exists_encodeUint? 256 offset (by omega)
      refine ⟨head ++ heads, bs ++ tails,
        layOut?_behind_eq_some_iff.2 ⟨head, heads, tails, hhead, hlaid, rfl, rfl⟩, ?_⟩
      rw [List.length_append, List.length_append]
      omega

/-- Arguments that fit their types are parts of no more bytes. -/
theorem exists_parts? (h : List.Forall₂ (Fits size) ts vs) :
    ∃ parts, parts? ts vs = some parts ∧ parts.length = ts.length ∧
      ∀ p ∈ parts, p.body.length ≤ size := by
  induction h with
  | nil => exact ⟨[], rfl, rfl, fun p hp => absurd hp List.not_mem_nil⟩
  | @cons t v ts vs hv _ ih =>
    obtain ⟨bs, hbs, hlen⟩ := hv
    obtain ⟨parts, hparts, hcount, hsizes⟩ := ih
    refine ⟨(if isDynamic t then .behind bs else .inPlace bs) :: parts,
      parts?_cons_eq_some_iff.2 ⟨v, vs, bs, parts, rfl, hbs, hparts, rfl⟩,
      by rw [List.length_cons, List.length_cons, hcount], List.forall_mem_cons.2 ⟨?_, hsizes⟩⟩
    split
    · exact hlen
    · exact hlen

/-- **Arguments that are short enough are encoded**, in a number of bytes that the bound tells. -/
theorem exists_encodeAll? (h : List.Forall₂ (Fits size) ts vs)
    (hsize : headSizes ts + ts.length * size < Nat.pow 2 256) :
    ∃ bs, encodeAll? ts vs = some bs ∧ bs.length ≤ ts.length * (size + slot) := by
  obtain ⟨parts, hparts, hcount, hsizes⟩ := exists_parts? h
  rw [← hcount] at hsize ⊢
  obtain ⟨heads, tails, hlaid, hlen⟩ := exists_layOut? hsizes hsize
  refine ⟨heads ++ tails,
    encode?_tuple_eq_some_iff.2 ⟨vs, parts, heads, tails, rfl, hparts, hlaid, rfl⟩, ?_⟩
  rwa [List.length_append]

/-- **A call with arguments that are short enough** is written. -/
theorem exists_call {signature : String} (hhalf : Text.hasHalf signature = false)
    (htypes : argumentTypes signature = .ok ts) (h : List.Forall₂ (Fits size) ts vs)
    (hsize : headSizes ts + ts.length * size < Nat.pow 2 256) :
    ∃ data, call signature vs = .ok data := by
  obtain ⟨bs, hbs, -⟩ := exists_encodeAll? h hsize
  refine ⟨selector signature ++ bs, ?_⟩
  rw [call, hhalf, htypes, if_neg Bool.false_ne_true]
  dsimp only [bind, Except.bind, pure, Except.pure]
  rw [encodeAll_eq_ok_iff.2 hbs]

/-! ## The functions of the router -/

/-- The type of a permit. -/
def permitAbi : AbiType :=
  .tuple [.tuple [.address, .uint 160, .uint 48, .uint 48], .address, .uint 256]

/-- The types of the arguments of a call of the router. -/
def callTypes (withPermit withTokenCount : Bool) : List AbiType :=
  [.uint 256, .address, .address, .uint 256, .bool, .bool]
    ++ (if withTokenCount then [AbiType.uint 256] else [])
    ++ [AbiType.address] ++ (if withPermit then [permitAbi, AbiType.bytes] else [AbiType.bool])
    ++ [AbiType.bytes]

theorem argumentTypes_eq_callTypes (f : RouterFunction) (withPermit : Bool) :
    argumentTypes (routerSignature f.name withPermit f.takesTokenCount) =
      .ok (callTypes withPermit f.takesTokenCount) := by
  have htypes : ∀ withPermit withTokenCount,
      (routerArgumentTexts withPermit withTokenCount).mapM AbiType.ofText? =
        some (callTypes withPermit withTokenCount) := by
    intro withPermit withTokenCount
    cases withPermit <;> cases withTokenCount <;> rfl
  exact argumentTypes_eq_ok_iff.2 ⟨_, argumentTexts_routerSignature f withPermit, htypes _ _⟩

theorem hasHalf_routerSignature (f : RouterFunction) (withPermit : Bool) :
    Text.hasHalf (routerSignature f.name withPermit f.takesTokenCount) = false := by
  cases f <;> cases withPermit <;> decide +kernel

end SwapRouter.Abi
