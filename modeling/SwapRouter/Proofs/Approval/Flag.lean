import SwapRouter.Proofs.LookUp.Direct
import SwapRouter.Proofs.RouterCall

/-!
# Whether a swap says that an approval is needed

Two families of protocols write into the data of a swap whether an approval is needed, each in its own
layout.  The truth value comes from a source of approvals, which may share its look-ups or not; with
no source it is simply true, and a swap for a quote that takes the native coin asks no source.

A source that reads the chain turns the three addresses into their normal forms, and asks the token for
the allowance with the bytes that the strict reading gives.  These are the bytes that the addresses
stand for, so what was asked can be told from the swap, from who holds its input, and from the setting
that names the spender.

* `Allowance.IsHeld`: the allowance that a chain answers.
* `SwapEncoder.IsApproved`: the allowance of the spender in a setting is enough for a swap.
* `SwapEncoder.isApproved_iff`: **a swap needs no approval exactly if the chain has it.**
* `SwapEncoder.HoldsFlag`: where the data of a swap say so.
* `SwapEncoder.exists_flag_of_encode`: **what the data of a swap say.**
-/

namespace SwapRouter

variable {reader : ChainReader} {token holder : Address} {owner spender bs : Bytes} {amount : ℤ}

namespace Address

variable {a : Address}

/-- An address whose normal form has bytes under the strict reading stands for these bytes. -/
theorem standsFor_of_strictBytes?_normal (h : a.isWellFormed = true)
    (hstrict : a.normal.strictBytes? = some bs) : a.StandsFor bs := by
  obtain ⟨-, hbytes, hlen⟩ := isExact_of_strictBytes? (isWellFormed_normal h) hstrict
  rw [wellFormedBytes_normal h] at hbytes
  exact ⟨by rw [toBytes, if_pos h, hbytes], hlen⟩

theorem StandsFor.eq {bs' : Bytes} (h : a.StandsFor bs) (h' : a.StandsFor bs') : bs = bs' :=
  Except.ok.inj (h.1.symm.trans h'.1)

/-- What stands in a field for an address are the bytes of that address. -/
theorem toBytes_of_fieldBytes {field : String} (h : a.fieldBytes field = .ok bs) :
    a.toBytes = .ok bs := by
  rw [fieldBytes] at h
  rw [toBytes]
  split at h
  next hformed => rw [if_pos hformed, h]
  next => cases h

end Address

/-! ## Allowances -/

namespace Allowance

/-- An allowance is what a token answers when it is asked how much of an owner's tokens a spender may
take. -/
def IsHeld (reader : ChainReader) (token : Address) (owner spender : Bytes) (amount : ℤ) : Prop :=
  ∃ data response, Abi.call signature [.bytes owner, .bytes spender] = .ok data ∧
    reader token data = .ok response ∧
    Abi.decodeAll? [.uint 256] response = some [.number amount]

theorem IsHeld.eq {amount' : ℤ} (h : IsHeld reader token owner spender amount)
    (h' : IsHeld reader token owner spender amount') : amount = amount' := by
  obtain ⟨data, response, hdata, hresponse, hread⟩ := h
  obtain ⟨data', response', hdata', hresponse', hread'⟩ := h'
  obtain rfl := Except.ok.inj (hdata.symm.trans hdata')
  obtain rfl := Except.ok.inj (hresponse.symm.trans hresponse')
  have hsame := Option.some.inj (hread.symm.trans hread')
  exact AbiValue.number.inj (List.cons.inj hsame).1

theorem bound_eq : bound = Nat.pow 2 255 - 1 := by decide

/-- An allowance that has been read is compared with the bound. -/
theorem exists_of_ofResponse {response : Bytes} {n : ℕ} (h : ofResponse token response = .ok n) :
    ∃ amount : ℤ, Abi.decodeAll? [.uint 256] response = some [.number amount] ∧
      (n < bound ↔ amount < (Nat.pow 2 255 - 1 : ℕ)) := by
  unfold ofResponse at h
  split at h
  next amount hread =>
    obtain rfl := Except.ok.inj h
    have hnonneg := (Abi.bounds_of_decode?_uint (Abi.of_decodeParts?_cons rfl hread).1).1
    refine ⟨amount, hread, ?_⟩
    rw [← bound_eq]
    omega
  next => cases h

/-- The data of a call that reads an allowance ask for what the two addresses stand for. -/
theorem exists_of_callData {a b : Address} {data : Bytes} (h : callData a b = .ok data) :
    ∃ owner spender, a.strictBytes? = some owner ∧ b.strictBytes? = some spender ∧
      Abi.call signature [.bytes owner, .bytes spender] = .ok data := by
  unfold callData at h
  split at h
  next owner spender howner hspender => exact ⟨owner, spender, howner, hspender, h⟩
  next => cases h

end Allowance

namespace ApprovalSource

variable {source : ApprovalSource} {a b : Address} {key : ApprovalKey} {flag : Bool} {c : Circumstances}

/-- **What a chain answers to a key**: whether the allowance is below the bound. -/
theorem exists_isHeld_of_answer (h : (ApprovalSource.onChain reader).answer key = .ok flag) :
    ∃ owner spender amount, key.owner.strictBytes? = some owner ∧
      key.spender.strictBytes? = some spender ∧
      Allowance.IsHeld reader key.token owner spender amount ∧
      (flag = false ↔ (Nat.pow 2 255 - 1 : ℕ) ≤ amount) := by
  obtain ⟨data, hdata, h⟩ := bind_eq_ok_iff.1 h
  obtain ⟨response, hresponse, h⟩ := bind_eq_ok_iff.1 h
  obtain ⟨n, hn, h⟩ := bind_eq_ok_iff.1 h
  obtain rfl := Except.ok.inj h
  obtain ⟨owner, spender, howner, hspender, hcall⟩ := Allowance.exists_of_callData hdata
  obtain ⟨amount, hread, hbound⟩ := Allowance.exists_of_ofResponse hn
  refine ⟨owner, spender, amount, howner, hspender, ⟨data, response, hcall, hresponse, hread⟩, ?_⟩
  rw [decide_eq_false_iff_not, hbound, not_lt]

/-- A look-up of its own succeeds with the answer to the key of its addresses. -/
theorem answer_of_lookUp (h : (source.lookUp token a b).outcome c = .ok flag) :
    ∃ key, ApprovalKey.ofAddresses token a b = .ok key ∧ source.answer key = .ok flag := by
  cases hkey : ApprovalKey.ofAddresses token a b with
  | error e =>
    have hfails := (source.isInstant_lookUp_of_error hkey).outcome c
    cases hfails.symm.trans h
  | ok key => exact ⟨key, rfl, ((source.isInstant_lookUp hkey).outcome c).symm.trans h⟩

/-- So does a look-up that may be shared. -/
theorem answer_of_isNeeded (hc : c.Fresh) (h : (source.isNeeded token a b).outcome c = .ok flag) :
    ∃ key, ApprovalKey.ofAddresses token a b = .ok key ∧ source.answer key = .ok flag := by
  cases hkey : ApprovalKey.ofAddresses token a b with
  | error e =>
    have hfails := (Encode.isInstant_isNeeded_of_error source hkey).outcome c
    cases hfails.symm.trans h
  | ok key => exact ⟨key, rfl, (Encode.outcome_isNeeded hkey hc).symm.trans h⟩

end ApprovalSource

/-! ## Swaps -/

namespace SwapEncoder

variable {e : SwapEncoder} {s : Swap} {context : SwapContext} {setting : String} {flag : Bool}
  {c : Circumstances} {reader? : Option ChainReader}

/-- The one who holds the input of a swap has approved the spender in a setting: the token answers with
an allowance of at least half the range of amounts. -/
def IsApproved (reader : ChainReader) (settings : List (String × Json)) (setting : String) (s : Swap)
    (holder : Address) : Prop :=
  ∃ text owner spender amount, settings.lookup setting = some (.str text) ∧
    (Address.mk text).StandsFor spender ∧ holder.StandsFor owner ∧
    Allowance.IsHeld reader s.tokenIn.normal owner spender amount ∧ (Nat.pow 2 255 - 1 : ℕ) ≤ amount

/-- The spender of a family has the bytes that its setting stands for. -/
theorem exists_of_spender {a : Address} (h : e.spender setting = .ok a) :
    ∃ text bs, e.settings.lookup setting = some (.str text) ∧
      (Address.mk text).toBytes = .ok bs ∧ a = .ofBytes bs := by
  unfold SwapEncoder.spender at h
  dsimp only at h
  split at h
  next text htext =>
    have hlookup : e.settings.lookup setting = some (.str text) := by
      cases hfound : e.settings.lookup setting with
      | none =>
        rw [hfound] at htext
        cases htext
      | some found =>
        rw [hfound] at htext
        exact congrArg some htext
    by_cases hformed : (Address.mk text).isWellFormed = true
    · rw [hformed] at h
      obtain ⟨bs, hbs, h⟩ := bind_eq_ok_iff.1 h
      exact ⟨text, bs, hlookup, by rw [Address.toBytes, if_pos hformed, hbs],
        (Except.ok.inj h).symm⟩
    · rw [Bool.not_eq_true] at hformed
      rw [hformed] at h
      cases h
  next => cases h

/-- What a chain answers for the spender in a setting is whether there is an approval. -/
theorem isApproved_iff_of_answer {a : Address} {key : ApprovalKey} (hspender : e.spender setting = .ok a)
    (hkey : ApprovalKey.ofAddresses s.tokenIn holder a = .ok key)
    (h : (ApprovalSource.onChain reader).answer key = .ok flag) :
    flag = false ↔ IsApproved reader e.settings setting s holder := by
  obtain ⟨-, hholder, ha, rfl⟩ := ApprovalKey.ofAddresses_eq_ok_iff.1 hkey
  obtain ⟨owner, spender, amount, howner, hstrict, hheld, hflag⟩ :=
    ApprovalSource.exists_isHeld_of_answer h
  obtain ⟨text, bs, htext, hbs, rfl⟩ := exists_of_spender hspender
  have howner' : holder.StandsFor owner := Address.standsFor_of_strictBytes?_normal hholder howner
  have hspender' : (Address.mk text).StandsFor spender := by
    obtain ⟨hread, hlen⟩ := Address.standsFor_of_strictBytes?_normal ha hstrict
    rw [Address.toBytes, if_pos ha, Address.wellFormedBytes_ofBytes] at hread
    obtain rfl := Except.ok.inj hread
    exact ⟨hbs, hlen⟩
  rw [hflag]
  constructor
  · exact fun hle => ⟨text, owner, spender, amount, htext, hspender', howner', hheld, hle⟩
  · rintro ⟨text', owner', spender', amount', htext', hstands, hstands', hheld', hle⟩
    obtain rfl := Json.str.inj (Option.some.inj (htext.symm.trans htext'))
    obtain rfl := hspender'.eq hstands
    obtain rfl := howner'.eq hstands'
    rwa [hheld.eq hheld']

/-- **A swap needs no approval exactly if the chain has it**, whether look-ups are shared or not; with
no source it always needs one. -/
theorem isApproved_iff (hsource : context.approvals.or e.approvals = reader?.map .onChain)
    (hc : c.Fresh) (h : (e.isApprovalNeeded s context setting).outcome c = .ok flag) :
    flag = false ↔ ∃ reader ∈ reader?, IsApproved reader e.settings setting s context.holder := by
  have hread {source : ApprovalSource} (hsome : reader?.map .onChain = some source) :
      ∃ reader, reader? = some reader ∧ source = .onChain reader := by
    obtain ⟨reader, hreader, rfl⟩ := Option.map_eq_some_iff.1 hsome
    exact ⟨reader, hreader, rfl⟩
  unfold isApprovalNeeded at h
  cases hcontext : context.approvals with
  | some source =>
    rw [hcontext] at h hsource
    obtain ⟨reader, rfl, rfl⟩ := hread hsource.symm
    obtain ⟨a, ha, h⟩ := Encode.outcome_bind_eq_ok_iff.1 h
    rw [Encode.outcome_ofExcept] at ha
    obtain ⟨key, hkey, hanswer⟩ := ApprovalSource.answer_of_isNeeded hc h
    rw [isApproved_iff_of_answer ha hkey hanswer]
    simp only [Option.mem_some_iff, exists_eq_left']
  | none =>
    rw [hcontext] at h hsource
    cases hown : e.approvals with
    | some source =>
      rw [hown] at h hsource
      obtain ⟨reader, rfl, rfl⟩ := hread hsource.symm
      obtain ⟨a, ha, h⟩ := Encode.outcome_bind_eq_ok_iff.1 h
      rw [Encode.outcome_ofExcept] at ha
      obtain ⟨key, hkey, hanswer⟩ := ApprovalSource.answer_of_lookUp h
      rw [isApproved_iff_of_answer ha hkey hanswer]
      simp only [Option.mem_some_iff, exists_eq_left']
    | none =>
      rw [hown] at h hsource
      obtain rfl : reader? = none := Option.map_eq_none_iff.1 hsource.symm
      obtain rfl := Except.ok.inj h
      refine iff_of_false (fun h => by cases h) ?_
      rintro ⟨reader, hreader, -⟩
      exact Option.not_mem_none reader hreader

/-! ## The data of a swap -/

/-- The data of a swap hold whether an approval is needed: as the last of the encoded arguments for a
vault, and behind the two tokens and the transfer type for a quote. -/
def HoldsFlag (venue : Venue) (s : Swap) (context : SwapContext) (part : Bytes) (flag : Bool) : Prop :=
  match venue with
  | .balancerV2 => ∃ tokenIn tokenOut pool receiver,
      s.tokenIn.toBytes = .ok tokenIn ∧ s.tokenOut.toBytes = .ok tokenOut ∧
      context.receiver.toBytes = .ok receiver ∧
      ∀ behind, Abi.decodeAll? BalancerV2.dataTypes (part ++ behind) = some [.bytes tokenIn,
        .bytes tokenOut, .bytes pool, .bytes receiver, .flag context.exactOut, .flag flag]
  | .rfq => ∃ tokenIn tokenOut receiver rest,
      s.tokenIn.toBytes = .ok tokenIn ∧ s.tokenOut.toBytes = .ok tokenOut ∧
      context.receiver.toBytes = .ok receiver ∧
      part = tokenIn ++ tokenOut ++ [context.transferType.byte, Wire.flagByte flag] ++ receiver ++ rest
  | _ => False

/-- The data for a vault hold what `isApprovalNeeded` comes to. -/
theorem exists_flag_of_encode_vault {part : Bytes}
    (h : (BalancerV2.encode e s context).outcome c = .ok part) :
    ∃ flag, HoldsFlag .balancerV2 s context part flag ∧
      (e.isApprovalNeeded s context "vault_address").outcome c = .ok flag := by
  obtain ⟨tokenIn, htokenIn, h⟩ := Encode.outcome_bind_eq_ok_iff.1 h
  obtain ⟨tokenOut, htokenOut, h⟩ := Encode.outcome_bind_eq_ok_iff.1 h
  obtain ⟨receiver, hreceiver, h⟩ := Encode.outcome_bind_eq_ok_iff.1 h
  obtain ⟨pool, -, h⟩ := Encode.outcome_bind_eq_ok_iff.1 h
  obtain ⟨flag, hflag, h⟩ := Encode.outcome_bind_eq_ok_iff.1 h
  rw [Encode.outcome_ofExcept] at htokenIn htokenOut hreceiver h
  have hbs := Abi.encodeAll_eq_ok_iff.1 h
  exact ⟨flag, ⟨tokenIn, tokenOut, pool, receiver, Address.toBytes_of_fieldBytes htokenIn,
    Address.toBytes_of_fieldBytes htokenOut, Address.toBytes_of_fieldBytes hreceiver,
    Abi.decodeAll?_encodeAll? rfl hbs⟩, hflag⟩

/-- The data for a quote hold what is needed for the tokens that are sold. -/
theorem exists_flag_of_encode_quote {part : Bytes}
    (h : (Rfq.encode e s context).outcome c = .ok part) :
    ∃ flag, HoldsFlag .rfq s context part flag ∧
      (Rfq.isApprovalNeeded e s context).outcome c = .ok flag := by
  unfold Rfq.encode at h
  split at h
  · cases h
  · split at h
    · cases h
    · cases h
    · cases h
    next source router amount _ _ _ =>
      obtain ⟨tokenIn, htokenIn, h⟩ := Encode.outcome_bind_eq_ok_iff.1 h
      obtain ⟨tokenOut, htokenOut, h⟩ := Encode.outcome_bind_eq_ok_iff.1 h
      obtain ⟨receiver, hreceiver, h⟩ := Encode.outcome_bind_eq_ok_iff.1 h
      obtain ⟨quote, -, h⟩ := Encode.outcome_bind_eq_ok_iff.1 h
      split at h
      · cases h
      next payload _ =>
        obtain ⟨flag, hflag, h⟩ := Encode.outcome_bind_eq_ok_iff.1 h
        obtain ⟨amountOut, -, h⟩ := Encode.outcome_bind_eq_ok_iff.1 h
        obtain rfl := Except.ok.inj h
        rw [Encode.outcome_ofExcept] at htokenIn htokenOut hreceiver
        refine ⟨flag, ⟨tokenIn, tokenOut, receiver, amountOut ++ payload,
          Address.toBytes_of_fieldBytes htokenIn, Address.toBytes_of_fieldBytes htokenOut,
          Address.toBytes_of_fieldBytes hreceiver, ?_⟩, hflag⟩
        simp only [List.append_assoc]

/-- **What the data of a swap say**, if its family has a spender: no approval is needed for the native
coin of a swap for a quote, and else exactly if the chain has one. -/
theorem exists_flag_of_encode {part : Bytes} (hsetting : e.venue.spenderSetting? = some setting)
    (hsource : context.approvals.or e.approvals = reader?.map .onChain) (hc : c.Fresh)
    (h : (e.encode s context).outcome c = .ok part) :
    ∃ flag, HoldsFlag e.venue s context part flag ∧
      (flag = false ↔ e.venue = .rfq ∧ s.tokenIn = Address.native ∨
        ∃ reader ∈ reader?, IsApproved reader e.settings setting s context.holder) := by
  unfold encode at h
  cases hvenue : e.venue with
  | uniswapV2 | uniswapV3 | slipstreams | uniswapV4 =>
    rw [hvenue] at hsetting
    cases hsetting
  | balancerV2 =>
    rw [hvenue] at h hsetting
    obtain rfl := Option.some.inj hsetting
    obtain ⟨flag, hholds, hflag⟩ := exists_flag_of_encode_vault h
    refine ⟨flag, hholds, (isApproved_iff hsource hc hflag).trans ?_⟩
    exact (or_iff_right fun hquote => by cases hquote.1).symm
  | rfq =>
    rw [hvenue] at h hsetting
    obtain rfl := Option.some.inj hsetting
    obtain ⟨flag, hholds, hflag⟩ := exists_flag_of_encode_quote h
    refine ⟨flag, hholds, ?_⟩
    unfold Rfq.isApprovalNeeded at hflag
    by_cases hnative : s.tokenIn = Address.native
    · rw [if_pos hnative] at hflag
      exact iff_of_true (Except.ok.inj hflag).symm (Or.inl ⟨rfl, hnative⟩)
    · rw [if_neg hnative] at hflag
      refine (isApproved_iff hsource hc hflag).trans ?_
      exact (or_iff_right fun hquote => hnative hquote.2).symm

end SwapEncoder

end SwapRouter
