import SwapRouter.Proofs.Approval.Flag
import SwapRouter.Proofs.Venue.PooledGroup

/-!
# The data of a swap through a pool

Pools with a constant product, with a fee tier and with a tick spacing are written in packed layouts:
fields of fixed width, each layout with an order of its own.  What a layout holds is a record, and the
layout is a codec of such records, so data are read in one way only.

Nothing is lost on the way.  An address with digits alone stands for twenty bytes, and these are what
its field holds.  A number is kept by an attribute of the pool as bytes of any length; it is written in
three bytes if it is less than 2²⁴, whatever zeros stand in front, and refused otherwise.  Of two tokens
of the same length the one that comes first is the smaller number, and this is what the direction tells.

* `Swap.poolNumber_eq_ok_iff`: a number of a pool is written exactly if it fits.
* `UniswapV2.SwapRecord`, `NumberedRecord`: what the data of a swap hold.
* `UniswapV2.encode_eq_ok_iff`, `UniswapV3.encode_eq_ok_iff`, `Slipstreams.encode_eq_ok_iff`: **a swap is
  encoded as the record that describes it.**
-/

namespace SwapRouter

/-! ## Addresses and attributes -/

namespace Address

variable {a : Address} {field : String} {bs : Bytes}

theorem fieldBytes_eq_ok_iff (h : a.IsExact) : a.fieldBytes field = .ok bs ↔ a.StandsFor bs := by
  refine ⟨h.standsFor, fun hbs => ?_⟩
  obtain ⟨bs', hbs', hlen⟩ := h.exists_bytes
  have hfield : a.fieldBytes field = .ok bs' := by rw [fieldBytes, if_pos h.wellFormed, hbs']
  rw [hfield, hbs.eq (h.standsFor hfield)]

theorem IsExact.exists_standsFor (h : a.IsExact) : ∃ bs, a.StandsFor bs :=
  (exists_standsFor_iff h.wellFormed).2 h.digits

end Address

namespace Swap

variable {s : Swap} {name : String} {width : ℕ} {bs : Bytes}

/-- **A number of a pool is written exactly if it fits**, as the number that its attribute stands
for. -/
theorem poolNumber_eq_ok_iff :
    s.poolNumber name width = .ok bs ↔ ∃ n : Fin (Nat.pow 256 width),
      (Codec.number width).write n = bs ∧
        (s.pool.attributes.lookup name).map Bytes.toNat = some n.val := by
  refine ⟨UniswapV4.exists_number_of_poolNumber, ?_⟩
  rintro ⟨n, rfl, hn⟩
  obtain ⟨value, hvalue, hnat⟩ := Option.map_eq_some_iff.1 hn
  have hattribute : s.poolAttribute name = .ok value := by rw [poolAttribute, hvalue]
  have hfit : Wire.fit value width = .ok (Bytes.ofNat width n) :=
    Wire.fit_eq_ok_iff.2 ⟨hnat ▸ n.isLt, by rw [hnat]⟩
  have hboth : (s.poolAttribute name >>= fun bs => Wire.fit bs width) =
      .ok (Bytes.ofNat width n) := by
    rw [hattribute]
    exact hfit
  rw [poolNumber, hboth]
  rfl

/-- A number that is too wide is refused, and this is fatal. -/
theorem poolNumber_of_le {value : Bytes} (hvalue : s.pool.attributes.lookup name = some value)
    (hle : Nat.pow 256 width ≤ Bytes.toNat value) :
    s.poolNumber name width = .error (.encoding (.valueTooWide value width)) := by
  have hattribute : s.poolAttribute name = .ok value := by rw [poolAttribute, hvalue]
  have hboth : (s.poolAttribute name >>= fun bs => Wire.fit bs width) =
      .error (.valueTooWide value width) := by
    rw [hattribute]
    exact Wire.fit_of_le hle
  rw [poolNumber, hboth]

/-- The input of a swap is a smaller number than its output. -/
def IsAscending (s : Swap) : Prop :=
  ∃ tokenIn tokenOut, s.tokenIn.StandsFor tokenIn ∧ s.tokenOut.StandsFor tokenOut ∧
    Bytes.toNat tokenIn < Bytes.toNat tokenOut

theorem isBefore_iff_isAscending {tokenIn tokenOut : Bytes} (hin : s.tokenIn.StandsFor tokenIn)
    (hout : s.tokenOut.StandsFor tokenOut) :
    tokenIn.isBefore tokenOut = true ↔ s.IsAscending := by
  rw [Bytes.isBefore_iff_toNat_lt (hin.2.trans hout.2.symm)]
  constructor
  · exact fun hlt => ⟨tokenIn, tokenOut, hin, hout, hlt⟩
  · rintro ⟨tokenIn', tokenOut', hin', hout', hlt⟩
    rwa [hin.eq hin', hout.eq hout']

end Swap

/-! ## Pools with a constant product -/

variable {s : Swap} {context : SwapContext} {bs : Bytes}

namespace UniswapV2

/-- What the data of a swap hold. -/
structure SwapRecord where
  tokenIn : { bs : Bytes // bs.length = 20 }
  pool : { bs : Bytes // bs.length = 20 }
  receiver : { bs : Bytes // bs.length = 20 }
  isAscending : Bool
  transferType : TransferType

/-- The fields one after the other. -/
def SwapRecord.codec : Codec SwapRecord :=
  ((Codec.field 20).pair <| (Codec.field 20).pair <| (Codec.field 20).pair <|
    UniswapV4.flagCodec.pair UniswapV4.transferCodec).map
    { toFun := fun (tokenIn, pool, receiver, isAscending, transferType) =>
        ⟨tokenIn, pool, receiver, isAscending, transferType⟩
      invFun := fun r => (r.tokenIn, r.pool, r.receiver, r.isAscending, r.transferType)
      left_inv := fun _ => rfl
      right_inv := fun _ => rfl }

/-- A record says what a swap and its hop give. -/
structure SwapRecord.Describes (r : SwapRecord) (s : Swap) (context : SwapContext) : Prop where
  tokenIn : s.tokenIn.StandsFor r.tokenIn
  pool : (Address.mk s.pool.id).StandsFor r.pool
  receiver : context.receiver.StandsFor r.receiver
  direction : r.isAscending = true ↔ s.IsAscending
  transferType : r.transferType = context.transferType

/-- **A swap is encoded as the record that describes it.** -/
theorem encode_eq_ok_iff (hin : s.tokenIn.IsExact) (hout : s.tokenOut.IsExact)
    (hpool : (Address.mk s.pool.id).IsExact) (hreceiver : context.receiver.IsExact) :
    encode s context = .ok bs ↔ ∃ r : SwapRecord, r.Describes s context ∧
      SwapRecord.codec.write r = bs := by
  constructor
  · intro h
    obtain ⟨tokenIn, htokenIn, h⟩ := bind_eq_ok_iff.1 h
    obtain ⟨tokenOut, htokenOut, h⟩ := bind_eq_ok_iff.1 h
    obtain ⟨pool, hpools, h⟩ := bind_eq_ok_iff.1 h
    obtain ⟨receiver, hreceived, h⟩ := bind_eq_ok_iff.1 h
    obtain rfl := Except.ok.inj h
    have hstands := hin.standsFor htokenIn
    have hpool' := hpool.standsFor hpools
    have hreceiver' := hreceiver.standsFor hreceived
    refine ⟨⟨⟨tokenIn, hstands.2⟩, ⟨pool, hpool'.2⟩, ⟨receiver, hreceiver'.2⟩,
      tokenIn.isBefore tokenOut, context.transferType⟩, ⟨hstands, hpool', hreceiver',
      Swap.isBefore_iff_isAscending hstands (hout.standsFor htokenOut), rfl⟩, ?_⟩
    simp only [List.append_assoc]
    rfl
  · rintro ⟨r, h, rfl⟩
    obtain ⟨tokenOut, htokenOut⟩ := hout.exists_standsFor
    refine bind_eq_ok_iff.2 ⟨_, (Address.fieldBytes_eq_ok_iff hin).2 h.tokenIn, ?_⟩
    refine bind_eq_ok_iff.2 ⟨_, (Address.fieldBytes_eq_ok_iff hout).2 htokenOut, ?_⟩
    refine bind_eq_ok_iff.2 ⟨_, (Address.fieldBytes_eq_ok_iff hpool).2 h.pool, ?_⟩
    refine bind_eq_ok_iff.2 ⟨_, (Address.fieldBytes_eq_ok_iff hreceiver).2 h.receiver, ?_⟩
    have hdirection : r.tokenIn.val.isBefore tokenOut = r.isAscending :=
      Bool.eq_iff_iff.2 ((Swap.isBefore_iff_isAscending h.tokenIn htokenOut).trans h.direction.symm)
    rw [hdirection, ← h.transferType]
    simp only [List.append_assoc]
    rfl

end UniswapV2

/-! ## Pools with a number -/

/-- What the data of a swap through a pool hold that has a fee tier or a tick spacing. -/
structure NumberedRecord where
  tokenIn : { bs : Bytes // bs.length = 20 }
  tokenOut : { bs : Bytes // bs.length = 20 }
  number : Fin (Nat.pow 256 3)
  receiver : { bs : Bytes // bs.length = 20 }
  pool : { bs : Bytes // bs.length = 20 }
  isAscending : Bool
  transferType : TransferType

/-- A record says what a swap and its hop give, and which number an attribute of the pool stands
for. -/
structure NumberedRecord.Describes (r : NumberedRecord) (name : String) (s : Swap)
    (context : SwapContext) : Prop where
  tokenIn : s.tokenIn.StandsFor r.tokenIn
  tokenOut : s.tokenOut.StandsFor r.tokenOut
  number : (s.pool.attributes.lookup name).map Bytes.toNat = some r.number.val
  receiver : context.receiver.StandsFor r.receiver
  pool : (Address.mk s.pool.id).StandsFor r.pool
  direction : r.isAscending = true ↔ s.IsAscending
  transferType : r.transferType = context.transferType

/-- The fields with the fee behind the tokens and the transfer type at the end. -/
def UniswapV3.codec : Codec NumberedRecord :=
  ((Codec.field 20).pair <| (Codec.field 20).pair <| (Codec.number 3).pair <| (Codec.field 20).pair <|
    (Codec.field 20).pair <| UniswapV4.flagCodec.pair UniswapV4.transferCodec).map
    { toFun := fun (tokenIn, tokenOut, number, receiver, pool, isAscending, transferType) =>
        ⟨tokenIn, tokenOut, number, receiver, pool, isAscending, transferType⟩
      invFun := fun r => (r.tokenIn, r.tokenOut, r.number, r.receiver, r.pool, r.isAscending,
        r.transferType)
      left_inv := fun _ => rfl
      right_inv := fun _ => rfl }

/-- The fields with the tick spacing behind the tokens and the direction at the end. -/
def Slipstreams.codec : Codec NumberedRecord :=
  ((Codec.field 20).pair <| (Codec.field 20).pair <| (Codec.number 3).pair <|
    UniswapV4.transferCodec.pair <| (Codec.field 20).pair <| (Codec.field 20).pair
    UniswapV4.flagCodec).map
    { toFun := fun (tokenIn, tokenOut, number, transferType, receiver, pool, isAscending) =>
        ⟨tokenIn, tokenOut, number, receiver, pool, isAscending, transferType⟩
      invFun := fun r => (r.tokenIn, r.tokenOut, r.number, r.transferType, r.receiver, r.pool,
        r.isAscending)
      left_inv := fun _ => rfl
      right_inv := fun _ => rfl }

section Numbered

variable (hin : s.tokenIn.IsExact) (hout : s.tokenOut.IsExact)
  (hpool : (Address.mk s.pool.id).IsExact) (hreceiver : context.receiver.IsExact)

include hin hout hpool hreceiver

namespace NumberedRecord

/-- What is read of a swap makes up the record that describes it. -/
theorem exists_describes {name : String} {tokenIn tokenOut number receiver pool : Bytes}
    (htokenIn : s.tokenIn.fieldBytes "token_in" = .ok tokenIn)
    (htokenOut : s.tokenOut.fieldBytes "token_out" = .ok tokenOut)
    (hnumber : s.poolNumber name 3 = .ok number)
    (hreceived : context.receiver.fieldBytes "receiver" = .ok receiver)
    (hpools : s.poolBytes = .ok pool) :
    ∃ r : NumberedRecord, r.Describes name s context ∧ tokenIn = r.tokenIn ∧
      tokenOut = r.tokenOut ∧ number = (Codec.number 3).write r.number ∧ receiver = r.receiver ∧
      pool = r.pool ∧ tokenIn.isBefore tokenOut = r.isAscending := by
  obtain ⟨n, rfl, hn⟩ := Swap.poolNumber_eq_ok_iff.1 hnumber
  have hin' := hin.standsFor htokenIn
  have hout' := hout.standsFor htokenOut
  have hpool' := hpool.standsFor hpools
  have hreceiver' := hreceiver.standsFor hreceived
  exact ⟨⟨⟨tokenIn, hin'.2⟩, ⟨tokenOut, hout'.2⟩, n, ⟨receiver, hreceiver'.2⟩, ⟨pool, hpool'.2⟩,
    tokenIn.isBefore tokenOut, context.transferType⟩, ⟨hin', hout', hn, hreceiver', hpool',
    Swap.isBefore_iff_isAscending hin' hout', rfl⟩, rfl, rfl, rfl, rfl, rfl, rfl⟩

/-- What a record says that describes a swap is read of the swap. -/
theorem Describes.parts {r : NumberedRecord} {name : String} (h : r.Describes name s context) :
    s.tokenIn.fieldBytes "token_in" = .ok r.tokenIn ∧
      s.tokenOut.fieldBytes "token_out" = .ok r.tokenOut ∧
      s.poolNumber name 3 = .ok ((Codec.number 3).write r.number) ∧
      context.receiver.fieldBytes "receiver" = .ok r.receiver ∧ s.poolBytes = .ok r.pool ∧
      r.tokenIn.val.isBefore r.tokenOut = r.isAscending :=
  ⟨(Address.fieldBytes_eq_ok_iff hin).2 h.tokenIn, (Address.fieldBytes_eq_ok_iff hout).2 h.tokenOut,
    Swap.poolNumber_eq_ok_iff.2 ⟨r.number, rfl, h.number⟩,
    (Address.fieldBytes_eq_ok_iff hreceiver).2 h.receiver,
    (Address.fieldBytes_eq_ok_iff hpool).2 h.pool,
    Bool.eq_iff_iff.2 ((Swap.isBefore_iff_isAscending h.tokenIn h.tokenOut).trans h.direction.symm)⟩

end NumberedRecord

/-- **A swap is encoded as the record that describes it**, with its fee. -/
theorem UniswapV3.encode_eq_ok_iff :
    encode s context = .ok bs ↔
      ∃ r : NumberedRecord, r.Describes "fee" s context ∧ codec.write r = bs := by
  constructor
  · intro h
    obtain ⟨tokenIn, htokenIn, h⟩ := bind_eq_ok_iff.1 h
    obtain ⟨tokenOut, htokenOut, h⟩ := bind_eq_ok_iff.1 h
    obtain ⟨fee, hfee, h⟩ := bind_eq_ok_iff.1 h
    obtain ⟨receiver, hreceived, h⟩ := bind_eq_ok_iff.1 h
    obtain ⟨pool, hpools, h⟩ := bind_eq_ok_iff.1 h
    obtain rfl := Except.ok.inj h
    obtain ⟨r, hr, rfl, rfl, rfl, rfl, rfl, hdirection⟩ := NumberedRecord.exists_describes hin hout
      hpool hreceiver htokenIn htokenOut hfee hreceived hpools
    refine ⟨r, hr, ?_⟩
    rw [hdirection, ← hr.transferType]
    simp only [List.append_assoc]
    rfl
  · rintro ⟨r, hr, rfl⟩
    obtain ⟨htokenIn, htokenOut, hfee, hreceived, hpools, hdirection⟩ :=
      hr.parts hin hout hpool hreceiver
    refine bind_eq_ok_iff.2 ⟨_, htokenIn, bind_eq_ok_iff.2 ⟨_, htokenOut, ?_⟩⟩
    refine bind_eq_ok_iff.2 ⟨_, hfee, bind_eq_ok_iff.2 ⟨_, hreceived, ?_⟩⟩
    refine bind_eq_ok_iff.2 ⟨_, hpools, ?_⟩
    rw [hdirection, ← hr.transferType]
    simp only [List.append_assoc]
    rfl

/-- **A swap is encoded as the record that describes it**, with its tick spacing. -/
theorem Slipstreams.encode_eq_ok_iff :
    encode s context = .ok bs ↔
      ∃ r : NumberedRecord, r.Describes "tick_spacing" s context ∧ codec.write r = bs := by
  constructor
  · intro h
    obtain ⟨tokenIn, htokenIn, h⟩ := bind_eq_ok_iff.1 h
    obtain ⟨tokenOut, htokenOut, h⟩ := bind_eq_ok_iff.1 h
    obtain ⟨pool, hpools, h⟩ := bind_eq_ok_iff.1 h
    obtain ⟨spacing, hspacing, h⟩ := bind_eq_ok_iff.1 h
    obtain ⟨receiver, hreceived, h⟩ := bind_eq_ok_iff.1 h
    obtain rfl := Except.ok.inj h
    obtain ⟨r, hr, rfl, rfl, rfl, rfl, rfl, hdirection⟩ := NumberedRecord.exists_describes hin hout
      hpool hreceiver htokenIn htokenOut hspacing hreceived hpools
    refine ⟨r, hr, ?_⟩
    rw [hdirection, ← hr.transferType]
    simp only [List.append_assoc]
    rfl
  · rintro ⟨r, hr, rfl⟩
    obtain ⟨htokenIn, htokenOut, hspacing, hreceived, hpools, hdirection⟩ :=
      hr.parts hin hout hpool hreceiver
    refine bind_eq_ok_iff.2 ⟨_, htokenIn, bind_eq_ok_iff.2 ⟨_, htokenOut, ?_⟩⟩
    refine bind_eq_ok_iff.2 ⟨_, hpools, bind_eq_ok_iff.2 ⟨_, hspacing, ?_⟩⟩
    refine bind_eq_ok_iff.2 ⟨_, hreceived, ?_⟩
    rw [hdirection, ← hr.transferType]
    simp only [List.append_assoc]
    rfl

end Numbered

end SwapRouter
