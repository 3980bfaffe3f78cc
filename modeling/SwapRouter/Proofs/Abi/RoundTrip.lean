import SwapRouter.Abi.Basic

/-!
# Encoded arguments read back

What the encoder writes for arguments, the reader turns into the same arguments again, for
tuples of any depth and byte strings of any length.  The reader does not mind what stands
behind an argument, so the statements are about byte strings that *begin* with an encoding.

The heads of a tuple and what they point to are read from two places of one frame.  While the
parts are read one by one, the rest of the heads stands in front of what is left to read, and
the rest of what they point to stands in the frame at the next offset; each part that is read
keeps this up.

* `AbiType.readsBack`: the types this file is about.
* `length_encode?`, `length_heads`: a static value and the heads have the sizes that the types
  tell.
* `decode?_of_prefix`: a value is read from the front of its encoding.
* `decodeAll?_encodeAll?`, `encodeAll?_inj`: **encoded arguments read back**, and so they are told apart.
* `of_decodeParts?_cons`, `bounds_of_decode?_uint`: what can be told of values that have been read.
-/

namespace SwapRouter

mutual

/-- Whether every value of a type reads back as it is: numbers without a sign that fit a slot,
addresses, truth values, byte strings, and tuples of them. -/
def AbiType.readsBack : AbiType → Bool
  | .uint bits => bits ≤ 256
  | .address | .bool | .bytes => true
  | .tuple types => AbiType.allReadBack types
  | _ => false

/-- Whether all of the types read back. -/
def AbiType.allReadBack : List AbiType → Bool
  | [] => true
  | t :: ts => t.readsBack && AbiType.allReadBack ts

end

namespace Abi

variable {bs rest frame body heads tails : Bytes} {n : Nat} {offset : Nat}

/-! ## Slots -/

/-- A number that fits a slot is read from its front. -/
theorem slotValue?_of_prefix (hn : n < Nat.pow 2 256) (h : Bytes.ofNat slot n <+: rest) :
    slotValue? rest = some n := by
  obtain ⟨behind, rfl⟩ := h
  have hlen : slot ≤ (Bytes.ofNat slot n ++ behind).length := by
    rw [List.length_append, Bytes.length_ofNat]
    exact Nat.le_add_right _ _
  have htake : (Bytes.ofNat slot n ++ behind).take slot = Bytes.ofNat slot n :=
    List.take_left' (Bytes.length_ofNat slot n)
  rw [slotValue?, if_pos hlen, htake, Bytes.toNat_ofNat_of_lt hn]

theorem encodeUint?_eq_some_iff {bits : Nat} {m : Int} :
    encodeUint? bits m = some bs ↔
      (0 ≤ m ∧ m.toNat < Nat.pow 2 bits) ∧ Bytes.ofNat slot m.toNat = bs := by
  rw [encodeUint?]
  split
  next h => rw [Option.some.injEq, and_iff_right h]
  next h => exact iff_of_false (fun hn => by cases hn) fun hn => h hn.1

theorem length_of_encodeUint? {bits : Nat} {m : Int} (h : encodeUint? bits m = some bs) :
    bs.length = slot := by
  rw [← (encodeUint?_eq_some_iff.1 h).2, Bytes.length_ofNat]

/-- A length or an offset is read from the front of its slot. -/
theorem slotValue?_of_encodeUint? (h : encodeUint? 256 n = some bs) (hfront : bs <+: rest) :
    slotValue? rest = some n := by
  obtain ⟨⟨-, hn⟩, rfl⟩ := encodeUint?_eq_some_iff.1 h
  exact slotValue?_of_prefix hn hfront

theorem uintValue?_of_prefix {bits : Nat} {m : Int} (hbits : bits ≤ 256)
    (h : encodeUint? bits m = some bs) (hfront : bs <+: rest) :
    uintValue? bits rest = some m := by
  obtain ⟨⟨hpos, hm⟩, rfl⟩ := encodeUint?_eq_some_iff.1 h
  have hslot : m.toNat < Nat.pow 2 256 :=
    Nat.lt_of_lt_of_le hm (Nat.pow_le_pow_right (by decide) hbits)
  simp only [uintValue?, slotValue?_of_prefix hslot hfront, Option.bind_eq_bind, Option.bind_some]
  rw [if_pos hm, Option.pure_def, Int.toNat_of_nonneg hpos]

/-- An address stands behind twelve zeros for the number that it stands for itself. -/
theorem slotValue?_of_address (hlen : body.length = 20)
    (hfront : Bytes.zeros 12 ++ body <+: rest) : slotValue? rest = some (Bytes.toNat body) := by
  have hslot : Bytes.ofNat slot (Bytes.toNat body) = Bytes.zeros 12 ++ body := by
    rw [Bytes.ofNat_toNat (by rw [hlen]; decide), hlen, slot]
  have hn : Bytes.toNat body < Nat.pow 2 256 := by
    refine Nat.lt_of_lt_of_le (Bytes.toNat_lt body) ?_
    rw [hlen]
    decide
  exact slotValue?_of_prefix hn (hslot ▸ hfront)

/-! ## Byte strings -/

theorem encodeBytes?_eq_some_iff :
    encodeBytes? body = some bs ↔
      ∃ length, encodeUint? 256 body.length = some length ∧ length ++ padRight body = bs := by
  simp [encodeBytes?, Option.bind_eq_some_iff]

/-- A byte string is read from the front of its encoding, whatever its length. -/
theorem bytesValue?_of_prefix (h : encodeBytes? body = some bs) (hfront : bs <+: rest) :
    bytesValue? rest = some body := by
  obtain ⟨length, hlength, rfl⟩ := encodeBytes?_eq_some_iff.1 h
  have hvalue : slotValue? rest = some body.length :=
    slotValue?_of_encodeUint? hlength ((List.prefix_append _ _).trans hfront)
  obtain ⟨behind, rfl⟩ := hfront
  -- what stands behind the length begins with the body and its padding
  have hdrop : (length ++ padRight body ++ behind).drop slot = padRight body ++ behind := by
    rw [List.append_assoc, List.drop_left' (length_of_encodeUint? hlength)]
  have hpadded : (padRight body).length =
      body.length + (slot - body.length % slot) % slot := by
    rw [padRight, List.length_append, Bytes.length_zeros]
  have hfits : body.length + (slot - body.length % slot) % slot ≤
      (padRight body ++ behind).length := by
    rw [← hpadded, List.length_append]
    exact Nat.le_add_right _ _
  have htake : (padRight body ++ behind).take
      (body.length + (slot - body.length % slot) % slot) = padRight body :=
    List.take_left' hpadded
  have hpadding : (padRight body).drop body.length =
      Bytes.zeros ((slot - body.length % slot) % slot) := List.drop_left
  have hzeros : ∀ count, (Bytes.zeros count).all (· = 0) = true := fun count => by
    simp [Bytes.zeros]
  have hbody : (padRight body ++ behind).take body.length = body := by
    rw [padRight, List.append_assoc, List.take_left]
  simp only [bytesValue?, hvalue, Option.bind_eq_bind, Option.bind_some, hdrop, htake, hpadding,
    hzeros, hbody, decide_eq_true hfits, Bool.and_self, if_true, Option.pure_def]

/-! ## What is encoded -/

variable {t : AbiType} {ts : List AbiType} {v : AbiValue} {vs : List AbiValue} {parts : List Part}

theorem encode?_uint_eq_some_iff {bits : Nat} :
    encode? (.uint bits) v = some bs ↔ ∃ m, v = .number m ∧ encodeUint? bits m = some bs := by
  cases v <;> simp [encode?]

theorem encode?_address_eq_some_iff :
    encode? .address v = some bs ↔
      ∃ body, v = .bytes body ∧ body.length = 20 ∧ Bytes.zeros 12 ++ body = bs := by
  cases v <;> simp [encode?]

theorem encode?_bool_eq_some_iff :
    encode? .bool v = some bs ↔
      ∃ b, v = .flag b ∧ Bytes.ofNat slot (if b then 1 else 0) = bs := by
  cases v <;> simp [encode?]

theorem encode?_bytes_eq_some_iff :
    encode? .bytes v = some bs ↔ ∃ body, v = .bytes body ∧ encodeBytes? body = some bs := by
  cases v <;> simp [encode?]

theorem encode?_tuple_eq_some_iff :
    encode? (.tuple ts) v = some bs ↔
      ∃ vs parts heads tails, v = .tuple vs ∧ parts? ts vs = some parts ∧
        layOut? (headSizes ts) parts = some (heads, tails) ∧ heads ++ tails = bs := by
  cases v <;> simp [encode?, Option.bind_eq_some_iff]

theorem parts?_nil_eq_some_iff : parts? [] vs = some parts ↔ vs = [] ∧ parts = [] := by
  cases vs <;> simp [parts?, eq_comm]

theorem parts?_cons_eq_some_iff :
    parts? (t :: ts) vs = some parts ↔
      ∃ v others bs behind, vs = v :: others ∧ encode? t v = some bs ∧
        parts? ts others = some behind ∧
        (if isDynamic t then Part.behind bs else .inPlace bs) :: behind = parts := by
  cases vs <;> simp [parts?, Option.bind_eq_some_iff, and_assoc]

theorem layOut?_nil_eq_some_iff :
    layOut? offset [] = some (heads, tails) ↔ heads = [] ∧ tails = [] := by
  simp [layOut?, eq_comm]

theorem layOut?_inPlace_eq_some_iff :
    layOut? offset (.inPlace bs :: parts) = some (heads, tails) ↔
      ∃ others, layOut? offset parts = some (others, tails) ∧ bs ++ others = heads := by
  simp [layOut?, Option.bind_eq_some_iff]

theorem layOut?_behind_eq_some_iff :
    layOut? offset (.behind bs :: parts) = some (heads, tails) ↔
      ∃ head others behind, encodeUint? 256 offset = some head ∧
        layOut? (offset + bs.length) parts = some (others, behind) ∧
          head ++ others = heads ∧ bs ++ behind = tails := by
  simp [layOut?, Option.bind_eq_some_iff]

/-! ## Lengths -/

/-- Static values leave nothing behind the heads. -/
theorem tails_eq_nil (hstatic : isAnyDynamic ts = false) (hparts : parts? ts vs = some parts)
    (hlaid : layOut? offset parts = some (heads, tails)) : tails = [] := by
  induction ts generalizing vs parts heads with
  | nil =>
    obtain ⟨-, rfl⟩ := parts?_nil_eq_some_iff.1 hparts
    exact (layOut?_nil_eq_some_iff.1 hlaid).2
  | cons t ts ih =>
    rw [isAnyDynamic, Bool.or_eq_false_iff] at hstatic
    obtain ⟨v, others, bs, behind, -, -, hothers, rfl⟩ := parts?_cons_eq_some_iff.1 hparts
    rw [hstatic.1, if_neg Bool.false_ne_true] at hlaid
    obtain ⟨heads', hrest, -⟩ := layOut?_inPlace_eq_some_iff.1 hlaid
    exact ih hstatic.2 hothers hrest

mutual

/-- The value of a static type takes as many bytes as the type tells. -/
theorem length_encode? : (t : AbiType) → t.readsBack = true → isDynamic t = false →
    {v : AbiValue} → {bs : Bytes} → encode? t v = some bs → bs.length = staticSize t
  | .uint bits, _, _, v, bs, h => by
    obtain ⟨m, -, hm⟩ := encode?_uint_eq_some_iff.1 h
    exact length_of_encodeUint? hm
  | .address, _, _, v, bs, h => by
    obtain ⟨body, -, hlen, rfl⟩ := encode?_address_eq_some_iff.1 h
    rw [List.length_append, Bytes.length_zeros, hlen]
    rfl
  | .bool, _, _, v, bs, h => by
    obtain ⟨b, -, rfl⟩ := encode?_bool_eq_some_iff.1 h
    exact Bytes.length_ofNat slot _
  | .tuple ts, hreads, hstatic, v, bs, h => by
    obtain ⟨vs, parts, heads, tails, -, hparts, hlaid, rfl⟩ := encode?_tuple_eq_some_iff.1 h
    rw [tails_eq_nil hstatic hparts hlaid, List.append_nil]
    exact length_heads ts hreads hparts hlaid

/-- Heads take as many bytes as the types tell. -/
theorem length_heads : (ts : List AbiType) → AbiType.allReadBack ts = true →
    {vs : List AbiValue} → {parts : List Part} → {offset : Nat} → {heads tails : Bytes} →
    parts? ts vs = some parts → layOut? offset parts = some (heads, tails) →
    heads.length = headSizes ts
  | [], _, vs, parts, offset, heads, tails, hparts, hlaid => by
    obtain ⟨-, rfl⟩ := parts?_nil_eq_some_iff.1 hparts
    rw [(layOut?_nil_eq_some_iff.1 hlaid).1]
    rfl
  | t :: ts, hreads, vs, parts, offset, heads, tails, hparts, hlaid => by
    obtain ⟨ht, hts⟩ := Bool.and_eq_true_iff.1 hreads
    obtain ⟨v, others, bs, behind, -, hbs, hothers, rfl⟩ := parts?_cons_eq_some_iff.1 hparts
    cases hdynamic : isDynamic t with
    | true =>
      rw [hdynamic, if_pos rfl] at hlaid
      obtain ⟨head, heads', tails', hhead, hrest, rfl, -⟩ := layOut?_behind_eq_some_iff.1 hlaid
      rw [List.length_append, length_of_encodeUint? hhead, length_heads ts hts hothers hrest,
        headSizes, hdynamic, if_pos rfl]
    | false =>
      rw [hdynamic, if_neg Bool.false_ne_true] at hlaid
      obtain ⟨heads', hrest, rfl⟩ := layOut?_inPlace_eq_some_iff.1 hlaid
      rw [List.length_append, length_encode? t ht hdynamic hbs, length_heads ts hts hothers hrest,
        headSizes, hdynamic, if_neg Bool.false_ne_true]

end

/-! ## Reading back -/

/-- What stands behind the front of a byte string. -/
theorem prefix_behind_front {front : Bytes} {size : Nat} (hsize : front.length = size)
    (h : front ++ bs <+: rest) : bs <+: rest.drop size := by
  obtain ⟨behind, rfl⟩ := h
  rw [List.append_assoc, List.drop_left' hsize]
  exact List.prefix_append bs behind

mutual

/-- **A value is read from the front of its encoding.** -/
theorem decode?_of_prefix : (t : AbiType) → t.readsBack = true →
    {v : AbiValue} → {bs rest : Bytes} → encode? t v = some bs → bs <+: rest →
    decode? t rest = some v
  | .uint bits, hreads, v, bs, rest, h, hfront => by
    obtain ⟨m, rfl, hm⟩ := encode?_uint_eq_some_iff.1 h
    rw [decode?, uintValue?_of_prefix (of_decide_eq_true hreads) hm hfront]
    rfl
  | .address, _, v, bs, rest, h, hfront => by
    obtain ⟨body, rfl, hlen, rfl⟩ := encode?_address_eq_some_iff.1 h
    have hlt : Bytes.toNat body < Nat.pow 2 160 := by
      have hlt := Bytes.toNat_lt body
      rwa [hlen] at hlt
    have hbytes : Bytes.ofNat 20 (Bytes.toNat body) = body := by
      rw [Bytes.ofNat_toNat (Nat.le_of_eq hlen), hlen]
      rfl
    simp only [decode?, slotValue?_of_address hlen hfront, Option.bind_eq_bind, Option.bind_some]
    rw [if_pos hlt, hbytes, Option.pure_def]
  | .bool, _, v, bs, rest, h, hfront => by
    obtain ⟨b, rfl, rfl⟩ := encode?_bool_eq_some_iff.1 h
    have hvalue : slotValue? rest = some (if b then 1 else 0) :=
      slotValue?_of_prefix (by cases b <;> decide) hfront
    simp only [decode?, hvalue, Option.bind_eq_bind, Option.bind_some]
    cases b <;> rfl
  | .bytes, _, v, bs, rest, h, hfront => by
    obtain ⟨body, rfl, hbody⟩ := encode?_bytes_eq_some_iff.1 h
    rw [decode?, bytesValue?_of_prefix hbody hfront]
    rfl
  | .tuple ts, hreads, v, bs, rest, h, hfront => by
    obtain ⟨vs, parts, heads, tails, rfl, hparts, hlaid, rfl⟩ := encode?_tuple_eq_some_iff.1 h
    have htails : tails <+: rest.drop (headSizes ts) :=
      prefix_behind_front (length_heads ts hreads hparts hlaid) hfront
    rw [decode?, decodeParts?_of_prefix ts hreads hparts hlaid
      ((List.prefix_append _ _).trans hfront) htails]
    rfl

/-- Parts are read from a frame, if what is left of the heads stands in front of what is left to
read and what they point to stands in the frame at the next offset. -/
theorem decodeParts?_of_prefix : (ts : List AbiType) → AbiType.allReadBack ts = true →
    {vs : List AbiValue} → {parts : List Part} → {offset : Nat} →
    {heads tails frame rest : Bytes} →
    parts? ts vs = some parts → layOut? offset parts = some (heads, tails) →
    heads <+: rest → tails <+: frame.drop offset →
    decodeParts? ts frame rest = some vs
  | [], _, vs, parts, offset, heads, tails, frame, rest, hparts, _, _, _ => by
    rw [(parts?_nil_eq_some_iff.1 hparts).1]
    rfl
  | t :: ts, hreads, vs, parts, offset, heads, tails, frame, rest, hparts, hlaid, hheads,
      htails => by
    obtain ⟨ht, hts⟩ := Bool.and_eq_true_iff.1 hreads
    obtain ⟨v, others, bs, behind, rfl, hbs, hothers, rfl⟩ := parts?_cons_eq_some_iff.1 hparts
    cases hdynamic : isDynamic t with
    | true =>
      rw [hdynamic, if_pos rfl] at hlaid
      obtain ⟨head, heads', tails', hhead, hrest, rfl, rfl⟩ := layOut?_behind_eq_some_iff.1 hlaid
      have hoffset : slotValue? rest = some offset :=
        slotValue?_of_encodeUint? hhead ((List.prefix_append _ _).trans hheads)
      have hvalue : decode? t (frame.drop offset) = some v :=
        decode?_of_prefix t ht hbs ((List.prefix_append _ _).trans htails)
      -- behind the value, the frame goes on with what the other heads point to
      have htails' : tails' <+: frame.drop (offset + bs.length) := by
        rw [← List.drop_drop]
        exact prefix_behind_front rfl htails
      have hothers' : decodeParts? ts frame (rest.drop slot) = some others :=
        decodeParts?_of_prefix ts hts hothers hrest
          (prefix_behind_front (length_of_encodeUint? hhead) hheads) htails'
      simp only [decodeParts?, hdynamic, if_true, hoffset, hvalue, hothers', Option.bind_eq_bind,
        Option.bind_some, Option.pure_def]
    | false =>
      rw [hdynamic, if_neg Bool.false_ne_true] at hlaid
      obtain ⟨heads', hrest, rfl⟩ := layOut?_inPlace_eq_some_iff.1 hlaid
      have hvalue : decode? t rest = some v :=
        decode?_of_prefix t ht hbs ((List.prefix_append _ _).trans hheads)
      have hothers' : decodeParts? ts frame (rest.drop (staticSize t)) = some others :=
        decodeParts?_of_prefix ts hts hothers hrest
          (prefix_behind_front (length_encode? t ht hdynamic hbs) hheads) htails
      simp only [decodeParts?, hdynamic, Bool.false_eq_true, if_false, hvalue, hothers',
        Option.bind_eq_bind, Option.bind_some, Option.pure_def]

end

/-- **Encoded arguments read back**, whatever stands behind them. -/
theorem decodeAll?_encodeAll? (hts : AbiType.allReadBack ts = true)
    (h : encodeAll? ts vs = some bs) (behind : Bytes) :
    decodeAll? ts (bs ++ behind) = some vs := by
  have htuple : decode? (.tuple ts) (bs ++ behind) = some (.tuple vs) :=
    decode?_of_prefix (.tuple ts) hts h (List.prefix_append _ _)
  rw [decode?, Option.map_eq_some_iff] at htuple
  obtain ⟨vs', hvs', heq⟩ := htuple
  rw [decodeAll?, hvs', AbiValue.tuple.inj heq]

/-- Arguments are told apart by what they are encoded as. -/
theorem encodeAll?_inj {others : List AbiValue} (hts : AbiType.allReadBack ts = true)
    (h : encodeAll? ts vs = some bs) (hothers : encodeAll? ts others = some bs) : vs = others := by
  have hread := decodeAll?_encodeAll? hts h []
  rw [decodeAll?_encodeAll? hts hothers []] at hread
  exact (Option.some.inj hread).symm

/-! ## What has been read -/

section

variable {t : AbiType} {ts : List AbiType} {v : AbiValue} {vs : List AbiValue}

/-- A value of a static type is read where its head stands, and the others behind it. -/
theorem of_decodeParts?_cons (ht : isDynamic t = false)
    (h : decodeParts? (t :: ts) frame heads = some (v :: vs)) :
    decode? t heads = some v ∧ decodeParts? ts frame (heads.drop (staticSize t)) = some vs := by
  rw [decodeParts?, ht, if_neg Bool.false_ne_true] at h
  obtain ⟨v', hv, h⟩ := Option.bind_eq_some_iff.1 h
  obtain ⟨vs', hvs, h⟩ := Option.bind_eq_some_iff.1 h
  cases h
  exact ⟨hv, hvs⟩

/-- A number that is read fits its type. -/
theorem bounds_of_decode?_uint {bits : Nat} {n : Int} (h : decode? (.uint bits) bs = some (.number n)) :
    0 ≤ n ∧ n < (Nat.pow 2 bits : Nat) := by
  obtain ⟨m, hm, hn⟩ := Option.map_eq_some_iff.1 h
  cases hn
  obtain ⟨k, -, hk⟩ := Option.bind_eq_some_iff.1 hm
  split at hk
  next hlt =>
    cases hk
    exact ⟨Int.natCast_nonneg k, Int.ofNat_lt.2 hlt⟩
  next => cases hk

end

end Abi

end SwapRouter
