import SwapRouter.Proofs.Outcome
import SwapRouter.Wire

/-!
# Fields and chunks

Numbers and chunks that are not too long are written.  A field of fixed width then holds its number,
and a text of chunks is cut apart into the chunks that it was joined from, whatever they hold.  A number
fits a field exactly if it is less than all numbers of a greater width, since what stands in front of the
last bytes of such a number are zeros.

The two bytes in front of a chunk are its length and nothing else, so a text is cut apart in one way
only: reading chunks and writing them are inverse to each other.

* `Wire.toNat_of_fit`: a field holds its number.
* `Wire.fit_eq_ok_iff`: a number is written in a field exactly if it fits.
* `Wire.split?_eq_some_iff`: **a text is cut apart into the chunks that it is joined from.**
* `Wire.join_cases`: chunks are joined, or one of them is too long.
-/

namespace SwapRouter

namespace Bytes

/-- Zeros in front of a number do not change it. -/
theorem toNat_zeros_append (n : Nat) (bs : Bytes) : toNat (zeros n ++ bs) = toNat bs := by
  have hzeros : (zeros n).foldl (fun m b => 256 * m + b.toNat) 0 = 0 := by
    induction n with
    | zero => rfl
    | succ n ih => exact ih
  rw [toNat, List.foldl_append, hzeros]
  rfl

/-- The first byte of a number weighs most. -/
theorem toNat_cons (b : UInt8) (bs : Bytes) :
    toNat (b :: bs) = b.toNat * Nat.pow 256 bs.length + toNat bs := by
  have hfold : ∀ (bs : Bytes) (n : ℕ), bs.foldl (fun n b => 256 * n + b.toNat) n =
      n * Nat.pow 256 bs.length + toNat bs := by
    intro bs
    induction bs with
    | nil => exact fun n => (Nat.mul_one n).symm
    | cons b bs ih =>
      intro n
      have hpow : Nat.pow 256 (bs.length + 1) = 256 * Nat.pow 256 bs.length := Nat.mul_comm _ _
      rw [toNat, List.foldl_cons, List.foldl_cons, ih, ih, List.length_cons, hpow, Nat.mul_zero,
        Nat.zero_add, Nat.add_mul, Nat.mul_comm 256 n, Nat.mul_assoc, Nat.add_assoc]
  rw [toNat, List.foldl_cons, hfold, Nat.mul_zero, Nat.zero_add]

/-- Byte strings of the same length that stand for the same number are the same. -/
theorem toNat_injective {as bs : Bytes} (hlen : as.length = bs.length) (h : toNat as = toNat bs) :
    as = bs := by
  have has := ofNat_toNat (Nat.le_refl as.length)
  have hbs := ofNat_toNat (Nat.le_refl bs.length)
  rw [Nat.sub_self] at has hbs
  rw [h, hlen, hbs] at has
  exact (List.append_cancel_left has).symm

/-- In front of a number that fits there are zeros alone. -/
theorem all_take_of_toNat_lt {bs : Bytes} {width : ℕ} (h : toNat bs < Nat.pow 256 width) :
    (bs.take (bs.length - width)).all (· = 0) = true := by
  induction bs with
  | nil => simp
  | cons b bs ih =>
    rcases Nat.lt_or_ge bs.length width with hlt | hle
    · rw [List.length_cons, Nat.sub_eq_zero_of_le hlt]
      rfl
    · have hpow : Nat.pow 256 width ≤ Nat.pow 256 bs.length := Nat.pow_le_pow_right (by decide) hle
      rw [toNat_cons] at h
      have hb : b.toNat = 0 := by
        by_contra hne
        have := Nat.le_mul_of_pos_left (Nat.pow 256 bs.length) (Nat.pos_of_ne_zero hne)
        omega
      rw [hb, Nat.zero_mul, Nat.zero_add] at h
      rw [List.length_cons, Nat.succ_sub hle, List.take_succ_cons, List.all_cons, ih h, Bool.and_true,
        decide_eq_true_eq]
      exact UInt8.toNat_inj.1 hb

end Bytes

namespace Wire

variable {bs body rest : Bytes} {bodies : List Bytes}

/-! ## Fields -/

theorem fixed_eq_ok_iff {size : Nat} {n : Int} :
    fixed size n = .ok bs ↔
      (0 ≤ n ∧ n.toNat < Nat.pow 256 size) ∧ Bytes.ofNat size n.toNat = bs := by
  rw [fixed]
  split
  next h => rw [Except.ok.injEq, and_iff_right h]
  next h => exact iff_of_false (fun hbs => by cases hbs) fun hbs => h hbs.1

/-- A number that fits its field is written. -/
theorem exists_fixed {size n : Nat} (h : n < Nat.pow 256 size) :
    ∃ bs, fixed size n = .ok bs ∧ bs.length = size :=
  ⟨Bytes.ofNat size n, fixed_eq_ok_iff.2 ⟨⟨Int.natCast_nonneg n, h⟩, rfl⟩,
    Bytes.length_ofNat size n⟩

/-- The length of a field is its size. -/
theorem length_of_fit {value : Bytes} {size : Int} (h : fit value size = .ok bs) :
    bs.length = size.toNat := by
  rw [fit] at h
  split at h
  · cases h
    rw [List.length_append, Bytes.length_zeros, List.length_drop]
    omega
  · cases h

/-- Stretching a number or cutting zeros off does not change it. -/
theorem toNat_of_fit {value : Bytes} {size : Int} (h : fit value size = .ok bs) :
    Bytes.toNat bs = Bytes.toNat value := by
  rw [fit] at h
  split at h
  next hzeros =>
    have hcut : value.take (value.length - size.toNat) =
        Bytes.zeros (value.take (value.length - size.toNat)).length :=
      List.eq_replicate_iff.2 ⟨rfl, fun b hb => of_decide_eq_true (List.all_eq_true.1 hzeros b hb)⟩
    have hvalue : Bytes.toNat (value.take (value.length - size.toNat) ++
        value.drop (value.length - size.toNat)) =
        Bytes.toNat (value.drop (value.length - size.toNat)) := by
      rw [hcut, Bytes.toNat_zeros_append]
    rw [List.take_append_drop] at hvalue
    cases h
    rw [Bytes.toNat_zeros_append, hvalue]
  next => cases h

/-- **A number is written in a field exactly if it fits**, whatever zeros it has in front. -/
theorem fit_eq_ok_iff {value bs : Bytes} {size : ℕ} :
    fit value size = .ok bs ↔
      Bytes.toNat value < Nat.pow 256 size ∧ Bytes.ofNat size (Bytes.toNat value) = bs := by
  have hsound {bs : Bytes} (h : fit value size = .ok bs) :
      Bytes.toNat value < Nat.pow 256 size ∧ Bytes.ofNat size (Bytes.toNat value) = bs := by
    have hlen : bs.length = size := length_of_fit h
    have hlt := Bytes.toNat_lt bs
    rw [hlen, toNat_of_fit h] at hlt
    refine ⟨hlt, Bytes.toNat_injective (by rw [Bytes.length_ofNat, hlen]) ?_⟩
    rw [Bytes.toNat_ofNat_of_lt hlt, toNat_of_fit h]
  refine ⟨hsound, ?_⟩
  rintro ⟨hlt, rfl⟩
  have hzeros : (value.take (value.length - (size : Int).toNat)).all (· = 0) = true :=
    Bytes.all_take_of_toNat_lt hlt
  have hwritten : ∃ bs, fit value size = .ok bs := by
    rw [fit, if_pos hzeros]
    exact ⟨_, rfl⟩
  obtain ⟨bs, hbs⟩ := hwritten
  rw [hbs, (hsound hbs).2]

/-- A number that is too wide is refused, and this is fatal. -/
theorem fit_of_le {value : Bytes} {size : ℕ} (h : Nat.pow 256 size ≤ Bytes.toNat value) :
    fit value size = .error (.valueTooWide value size) := by
  cases hfit : fit value size with
  | ok bs => exact absurd (fit_eq_ok_iff.1 hfit).1 (Nat.not_lt.2 h)
  | error e =>
    rw [fit] at hfit
    split at hfit
    · cases hfit
    · rw [← Except.error.inj hfit]

/-! ## Chunks -/

theorem chunk_eq_ok_iff :
    chunk body = .ok bs ↔ body.length ≤ maxChunk ∧ Bytes.ofNat 2 body.length ++ body = bs := by
  rw [chunk]
  split
  next h => rw [Except.ok.injEq, and_iff_right h]
  next h => exact iff_of_false (fun hbs => by cases hbs) fun hbs => h hbs.1

/-- Chunks that are short enough are joined. -/
theorem exists_join (bodies : List Bytes) (h : ∀ b ∈ bodies, b.length ≤ maxChunk) :
    ∃ bs, join bodies = .ok bs := by
  induction bodies with
  | nil => exact ⟨[], rfl⟩
  | cons b rest ih =>
    obtain ⟨hb, hrest⟩ := List.forall_mem_cons.1 h
    obtain ⟨bs, hbs⟩ := ih hrest
    refine ⟨Bytes.ofNat 2 b.length ++ b ++ bs, ?_⟩
    rw [join, chunk_eq_ok_iff.2 ⟨hb, rfl⟩, hbs]
    rfl

/-- Chunks are joined, or one of them is too long and reported. -/
theorem join_cases (bodies : List Bytes) :
    (∀ b ∈ bodies, b.length ≤ maxChunk) ∧ (∃ bs, join bodies = .ok bs) ∨
      ∃ b ∈ bodies, maxChunk < b.length ∧ join bodies = .error (.chunkTooLong b.length) := by
  by_cases h : ∀ b ∈ bodies, b.length ≤ maxChunk
  · exact Or.inl ⟨h, exists_join bodies h⟩
  · refine Or.inr ?_
    induction bodies with
    | nil => exact absurd (fun b hb => absurd hb List.not_mem_nil) h
    | cons first rest ih =>
      by_cases hfirst : first.length ≤ maxChunk
      · obtain ⟨b, hb, hlong, herror⟩ :=
          ih fun hrest => h (List.forall_mem_cons.2 ⟨hfirst, hrest⟩)
        refine ⟨b, List.mem_cons_of_mem first hb, hlong, ?_⟩
        rw [join, chunk_eq_ok_iff.2 ⟨hfirst, rfl⟩, herror]
        rfl
      · refine ⟨first, List.mem_cons_self, Nat.lt_of_not_le hfirst, ?_⟩
        rw [join, chunk, if_neg hfirst]
        rfl

/-- The first chunk is split off. -/
theorem takeChunk?_append (h : chunk body = .ok bs) : takeChunk? (bs ++ rest) = some (body, rest) := by
  obtain ⟨hlen, rfl⟩ := chunk_eq_ok_iff.1 h
  have hbytes : Bytes.ofNat 2 body.length =
      [UInt8.ofNat (body.length / 256), UInt8.ofNat body.length] := rfl
  have hcount : 256 * (UInt8.ofNat (body.length / 256)).toNat + (UInt8.ofNat body.length).toNat =
      body.length := by
    rw [maxChunk] at hlen
    simp only [UInt8.toNat_ofNat']
    omega
  rw [hbytes]
  simp only [List.cons_append, List.nil_append, takeChunk?, hcount, List.length_append]
  rw [if_pos (Nat.le_add_right _ _), List.splitAt_eq, List.take_left, List.drop_left]

theorem split?_of_takeChunk? (h : takeChunk? bs = some (body, rest)) :
    split? bs = (split? rest).map (body :: ·) := by
  have hne : bs ≠ [] := by
    rintro rfl
    cases h
  rw [split?, if_neg hne]
  split
  next hbody =>
    rw [h] at hbody
    cases hbody
    rfl
  next hnone =>
    rw [h] at hnone
    cases hnone

/-- What is split off is a chunk with its length in front. -/
theorem exists_chunk_of_takeChunk? (h : takeChunk? bs = some (body, rest)) :
    ∃ first, chunk body = .ok first ∧ bs = first ++ rest := by
  unfold takeChunk? at h
  split at h
  next high low tail =>
    split at h
    next hle =>
      rw [List.splitAt_eq] at h
      cases h
      have hvalue : Bytes.toNat [high, low] = 256 * high.toNat + low.toNat := by
        simp [Bytes.toNat]
      have hcount : (tail.take (256 * high.toNat + low.toNat)).length =
          Bytes.toNat [high, low] := by
        rw [List.length_take_of_le hle, hvalue]
      have hshort : Bytes.toNat [high, low] ≤ maxChunk := by
        have hhigh := high.toNat_lt
        have hlow := low.toNat_lt
        rw [hvalue, maxChunk]
        omega
      have hlength : Bytes.ofNat 2 (Bytes.toNat [high, low]) = [high, low] :=
        Bytes.ofNat_toNat (Nat.le_refl 2)
      refine ⟨_, chunk_eq_ok_iff.2 ⟨hcount ▸ hshort, rfl⟩, ?_⟩
      rw [hcount, hlength, List.append_assoc, List.take_append_drop]
      rfl
    next => cases h
  next => cases h

theorem length_le_of_takeChunk? (h : takeChunk? bs = some (body, rest)) :
    body.length ≤ maxChunk := by
  obtain ⟨first, hfirst, -⟩ := exists_chunk_of_takeChunk? h
  exact (chunk_eq_ok_iff.1 hfirst).1

/-- **Chunks that are joined are cut apart again.** -/
theorem split?_of_join (h : join bodies = .ok bs) : split? bs = some bodies := by
  induction bodies generalizing bs with
  | nil =>
    cases h
    rw [split?, if_pos rfl]
  | cons body bodies ih =>
    obtain ⟨first, hfirst, h⟩ := bind_eq_ok_iff.1 h
    obtain ⟨others, hothers, h⟩ := bind_eq_ok_iff.1 h
    cases h
    rw [split?_of_takeChunk? (takeChunk?_append hfirst), ih hothers, Option.map_some]

/-- Chunks that are cut apart are joined to what they were cut from. -/
theorem join_of_split? (h : split? bs = some bodies) : join bodies = .ok bs := by
  induction bodies generalizing bs with
  | nil =>
    by_cases hbs : bs = []
    · rw [hbs, join]
    · rw [split?, if_neg hbs] at h
      split at h
      · obtain ⟨_, -, hcons⟩ := Option.map_eq_some_iff.1 h
        cases hcons
      · cases h
  | cons body bodies ih =>
    by_cases hbs : bs = []
    · rw [split?, if_pos hbs] at h
      cases h
    · rw [split?, if_neg hbs] at h
      split at h
      next taken rest htaken =>
        obtain ⟨others, hothers, hcons⟩ := Option.map_eq_some_iff.1 h
        cases hcons
        obtain ⟨first, hfirst, rfl⟩ := exists_chunk_of_takeChunk? htaken
        rw [join, hfirst, ih hothers]
        rfl
      next => cases h

/-- **A text is cut apart into the chunks that it is joined from**, and into no others. -/
theorem split?_eq_some_iff : split? bs = some bodies ↔ join bodies = .ok bs :=
  ⟨join_of_split?, split?_of_join⟩

end Wire

end SwapRouter
