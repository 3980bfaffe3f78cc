import SwapRouter.Proofs.Wire

/-!
# Texts of chunks

Chunks are written one behind the other, each with its length in front: two bytes, of which the first
one weighs more.  Whoever reads such a text needs nothing else.  The first two bytes tell how many of
the next ones are a chunk, and what stands behind it is read in the same way until nothing is left.

`Wire.CutsInto` says this without a program that carries it out.  It is the inverse of writing, in both
directions: a length of two bytes is written in one way only, so chunks are found again, and two bytes
tell no length that a chunk may not have, so whatever is cut up to its end has been written.  The texts
that are cut up to their end are therefore exactly the ones that chunks are written as.

* `Wire.CutsInto`: a text is cut into chunks at the lengths that stand in it.
* `Wire.cutsInto_iff_join`: **a text is cut into the chunks that it is written for.**
* `Wire.join_append`: chunks behind other chunks are written behind them.
* `Wire.join_inverts_split`: **writing chunks is the inverse of cutting**, and fails for long chunks
  alone.
-/

namespace SwapRouter

namespace Wire

variable {bs : Bytes} {bodies : List Bytes}

/-! ## Cutting a text at its lengths -/

/-- A text is cut into chunks: as many bytes as two bytes tell are the first one, the rest is cut in the
same way, and nothing is left in the end. -/
inductive CutsInto : Bytes → List Bytes → Prop where
  | nil : CutsInto [] []
  | cons {high low : UInt8} {body rest : Bytes} {bodies : List Bytes}
      (length_eq : body.length = 256 * high.toNat + low.toNat) (behind : CutsInto rest bodies) :
      CutsInto (high :: low :: (body ++ rest)) (body :: bodies)

/-- Two bytes stand for a length exactly if they are the ones that it is written as. -/
theorem eq_lengthBytes_iff {n : ℕ} {high low : UInt8} :
    n = 256 * high.toNat + low.toNat ↔ n ≤ maxChunk ∧ Bytes.ofNat 2 n = [high, low] := by
  have hvalue : Bytes.toNat [high, low] = 256 * high.toNat + low.toNat := by simp [Bytes.toNat]
  constructor
  · rintro rfl
    have hhigh := high.toNat_lt
    have hlow := low.toNat_lt
    refine ⟨by rw [maxChunk]; omega, ?_⟩
    rw [← hvalue]
    exact Bytes.ofNat_toNat (Nat.le_refl 2)
  · rintro ⟨hle, hbytes⟩
    have hlt : n < Nat.pow 256 2 := Nat.lt_succ_of_le hle
    rw [← hvalue, ← hbytes, Bytes.toNat_ofNat_of_lt hlt]

/-- **A text is cut into the chunks that it is written for**, and into no others. -/
theorem cutsInto_iff_join : CutsInto bs bodies ↔ join bodies = .ok bs := by
  induction bodies generalizing bs with
  | nil =>
    constructor
    · rintro ⟨⟩
      rfl
    · intro h
      cases h
      exact .nil
  | cons body bodies ih =>
    constructor
    · rintro ⟨⟩
      next high low rest hlen hrest =>
        obtain ⟨hle, hbytes⟩ := eq_lengthBytes_iff.1 hlen
        rw [join, chunk_eq_ok_iff.2 ⟨hle, rfl⟩, ih.1 hrest, hbytes]
        rfl
    · intro h
      obtain ⟨first, hfirst, h⟩ := bind_eq_ok_iff.1 h
      obtain ⟨rest, hrest, h⟩ := bind_eq_ok_iff.1 h
      cases h
      obtain ⟨hle, rfl⟩ := chunk_eq_ok_iff.1 hfirst
      have hlen := eq_lengthBytes_iff.2 ⟨hle, rfl⟩
      exact .cons hlen (ih.2 hrest)

/-! ## Writing chunks -/

/-- Chunks are written exactly if all of them are short enough. -/
theorem exists_join_iff : (∃ bs, join bodies = .ok bs) ↔ ∀ body ∈ bodies, body.length ≤ maxChunk := by
  refine ⟨?_, exists_join bodies⟩
  rintro ⟨bs, hbs⟩
  rcases join_cases bodies with ⟨hshort, -⟩ | ⟨_, -, -, herror⟩
  · exact hshort
  · rw [herror] at hbs
    cases hbs

/-- Chunks are refused exactly if one of them is too long, and this is fatal. -/
theorem exists_join_eq_error_iff :
    (∃ e, join bodies = .error e ∧ e.kind = .fatal) ↔ ∃ body ∈ bodies, maxChunk < body.length := by
  constructor
  · rintro ⟨e, he, -⟩
    rcases join_cases bodies with ⟨-, bs, hbs⟩ | ⟨body, hbody, hlong, -⟩
    · rw [hbs] at he
      cases he
    · exact ⟨body, hbody, hlong⟩
  · rintro ⟨body, hbody, hlong⟩
    rcases join_cases bodies with ⟨hshort, -⟩ | ⟨long, -, -, herror⟩
    · exact absurd hlong (Nat.not_lt.2 (hshort body hbody))
    · exact ⟨_, herror, rfl⟩

/-- Chunks behind other chunks are written behind them, and the first one that is too long is reported. -/
theorem join_append (front behind : List Bytes) :
    join (front ++ behind) = do return (← join front) ++ (← join behind) := by
  induction front with
  | nil =>
    rw [List.nil_append, join]
    cases join behind <;> rfl
  | cons body front ih =>
    rw [List.cons_append, join, join, ih]
    cases chunk body with
    | error e => rfl
    | ok first =>
      cases join front with
      | error e => rfl
      | ok others =>
        cases join behind with
        | error e => rfl
        | ok rest => exact congrArg Except.ok (List.append_assoc first others rest).symm

/-- **Writing chunks is the inverse of cutting.**  Chunks of at most 65535 bytes are written, and cut apart
again; a text that is cut into chunks is what these are written as, and it is cut at the lengths that
stand in it; chunks behind other chunks are written behind them; and chunks are refused exactly if one of
them is longer, which is fatal. -/
theorem join_inverts_split (chunks others : List Bytes) (bs : Bytes) :
    ((∀ chunk ∈ chunks, chunk.length ≤ 65535) ↔
      ∃ written, join chunks = .ok written ∧ split? written = some chunks) ∧
    (split? bs = some chunks ↔ join chunks = .ok bs) ∧
    (split? bs = some chunks ↔ CutsInto bs chunks) ∧
    (join (chunks ++ others) = do return (← join chunks) ++ (← join others)) ∧
    ((∃ e, join chunks = .error e ∧ e.kind = .fatal) ↔ ∃ chunk ∈ chunks, 65535 < chunk.length) := by
  refine ⟨?_, split?_eq_some_iff, ?_, join_append chunks others, exists_join_eq_error_iff⟩
  · simp only [split?_eq_some_iff, and_self]
    exact exists_join_iff.symm
  · rw [split?_eq_some_iff, cutsInto_iff_join]

/-- An empty chunk has a length, too; two bytes alone tell of a chunk that is not there. -/
example : join [[], [7, 8]] = .ok [0, 0, 0, 2, 7, 8] ∧ takeChunk? [0, 1] = none := by decide

end Wire

end SwapRouter
