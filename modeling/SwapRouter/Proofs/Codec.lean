import Mathlib.Logic.Equiv.Basic
import SwapRouter.Proofs.Wire

/-!
# Values that are written and read back

A contract reads packed data from the front: it takes as many bytes as the next value needs and goes
on with what is left.  A `Codec` is a way of writing values together with such a reader, and with the
proof that they fit: a value is read off some bytes exactly if these begin with what is written for
it.  Reading and writing therefore determine each other, whatever stands behind, and this passes to
pairs and to records of values.

* `Codec.field`, `Codec.number`, `Codec.byte`, `Codec.chunk`: the parts that packed data are made of.
* `Codec.pair`, `Codec.map`: how they are put together.
* `Codec.mapM_readAll?_eq_some_iff`: chunks that hold one value each.
-/

namespace SwapRouter

/-- A way of writing values, and of reading them back in front of anything. -/
structure Codec (α : Type) where
  write : α → Bytes
  /-- Reads a value off, with what is left. -/
  read? : Bytes → Option (α × Bytes)
  read?_eq_some_iff : ∀ {bs : Bytes} {a : α} {rest : Bytes},
    read? bs = some (a, rest) ↔ bs = write a ++ rest

namespace Codec

variable {α β : Type}

/-! ## Parts -/

/-- So many bytes. -/
def field (width : ℕ) : Codec { bs : Bytes // bs.length = width } where
  write := Subtype.val
  read? bs :=
    if h : width ≤ bs.length then
      some (⟨bs.take width, List.length_take_of_le h⟩, bs.drop width)
    else none
  read?_eq_some_iff {bs a rest} := by
    constructor
    · intro h
      split at h
      · have hpart : bs.take width = a.val := congrArg (fun p => p.1.val) (Option.some.inj h)
        have hrest : bs.drop width = rest := congrArg Prod.snd (Option.some.inj h)
        rw [← hpart, ← hrest, List.take_append_drop]
      · cases h
    · rintro rfl
      obtain ⟨part, rfl⟩ := a
      have hle : part.length ≤ (part ++ rest).length := by
        rw [List.length_append]
        exact Nat.le_add_right _ _
      rw [dif_pos hle]
      simp only [List.take_left, List.drop_left]

/-- One of some values, each with a byte of its own. -/
def byte (code : α → UInt8) (values : List α) (hall : ∀ a, a ∈ values)
    (hcode : ∀ a b, code a = code b → a = b) : Codec α where
  write a := [code a]
  read?
    | [] => none
    | b :: rest => (values.find? fun a => code a = b).map fun a => (a, rest)
  read?_eq_some_iff {bs a rest} := by
    cases bs with
    | nil => exact iff_of_false (fun hread => by cases hread) fun hbs => by cases hbs
    | cons b bs =>
      rw [Option.map_eq_some_iff, List.singleton_append, List.cons.injEq]
      constructor
      · rintro ⟨a', hfound, hread⟩
        cases hread
        have hb := List.find?_some hfound
        simp only [decide_eq_true_eq] at hb
        exact ⟨hb.symm, rfl⟩
      · rintro ⟨rfl, rfl⟩
        have hsome : (values.find? fun x => code x = code a).isSome = true :=
          List.find?_isSome.2 ⟨a, hall a, by simp⟩
        obtain ⟨a', hfound⟩ := Option.isSome_iff_exists.1 hsome
        have hb := List.find?_some hfound
        simp only [decide_eq_true_eq] at hb
        exact ⟨a, hcode a' a hb ▸ hfound, rfl⟩

/-- Bytes that are no longer than a chunk, with their length in front. -/
def chunk : Codec { body : Bytes // body.length ≤ Wire.maxChunk } where
  write body := Bytes.ofNat 2 body.val.length ++ body.val
  read? bs :=
    match h : Wire.takeChunk? bs with
    | some (body, rest) => some (⟨body, Wire.length_le_of_takeChunk? h⟩, rest)
    | none => none
  read?_eq_some_iff {bs a rest} := by
    obtain ⟨body, hle⟩ := a
    have hchunk : Wire.chunk body = .ok (Bytes.ofNat 2 body.length ++ body) :=
      Wire.chunk_eq_ok_iff.2 ⟨hle, rfl⟩
    constructor
    · intro h
      split at h
      next taken left htaken =>
        cases h
        obtain ⟨first, hfirst, rfl⟩ := Wire.exists_chunk_of_takeChunk? htaken
        rw [(Wire.chunk_eq_ok_iff.1 hfirst).2]
      next => cases h
    · rintro rfl
      have htake : Wire.takeChunk? (Bytes.ofNat 2 body.length ++ body ++ rest) = some (body, rest) :=
        Wire.takeChunk?_append hchunk
      split
      next taken left htaken =>
        rw [htake] at htaken
        cases htaken
        rfl
      next hnone =>
        rw [htake] at hnone
        cases hnone

/-! ## Putting parts together -/

/-- A value and another one behind it. -/
def pair (x : Codec α) (y : Codec β) : Codec (α × β) where
  write ab := x.write ab.1 ++ y.write ab.2
  read? bs := do
    let (a, bs) ← x.read? bs
    let (b, rest) ← y.read? bs
    return ((a, b), rest)
  read?_eq_some_iff {bs ab rest} := by
    obtain ⟨a, b⟩ := ab
    rw [List.append_assoc]
    constructor
    · intro h
      obtain ⟨⟨a', left⟩, ha, h⟩ := Option.bind_eq_some_iff.1 h
      obtain ⟨⟨b', rest'⟩, hb, h⟩ := Option.bind_eq_some_iff.1 h
      cases h
      rw [x.read?_eq_some_iff.1 ha, y.read?_eq_some_iff.1 hb]
    · rintro rfl
      refine Option.bind_eq_some_iff.2 ⟨(a, y.write b ++ rest), x.read?_eq_some_iff.2 rfl, ?_⟩
      exact Option.bind_eq_some_iff.2 ⟨(b, rest), y.read?_eq_some_iff.2 rfl, rfl⟩

/-- The same bytes for other values. -/
def map (x : Codec α) (e : α ≃ β) : Codec β where
  write b := x.write (e.symm b)
  read? bs := (x.read? bs).map fun (a, rest) => (e a, rest)
  read?_eq_some_iff {bs b rest} := by
    rw [← x.read?_eq_some_iff, Option.map_eq_some_iff]
    constructor
    · rintro ⟨⟨a, left⟩, hread, h⟩
      cases h
      rw [e.symm_apply_apply, hread]
    · intro hread
      refine ⟨_, hread, ?_⟩
      dsimp only
      rw [e.apply_symm_apply]

/-- A number of a fixed width. -/
def number (width : ℕ) : Codec (Fin (Nat.pow 256 width)) :=
  (field width).map
    { toFun := fun bs => ⟨Bytes.toNat bs.val, by
        have hlt := Bytes.toNat_lt bs.val
        rwa [bs.property] at hlt⟩
      invFun := fun n => ⟨Bytes.ofNat width n, Bytes.length_ofNat width n⟩
      left_inv := fun bs => Subtype.ext (by
        obtain ⟨bs, rfl⟩ := bs
        change Bytes.ofNat bs.length (Bytes.toNat bs) = bs
        rw [Bytes.ofNat_toNat (Nat.le_refl _), Nat.sub_self]
        rfl)
      right_inv := fun n => Fin.ext (Bytes.toNat_ofNat_of_lt n.isLt) }

/-! ## Reading to the end -/

/-- Reads a value behind which nothing is left. -/
def readAll? (x : Codec α) (bs : Bytes) : Option α :=
  match x.read? bs with
  | some (a, []) => some a
  | _ => none

theorem readAll?_eq_some_iff {x : Codec α} {bs : Bytes} {a : α} :
    x.readAll? bs = some a ↔ bs = x.write a := by
  have hread : x.readAll? bs = some a ↔ x.read? bs = some (a, []) := by
    rw [readAll?]
    split
    next a' hread => rw [hread, Option.some_inj, Option.some_inj, Prod.mk.injEq, and_iff_left rfl]
    next hnone => exact iff_of_false (fun h => by cases h) fun h => hnone a h
  rw [hread, x.read?_eq_some_iff, List.append_nil]

/-- Chunks hold values, one each, exactly if they are what is written for them. -/
theorem mapM_readAll?_eq_some_iff {x : Codec α} {chunks : List Bytes} {values : List α} :
    chunks.mapM x.readAll? = some values ↔ chunks = values.map x.write := by
  induction chunks generalizing values with
  | nil =>
    rw [List.mapM_nil, Option.pure_def, Option.some_inj, eq_comm (a := []), eq_comm (a := []),
      List.map_eq_nil_iff]
  | cons chunk chunks ih =>
    rw [List.mapM_cons]
    constructor
    · intro h
      obtain ⟨a, ha, h⟩ := Option.bind_eq_some_iff.1 h
      obtain ⟨rest, hrest, h⟩ := Option.bind_eq_some_iff.1 h
      cases h
      rw [readAll?_eq_some_iff.1 ha, ih.1 hrest, List.map_cons]
    · intro h
      cases values with
      | nil => cases h
      | cons a values =>
        obtain ⟨hchunk, hchunks⟩ := List.cons.inj h
        refine Option.bind_eq_some_iff.2 ⟨a, readAll?_eq_some_iff.2 hchunk, ?_⟩
        exact Option.bind_eq_some_iff.2 ⟨values, ih.2 hchunks, rfl⟩

end Codec

end SwapRouter
