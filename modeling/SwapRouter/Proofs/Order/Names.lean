import SwapRouter.Order.Printer
import SwapRouter.Proofs.JsonNames

/-!
# Names of attributes

The attributes of a pool that has been read have different names.  When they are written, a half of a
surrogate pair in a name is replaced.  The names that are written hold no half and differ from each
other, and names of this kind are written as they are.  Hence writing changes the attributes of a pool
exactly if one of their names holds a half, and to write what has been written changes nothing more.

* `Pool.written_invariant`: names that are written differ and hold no half.
* `Pool.written_eq_self_iff`: **attributes with different names are written as they are exactly if no
  name holds a half.**
* `Pool.written_written`: what has been written is written as it is.
-/

namespace SwapRouter

/-! ## Halves in a name -/

namespace Text

variable {s : String}

/-- A text that holds no half is left as it is. -/
theorem withoutHalves_eq_self (h : hasHalf s = false) : withoutHalves s = s := by
  rw [hasHalf, List.any_eq_false] at h
  have hkept : (letters s).flatMap Letter.replaced = (letters s).flatMap Letter.chars :=
    List.flatMap_congr fun l hl => if_neg (h l hl)
  rw [withoutHalves, hkept, letters, flatMap_chars_lettersOf, chars_eq, String.ofList_toList]

/-- A letter that is replaced, or stays, in front of characters: the letters in front hold no
half. -/
theorem any_lettersOf_replaced_append {c : Char} (hc : c ≠ mark) (cs : List Char) :
    ((lettersOf ((⟨false, c⟩ : Letter).replaced ++ cs)).any fun l => l.half?.isSome) =
      (lettersOf cs).any fun l => l.half?.isSome := by
  rw [Letter.replaced]
  split
  next =>
    have hreplacement : '\uFFFD' ≠ mark := by decide
    have hplain : (⟨false, '\uFFFD'⟩ : Letter).half? = none := by decide
    simp only [List.replicate_succ, List.replicate_zero, List.cons_append, List.nil_append,
      lettersOf_cons hreplacement, List.any_cons, hplain, Option.isSome_none, Bool.false_or]
  next hplain =>
    rw [Bool.not_eq_true] at hplain
    change ((lettersOf (c :: cs)).any fun l => l.half?.isSome) = _
    rw [lettersOf_cons hc, List.any_cons, hplain, Bool.false_or]

/-- No half is left. -/
theorem hasHalf_withoutHalves (s : String) : hasHalf (withoutHalves s) = false := by
  rw [hasHalf, withoutHalves, letters, letters, chars_eq, String.toList_ofList]
  -- the letters are met one by one, and each of them leaves letters that are no halves
  generalize chars s = cs
  fun_induction lettersOf cs with
  | case1 => rfl
  | case2 c =>
    by_cases hc : c = mark
    · subst hc
      decide
    · rw [List.flatMap_cons, any_lettersOf_replaced_append hc]
      rfl
  | case3 d rest ih =>
    have hmarked : (⟨true, d⟩ : Letter).replaced = [mark, d] := rfl
    rw [List.flatMap_cons, hmarked, List.cons_append, List.singleton_append, lettersOf_mark,
      List.any_cons, ih]
    rfl
  | case4 c d rest hc ih => rw [List.flatMap_cons, any_lettersOf_replaced_append hc, ih]

end Text

/-! ## Attributes as they are written -/

section Written

variable {entries : List (String × Bytes)} {p : Pool}

/-- The names of attributes differ. -/
def Pool.NamesDiffer (p : Pool) : Prop := (Json.names p.attributes).Nodup

/-- No name of an attribute holds a half of a surrogate pair. -/
def Pool.HasPlainNames (p : Pool) : Prop := ∀ name ∈ Json.names p.attributes, Text.hasHalf name = false

/-- A pool with its attributes as they are written. -/
def Pool.written (p : Pool) : Pool := { p with attributes := p.writtenAttributes }

namespace Pool

/-- **The names that are written differ and hold no half**: every attribute that is put in its place
leaves it so. -/
theorem written_invariant (p : Pool) : p.written.NamesDiffer ∧ p.written.HasPlainNames := by
  refine List.foldlRecOn
    (motive := fun entries => (Json.names entries).Nodup ∧
      ∀ name ∈ Json.names entries, Text.hasHalf name = false)
    p.attributes putWritten ?_ fun entries hentries entry _ => ?_
  · exact ⟨List.nodup_nil, fun name hname => absurd hname List.not_mem_nil⟩
  · obtain ⟨hdiffer, hplain⟩ := hentries
    refine ⟨Json.nodup_put hdiffer, fun name hname => ?_⟩
    obtain ⟨written, hwritten, rfl⟩ := List.mem_map.1 hname
    rcases Json.mem_put hwritten with rfl | hold
    · exact Text.hasHalf_withoutHalves _
    · exact hplain _ (List.mem_map_of_mem hold)

/-- Attributes whose names are new and hold no half are put behind those that are there. -/
theorem foldl_putWritten {added : List (String × Bytes)} (hdiffer : (Json.names (entries ++ added)).Nodup)
    (hplain : ∀ name ∈ Json.names added, Text.hasHalf name = false) :
    added.foldl putWritten entries = entries ++ added := by
  induction added generalizing entries with
  | nil => exact (List.append_nil entries).symm
  | cons entry added ih =>
    obtain ⟨hname, hnames⟩ := List.forall_mem_cons.1 hplain
    have hfresh : entry.1 ∉ Json.names entries := by
      rw [Json.names, List.map_append] at hdiffer
      exact fun hmem => List.disjoint_of_nodup_append hdiffer hmem List.mem_cons_self
    have hput : putWritten entries entry = entries ++ [entry] := by
      rw [putWritten, Text.withoutHalves_eq_self hname, Json.put_of_notMem hfresh]
    rw [List.foldl_cons, hput, ih _ hnames, List.append_assoc]
    · rfl
    · rwa [List.append_assoc]

/-- **Attributes with different names that hold no half are written as they are.** -/
theorem written_eq_self (hdiffer : p.NamesDiffer) (hplain : p.HasPlainNames) : p.written = p := by
  have hall : p.attributes.foldl putWritten [] = [] ++ p.attributes := foldl_putWritten hdiffer hplain
  rw [written, writtenAttributes, hall]
  rfl

/-- **Attributes with different names are written as they are exactly if no name holds a half.** -/
theorem written_eq_self_iff (hdiffer : p.NamesDiffer) : p.written = p ↔ p.HasPlainNames := by
  refine ⟨fun h => ?_, written_eq_self hdiffer⟩
  rw [← h]
  exact p.written_invariant.2

/-- **What has been written is written as it is.** -/
theorem written_written (p : Pool) : p.written.written = p.written :=
  written_eq_self p.written_invariant.1 p.written_invariant.2

end Pool

end Written

end SwapRouter
