import Mathlib.Data.List.Infix
import SwapRouter.Proofs.Outcome
import SwapRouter.RouterCall

/-!
# Lists of types in a signature

A signature names a function and lists the types of its arguments.  The list is cut at commas, but a
tuple is a type with commas of its own, so only the commas outside parentheses count.  One number is
enough to tell them: how many parentheses are open.

While a type is read from the front, this number is the depth of the part that has been read, whatever
stands in front of the type and behind it.  A comma inside of a type is met at a depth other than zero
and is kept; the end of a type is met at depth zero, and there the list has a comma or ends.  As a type
is not empty, the last one is not lost either, and without any type the list is empty.

* `Abi.IsTypeText`: what a text must satisfy to stand in a list of types.
* `Abi.cutAtCommas_of_isTypeText`: **a type is read as a whole.**
* `Abi.cutAtCommas_intercalate`: a list of types is cut into them.
* `Abi.argumentTexts_listed`: the types of a signature are the ones that it is written with.
* `Abi.recoversTypes`: **so they are for every name**, and for the functions of the router.
-/

namespace SwapRouter

namespace Abi

variable {front rest text : List Char} {texts : List (List Char)}

/-! ## Texts of types -/

/-- How many parentheses are open behind a text. -/
def depth (cs : List Char) : ℤ := (cs.count '(' : ℤ) - cs.count ')'

/-- A text may stand in a list of types: it is not empty, no parenthesis is closed that is not open, all
of them are closed in the end, and there are commas inside parentheses alone. -/
structure IsTypeText (text : List Char) : Prop where
  ne_nil : text ≠ []
  depth_nonneg : ∀ front, front <+: text → 0 ≤ depth front
  depth_eq_zero : depth text = 0
  depth_pos_of_comma : ∀ front, front ++ [','] <+: text → 0 < depth front

instance : DecidablePred IsTypeText := fun text =>
  decidable_of_iff (text ≠ [] ∧ (∀ front ∈ text.inits, 0 ≤ depth front) ∧ depth text = 0 ∧
      ∀ front ∈ text.inits, front ++ [','] <+: text → 0 < depth front)
    { mp := fun ⟨hne, hnonneg, hzero, hcomma⟩ =>
        ⟨hne, fun front hfront => hnonneg front ((List.mem_inits _ _).2 hfront), hzero,
          fun front hfront => hcomma front
            ((List.mem_inits _ _).2 ((List.prefix_append front _).trans hfront)) hfront⟩
      mpr := fun h =>
        ⟨h.ne_nil, fun front hfront => h.depth_nonneg front ((List.mem_inits _ _).1 hfront),
          h.depth_eq_zero, fun front _ => h.depth_pos_of_comma front⟩ }

theorem depth_concat (cs : List Char) (c : Char) :
    depth (cs ++ [c]) = if c = '(' then depth cs + 1 else if c = ')' then depth cs - 1 else depth cs := by
  rw [depth, List.count_append, List.count_append, List.count_singleton, List.count_singleton, depth]
  by_cases hopen : c = '('
  · subst hopen
    simp
    omega
  · by_cases hclose : c = ')'
    · subst hclose
      simp
      omega
    · simp [hopen, hclose]

/-! ## Reading a list of types -/

/-- **A type is read as a whole.**  Behind any part of it, at the depth of that part, the reader comes to
the end of the type with all of it in hand and no parenthesis open. -/
theorem cutAtCommas_of_isTypeText (h : IsTypeText text) (hsplit : front ++ rest = text)
    (behind : List Char) :
    cutAtCommas (depth front) front.reverse (rest ++ behind) =
      cutAtCommas 0 text.reverse behind := by
  -- what is left of the type gets shorter, and the part that has been read longer
  induction rest generalizing front with
  | nil =>
    rw [List.append_nil] at hsplit
    rw [hsplit, h.depth_eq_zero, List.nil_append]
  | cons c rest ih =>
    have hstep : (front ++ [c]) ++ rest = text := by rw [← hsplit, List.append_assoc]; rfl
    have hkept : (c = ',' && depth front = 0) = false := by
      rw [Bool.and_eq_false_imp]
      intro hc
      obtain rfl := of_decide_eq_true hc
      have hpos := h.depth_pos_of_comma front ⟨rest, hstep⟩
      exact decide_eq_false (Int.ne_of_gt hpos)
    rw [← ih hstep, List.cons_append, cutAtCommas, hkept, if_neg Bool.false_ne_true, depth_concat,
      List.reverse_append]
    rfl

/-- A list of types is cut into them. -/
theorem cutAtCommas_intercalate (h : ∀ text ∈ texts, IsTypeText text) :
    cutAtCommas 0 [] (List.intercalate [','] texts) = texts := by
  induction texts with
  | nil => rfl
  | cons text texts ih =>
    obtain ⟨htext, htexts⟩ := List.forall_mem_cons.1 h
    have hread := @cutAtCommas_of_isTypeText [] text text htext rfl
    cases texts with
    | nil =>
      have hlast := hread []
      rw [List.append_nil] at hlast
      have hne : text.reverse.isEmpty = false := by simpa using htext.ne_nil
      rw [List.intercalate_singleton]
      refine hlast.trans ?_
      rw [cutAtCommas, hne, if_neg Bool.false_ne_true, List.reverse_reverse]
    | cons next texts =>
      rw [List.intercalate_cons_cons, List.append_assoc]
      refine (hread _).trans ?_
      rw [List.singleton_append, cutAtCommas, List.reverse_reverse, ih htexts]
      rfl

/-- **The types of a signature are the ones that it is written with.** -/
theorem argumentTexts_listed {name : String} {types : List String} (hname : '(' ∉ name.toList)
    (htypes : ∀ t ∈ types, IsTypeText t.toList) :
    argumentTexts (name ++ "(" ++ String.intercalate "," types ++ ")") = .ok types := by
  have hlist : (name ++ "(" ++ String.intercalate "," types ++ ")").toList =
      name.toList ++ '(' :: (List.intercalate [','] (types.map String.toList) ++ [')']) := by
    simp
  have hkept : ∀ c ∈ name.toList, decide (c ≠ '(') = true := by
    intro c hc
    refine decide_eq_true ?_
    rintro rfl
    exact hname hc
  have hdrop : (name ++ "(" ++ String.intercalate "," types ++ ")").toList.dropWhile (· ≠ '(') =
      '(' :: (List.intercalate [','] (types.map String.toList) ++ [')']) := by
    rw [hlist, List.dropWhile_append_of_pos hkept]
    rfl
  have hcut := cutAtCommas_intercalate (List.forall_mem_map.2 htypes)
  rw [argumentTexts, Text.chars_eq, hdrop]
  dsimp only
  rw [List.dropLast_concat, hcut, List.map_map]
  exact congrArg Except.ok ((List.map_congr_left fun s _ => String.ofList_toList).trans types.map_id)

/-- Every type among the arguments of the router may stand in a list, the permit as one of them. -/
theorem isTypeText_of_mem_routerArgumentTexts {withPermit withTokenCount : Bool} {t : String}
    (h : t ∈ routerArgumentTexts withPermit withTokenCount) : IsTypeText t.toList := by
  have hrun : ∀ withPermit withTokenCount, ∀ t ∈ routerArgumentTexts withPermit withTokenCount,
      IsTypeText t.toList := by decide +kernel
  exact hrun withPermit withTokenCount t h

theorem argumentTexts_router {name : String} (hname : '(' ∉ name.toList)
    (withPermit withTokenCount : Bool) :
    argumentTexts (routerSignature name withPermit withTokenCount) =
      .ok (routerArgumentTexts withPermit withTokenCount) := by
  refine argumentTexts_listed ?_ fun t ht => isTypeText_of_mem_routerArgumentTexts ht
  rw [String.toList_append, List.mem_append]
  refine not_or.2 ⟨hname, ?_⟩
  cases withPermit <;> decide

/-- **The types of a signature are recovered from it.**  For a name without an opening parenthesis and
texts that may stand in a list, the signature made of them lists these texts; and the signature of a
function of the router lists the types of its arguments, the permit with its details as one type. -/
theorem recoversTypes {name : String} {types : List String} (hname : '(' ∉ name.toList)
    (htypes : ∀ t ∈ types, IsTypeText t.toList) :
    argumentTexts (name ++ "(" ++ String.intercalate "," types ++ ")") = .ok types ∧
    (∀ withPermit withTokenCount, argumentTexts (routerSignature name withPermit withTokenCount) =
      .ok (routerArgumentTexts withPermit withTokenCount)) ∧
    ∀ withTokenCount, permitTypeText ∈ routerArgumentTexts true withTokenCount :=
  ⟨argumentTexts_listed hname htypes, argumentTexts_router hname, by decide⟩

end Abi

namespace Sample

/-- A tuple in a tuple is one type, and so is what follows it. -/
theorem recoversTypes_nested :
    '(' ∉ "f".toList ∧ (∀ t ∈ ["uint256", "((address,bool),())", "bytes"], Abi.IsTypeText t.toList) ∧
      Abi.argumentTexts "f(uint256,((address,bool),()),bytes)" =
        .ok ["uint256", "((address,bool),())", "bytes"] := by
  have hname : '(' ∉ "f".toList := by decide
  have htypes : ∀ t ∈ ["uint256", "((address,bool),())", "bytes"], Abi.IsTypeText t.toList := by
    decide +kernel
  exact ⟨hname, htypes, (Abi.recoversTypes hname htypes).1⟩

end Sample

end SwapRouter
