import SwapRouter.Proofs.Config.Shape

/-!
# The shape of a classification

Each of the four sets of a classification is written as a list, of which any value may be a member but
lists and objects; or as a text, which stands for its characters; or as an object, which stands for its
names.  Two of the sets exclude each other.  A text that is in both of them is a reason to refuse the
classification, and the reason names it.  A member that is no text has no name, so to be asked to name it
is a defect.

Whether there is such a member is asked of the sets, which keep one of several members that are the same.
It is the same question for the lists that the sets are read from, as being the same is an equivalence.

* `ProtocolSet.isSame_iff`, `ProtocolSet.isSame_symm`, `ProtocolSet.isSame_trans`: when two members are
  the same.
* `ProtocolSet.Gathers`: what a set keeps of a list.
* `ProtocolSet.exists_ofJson_eq_ok_iff`: which values are read as sets.
* `Capabilities.failsFatally_ofJson_iff`: **which tables are accepted or refused for a reason.**
* `Capabilities.isApart_of_ofJson`: what holds of an accepted one.
-/

namespace SwapRouter

/-! ## Sets of protocols -/

namespace ProtocolSet

variable {a b c : Json} {set : ProtocolSet}

/-- **Two members are the same** if they are written as the same, or have the same value as numbers. -/
theorem isSame_iff : isSame a b = true ↔ (a = .null ∧ b = .null) ∨ (∃ x, a = .float x ∧ b = .float x) ∨
    ∃ n, isSame.wholeUnits? a = some n ∧ isSame.wholeUnits? b = some n := by
  unfold isSame
  split
  next => exact iff_of_true rfl (Or.inl ⟨rfl, rfl⟩)
  next x y =>
    rw [Bool.or_eq_true, Bool.and_eq_true, decide_eq_true_eq, decide_eq_true_eq,
      Option.isSome_iff_exists]
    constructor
    · rintro (rfl | ⟨⟨n, hn⟩, heq⟩)
      · exact Or.inr (Or.inl ⟨x, rfl, rfl⟩)
      · exact Or.inr (Or.inr ⟨n, hn, heq.symm.trans hn⟩)
    · rintro (⟨h, -⟩ | ⟨z, hx, hy⟩ | ⟨n, hx, hy⟩)
      · cases h
      · cases hx
        cases hy
        exact Or.inl rfl
      · exact Or.inr ⟨⟨n, hx⟩, hx.trans hy.symm⟩
  next hnull hfloat =>
    split
    next m n hm hn =>
      rw [decide_eq_true_eq]
      constructor
      · rintro rfl
        exact Or.inr (Or.inr ⟨m, hm, hn⟩)
      · rintro (⟨ha, hb⟩ | ⟨x, ha, hb⟩ | ⟨k, ha, hb⟩)
        · exact absurd hb (hnull ha)
        · exact absurd hb (hfloat x x ha)
        · exact Option.some.inj (hm.symm.trans (ha.trans (hb.symm.trans hn)))
    next hnone =>
      refine iff_of_false Bool.false_ne_true ?_
      rintro (⟨ha, hb⟩ | ⟨x, ha, hb⟩ | ⟨k, ha, hb⟩)
      · exact hnull ha hb
      · exact hfloat x x ha hb
      · exact hnone k k ha hb

theorem isSame_symm (h : isSame a b = true) : isSame b a = true := by
  rw [isSame_iff] at h ⊢
  rcases h with ⟨ha, hb⟩ | ⟨x, ha, hb⟩ | ⟨n, ha, hb⟩
  · exact Or.inl ⟨hb, ha⟩
  · exact Or.inr (Or.inl ⟨x, hb, ha⟩)
  · exact Or.inr (Or.inr ⟨n, hb, ha⟩)

theorem isSame_trans (h : isSame a b = true) (h' : isSame b c = true) : isSame a c = true := by
  rw [isSame_iff] at h h' ⊢
  rcases h with ⟨rfl, rfl⟩ | ⟨x, rfl, rfl⟩ | ⟨n, ha, hb⟩
  · exact h'
  · exact h'
  · rcases h' with ⟨rfl, rfl⟩ | ⟨x, rfl, rfl⟩ | ⟨m, hb', hc⟩
    · exact Or.inr (Or.inr ⟨n, ha, hb⟩)
    · exact Or.inr (Or.inr ⟨n, ha, hb⟩)
    · obtain rfl := Option.some.inj (hb.symm.trans hb')
      exact Or.inr (Or.inr ⟨n, ha, hc⟩)

/-- A member of a set is no list and no object. -/
def canBeMember : Json → Bool
  | .arr _ | .obj _ => false
  | .null | .bool _ | .int _ | .float _ | .str _ => true

/-- What a set keeps of some values: each of them that is no text, or one that is the same. -/
structure Gathers (set : ProtocolSet) (items : List Json) : Prop where
  subset : set.foreign ⊆ items
  same : ∀ a, ∀ item ∈ items, isSame a item = true → ∃ k ∈ set.foreign, isSame a k = true

theorem gathers_nil (h : set.foreign = []) : Gathers set [] :=
  ⟨fun _ hk => h ▸ hk, fun _ _ hitem => absurd hitem List.not_mem_nil⟩

/-- A text is the same as no member. -/
theorem isSame_str (a : Json) (s : String) : isSame a (.str s) = false := by
  rw [← Bool.not_eq_true, isSame_iff]
  rintro (⟨-, h⟩ | ⟨x, -, h⟩ | ⟨n, -, h⟩) <;> cases h

/-- **One more member** is kept, unless it is a text or there is one that is the same. -/
theorem Gathers.insert? {set' : ProtocolSet} {items : List Json} (h : Gathers set items)
    (hinsert : set.insert? a = some set') : Gathers set' (items ++ [a]) := by
  have hkeep (kept : ProtocolSet) (hforeign : kept.foreign = set.foreign)
      (hlast : ∀ b, isSame b a = true → ∃ k ∈ set.foreign, isSame b k = true) :
      Gathers kept (items ++ [a]) := by
    refine ⟨hforeign ▸ fun k hk => List.mem_append_left _ (h.subset hk), fun b item hitem hsame => ?_⟩
    rw [hforeign]
    rcases List.mem_append.1 hitem with hitem | hitem
    · exact h.same b item hitem hsame
    · obtain rfl := List.mem_singleton.1 hitem
      exact hlast b hsame
  unfold ProtocolSet.insert? at hinsert
  split at hinsert
  next s =>
    cases hinsert
    refine hkeep _ rfl fun b hb => ?_
    rw [isSame_str] at hb
    cases hb
  next => cases hinsert
  next => cases hinsert
  next =>
    cases hinsert
    split
    next hany =>
      obtain ⟨k, hk, hsame⟩ := List.any_eq_true.1 hany
      exact hkeep set rfl fun b hb => ⟨k, hk, isSame_trans hb hsame⟩
    next hnone =>
      refine ⟨fun k hk => ?_, fun b item hitem hsame => ?_⟩
      · rcases List.mem_append.1 hk with hk | hk
        · exact List.mem_append_left _ (h.subset hk)
        · exact List.mem_append_right _ hk
      · rcases List.mem_append.1 hitem with hitem | hitem
        · obtain ⟨k, hk, hk'⟩ := h.same b item hitem hsame
          exact ⟨k, List.mem_append_left _ hk, hk'⟩
        · exact ⟨item, List.mem_append_right _ hitem, hsame⟩

theorem insert?_eq_none_iff : set.insert? a = none ↔ canBeMember a = false := by
  cases a with
  | arr | obj => exact iff_of_true rfl rfl
  | null | bool | int | float | str => exact iff_of_false (Option.some_ne_none _) Bool.noConfusion

/-- **The members of a list**, one after the other, if none of them is a list or an object. -/
theorem gathers_of_foldlM {items before : List Json} {set' : ProtocolSet} (h : Gathers set before)
    (hrun : items.foldlM ProtocolSet.insert? set = some set') : Gathers set' (before ++ items) := by
  induction items generalizing set before with
  | nil =>
    cases hrun
    rwa [List.append_nil]
  | cons item items ih =>
    rw [List.foldlM_cons] at hrun
    obtain ⟨next, hnext, hrun⟩ := Option.bind_eq_some_iff.1 hrun
    rw [List.append_cons]
    exact ih (h.insert? hnext) hrun

theorem isSome_foldlM_insert?_iff (set : ProtocolSet) {items : List Json} :
    (items.foldlM ProtocolSet.insert? set).isSome = true ↔ ∀ item ∈ items, canBeMember item = true := by
  induction items generalizing set with
  | nil => exact iff_of_true rfl fun item h => absurd h List.not_mem_nil
  | cons item items ih =>
    rw [List.foldlM_cons, List.forall_mem_cons]
    cases hinsert : set.insert? item with
    | none =>
      have hnot := insert?_eq_none_iff.1 hinsert
      exact iff_of_false Bool.false_ne_true fun h => Bool.false_ne_true (hnot.symm.trans h.1)
    | some next =>
      have hmember : canBeMember item = true := by
        rw [← Bool.not_eq_false]
        exact fun h => Option.some_ne_none next (hinsert.symm.trans (insert?_eq_none_iff.2 h))
      rw [and_iff_right hmember]
      exact ih next

/-- A value is written as a set: a list of members, a text, or an object. -/
def IsCollection : Json → Prop
  | .arr items => ∀ item ∈ items, canBeMember item = true
  | .str _ | .obj _ => True
  | .null | .bool _ | .int _ | .float _ => False

/-- The members that a value lists; the characters of a text and the names of an object are not
among them. -/
def itemsOf : Json → List Json
  | .arr items => items
  | .null | .bool _ | .int _ | .float _ | .str _ | .obj _ => []

/-- **A value is read as a set** exactly if it is written as one. -/
theorem exists_ofJson_eq_ok_iff : (∃ set, ofJson a = .ok set) ↔ IsCollection a := by
  cases a with
  | null | bool | int | float => exact iff_of_false (fun ⟨set, h⟩ => by cases h) id
  | str | obj => exact iff_of_true ⟨_, rfl⟩ trivial
  | arr items =>
    rw [IsCollection, ← isSome_foldlM_insert?_iff {}, ofJson]
    split
    next set hset => exact iff_of_true ⟨set, rfl⟩ (by rw [hset]; rfl)
    next hnone =>
      refine iff_of_false (fun ⟨set, h⟩ => by cases h) ?_
      rw [hnone]
      exact Bool.false_ne_true

theorem eq_defect_of_ofJson {failure : Failure} (h : ofJson a = .error failure) : failure = .defect := by
  unfold ofJson at h
  split at h
  · split at h
    · cases h
    · exact (Except.error.inj h).symm
  · cases h
  · cases h
  · exact (Except.error.inj h).symm

theorem gathers_of_ofJson (h : ofJson a = .ok set) : Gathers set (itemsOf a) := by
  cases a with
  | null | bool | int | float => cases h
  | str | obj =>
    cases h
    exact gathers_nil rfl
  | arr items =>
    rw [ofJson] at h
    split at h
    next found hfound =>
      cases h
      exact gathers_of_foldlM (gathers_nil rfl) hfound
    next => cases h

/-- **Two sets have a member in common that is no text** exactly if the values do that they are read
from. -/
theorem any_foreign_iff {other : ProtocolSet} {items items' : List Json} (h : Gathers set items)
    (h' : Gathers other items') :
    (set.foreign.any fun j => other.foreign.any (isSame j)) = true ↔
      ∃ j ∈ items, ∃ k ∈ items', isSame j k = true := by
  simp only [List.any_eq_true]
  constructor
  · rintro ⟨j, hj, k, hk, hsame⟩
    exact ⟨j, h.subset hj, k, h'.subset hk, hsame⟩
  · rintro ⟨j, hj, k, hk, hsame⟩
    obtain ⟨k', hk', hsame'⟩ := h'.same j k hk hsame
    obtain ⟨j', hj', hsame''⟩ := h.same k' j hj (isSame_symm hsame')
    exact ⟨j', hj', k', hk', isSame_symm hsame''⟩

end ProtocolSet

/-! ## The classification -/

namespace Capabilities

open ProtocolSet

variable {fields : List (String × Json)} {name : String} {set : ProtocolSet}

/-- The fields of a classification. -/
def setNames : List String :=
  ["groupable", "in_transfer_optimizable", "unsupported_for_chained_swaps", "funds_in_router"]

/-- The members that a field lists. -/
def listedIn (fields : List (String × Json)) (name : String) : List Json :=
  (fields.lookup name).elim [] itemsOf

/-- **A classification has a shape**: the fields that it has are written as sets, and no member that is no
text is in two of them that exclude each other. -/
structure HasShape (fields : List (String × Json)) : Prop where
  sets : ∀ name ∈ setNames, ∀ j, fields.lookup name = some j → IsCollection j
  apart : ∀ j ∈ listedIn fields "groupable", ∀ k ∈ listedIn fields "unsupported_for_chained_swaps",
    isSame j k = false

theorem exists_fieldSet_eq_ok_iff :
    (∃ set, fieldSet fields name = .ok set) ↔ ∀ j, fields.lookup name = some j → IsCollection j := by
  unfold fieldSet
  split
  next j hj =>
    rw [exists_ofJson_eq_ok_iff, hj]
    exact ⟨fun h j' hj' => Option.some.inj hj' ▸ h, fun h => h j rfl⟩
  next hnone =>
    rw [hnone]
    exact iff_of_true ⟨_, rfl⟩ fun j h => by cases h

theorem eq_defect_of_fieldSet {failure : Failure} (h : fieldSet fields name = .error failure) :
    failure = .defect := by
  unfold fieldSet at h
  split at h
  · exact eq_defect_of_ofJson h
  · cases h

theorem gathers_of_fieldSet (h : fieldSet fields name = .ok set) : Gathers set (listedIn fields name) := by
  unfold fieldSet at h
  rw [listedIn]
  split at h
  next j hj =>
    rw [hj]
    exact gathers_of_ofJson h
  next hnone =>
    rw [hnone]
    cases h
    exact gathers_nil rfl

theorem kind_of_ofSets {groupable paidDirectly unsupported fundsInRouter : ProtocolSet}
    {e : EncodingError} (h : ofSets groupable paidDirectly unsupported fundsInRouter = .error e) :
    e.kind = .fatal := by
  unfold ofSets at h
  split at h
  · cases h
  · cases h
    rfl

/-- **A classification is accepted or refused for a reason** exactly if it is an object that has a
shape. -/
theorem failsFatally_ofJson_iff {table : Json} :
    FailsFatally (ofJson table) ↔ ∃ fields, table = .obj fields ∧ HasShape fields := by
  cases table with
  | null | bool | int | float | str | arr =>
    exact iff_of_false not_failsFatally_defect fun ⟨fields, h, _⟩ => by cases h
  | obj fields =>
    have hdefect (name : String) (failure : Failure) :
        fieldSet fields name = .error failure → failure = .defect := eq_defect_of_fieldSet
    rw [ofJson, failsFatally_bind_iff_of_defect (hdefect _)]
    simp only [failsFatally_bind_iff_of_defect (hdefect _)]
    constructor
    · rintro ⟨groupable, hgroupable, paid, hpaid, unsupported, hunsupported, funds, hfunds, hlast⟩
      refine ⟨fields, rfl, ?_, ?_⟩
      · intro name hname
        rw [← exists_fieldSet_eq_ok_iff]
        simp only [setNames, List.mem_cons, List.not_mem_nil, or_false] at hname
        rcases hname with rfl | rfl | rfl | rfl
        · exact ⟨_, hgroupable⟩
        · exact ⟨_, hpaid⟩
        · exact ⟨_, hunsupported⟩
        · exact ⟨_, hfunds⟩
      · intro j hj k hk
        rw [← Bool.not_eq_true]
        intro hsame
        have hcommon := (any_foreign_iff (gathers_of_fieldSet hgroupable)
          (gathers_of_fieldSet hunsupported)).2 ⟨j, hj, k, hk, hsame⟩
        rw [if_pos hcommon] at hlast
        exact not_failsFatally_defect hlast
    · rintro ⟨fields', h, hshape⟩
      cases h
      have hset (name : String) (hname : name ∈ setNames) : ∃ set, fieldSet fields name = .ok set :=
        exists_fieldSet_eq_ok_iff.2 (hshape.sets name hname)
      obtain ⟨groupable, hgroupable⟩ := hset "groupable" (by decide)
      obtain ⟨paid, hpaid⟩ := hset "in_transfer_optimizable" (by decide)
      obtain ⟨unsupported, hunsupported⟩ := hset "unsupported_for_chained_swaps" (by decide)
      obtain ⟨funds, hfunds⟩ := hset "funds_in_router" (by decide)
      refine ⟨groupable, hgroupable, paid, hpaid, unsupported, hunsupported, funds, hfunds, ?_⟩
      rw [if_neg]
      · split
        · exact failsFatally_ok _
        next e he => exact failsFatally_encoding (kind_of_ofSets he)
      · intro hcommon
        obtain ⟨j, hj, k, hk, hsame⟩ := (any_foreign_iff (gathers_of_fieldSet hgroupable)
          (gathers_of_fieldSet hunsupported)).1 hcommon
        rw [hshape.apart j hj k hk] at hsame
        cases hsame

/-- No member of an accepted classification, be it a text or not, is in two sets that exclude each
other. -/
structure IsApart (c : Capabilities) : Prop where
  texts : ∀ p ∈ c.groupable.patterns, p ∉ c.unsupportedForChaining.patterns
  others : ∀ j ∈ c.groupable.foreign, ∀ k ∈ c.unsupportedForChaining.foreign, isSame j k = false

theorem isApart_of_ofJson {table : Json} {c : Capabilities} (h : ofJson table = .ok c) : c.IsApart := by
  unfold ofJson at h
  split at h
  next fields =>
    obtain ⟨groupable, hgroupable, h⟩ := bind_eq_ok_iff.1 h
    obtain ⟨paid, hpaid, h⟩ := bind_eq_ok_iff.1 h
    obtain ⟨unsupported, hunsupported, h⟩ := bind_eq_ok_iff.1 h
    obtain ⟨funds, hfunds, h⟩ := bind_eq_ok_iff.1 h
    dsimp only at h
    split at h
    · cases h
    next hcommon =>
      split at h
      next c' hc =>
        cases h
        unfold ofSets at hc
        split at hc
        next htexts =>
          cases hc
          refine ⟨htexts, fun j hj k hk => ?_⟩
          rw [← Bool.not_eq_true]
          exact fun hsame => hcommon (List.any_eq_true.2 ⟨j, hj, List.any_eq_true.2 ⟨k, hk, hsame⟩⟩)
        next => cases hc
      next => cases h
  next => cases h

end Capabilities

end SwapRouter
