import Mathlib.Data.List.Dedup
import Mathlib.Data.String.Basic
import SwapRouter.Route.TokenTable

/-!
# What the table of tokens holds

The tokens between the first one and the last one are put into a sorted list one by one.  They are
neither of the two ends, so the table repeats a token only if its ends are the same token, and a
token stands for the first place where it is listed.

* `mem_tokenTable_iff`: the table holds its ends and every token that a group takes or gives.
* `length_tokenTable_le`: it is no longer than two tokens a group and the two ends.
* `length_dedup_tokenTable`, `two_le_count_tokenTable_iff`: how many tokens it lists, and which of them
  twice.
* `tokensBetween_congr`: what stands between the ends depends on the tokens of the groups alone, since
  a list in a strict order is known from its entries.
* `tokenPosition_eq_ok_iff`, `lt_of_tokenPosition`: the place of a token; it is less than the number
  of tokens that are listed.
* `listsTokens`: **the table as a whole.**
-/

namespace SwapRouter

namespace Route

variable {first last token t : Address} {ts : List Address} {groups : List SwapGroup}

theorem mem_insertToken : t ∈ insertToken token ts ↔ t = token ∨ t ∈ ts := by
  induction ts with
  | nil => exact List.mem_cons
  | cons u ts ih =>
    rw [insertToken]
    split
    next heq =>
      rw [← heq, List.mem_cons]
      exact (or_iff_right_of_imp Or.inl).symm
    next =>
      split
      · exact List.mem_cons
      · rw [List.mem_cons, List.mem_cons, ih]
        exact or_left_comm

/-- A token is put where the texts go on rising. -/
theorem pairwise_insertToken (h : ts.Pairwise fun a b => a.text < b.text) :
    (insertToken token ts).Pairwise fun a b => a.text < b.text := by
  induction ts with
  | nil => exact List.pairwise_singleton _ _
  | cons u ts ih =>
    obtain ⟨hu, hts⟩ := List.pairwise_cons.1 h
    rw [insertToken]
    split
    · exact h
    next hne =>
      split
      next hlt =>
        exact List.pairwise_cons.2 ⟨List.forall_mem_cons.2 ⟨hlt, fun b hb => hlt.trans (hu b hb)⟩, h⟩
      next hge =>
        have hlt : u.text < token.text :=
          lt_of_le_of_ne (not_lt.1 hge) fun heq => hne (congrArg Address.mk heq.symm)
        refine List.pairwise_cons.2 ⟨fun b hb => ?_, ih hts⟩
        rcases mem_insertToken.1 hb with rfl | hb
        · exact hlt
        · exact hu b hb

theorem length_insertToken_le : (insertToken token ts).length ≤ ts.length + 1 := by
  induction ts with
  | nil => exact Nat.le_refl 1
  | cons u ts ih =>
    rw [insertToken]
    split
    · exact Nat.le_succ _
    · split
      · exact Nat.le_refl _
      · exact Nat.succ_le_succ ih

theorem mem_foldr_insertToken {tokens : List Address} :
    t ∈ tokens.foldr insertToken [] ↔ t ∈ tokens := by
  induction tokens with
  | nil => exact Iff.rfl
  | cons u tokens ih => rw [List.foldr_cons, mem_insertToken, ih, List.mem_cons]

theorem length_foldr_insertToken_le {tokens : List Address} :
    (tokens.foldr insertToken []).length ≤ tokens.length := by
  induction tokens with
  | nil => exact Nat.le_refl 0
  | cons u tokens ih => exact Nat.le_trans length_insertToken_le (Nat.succ_le_succ ih)

/-- The table holds what the groups take and give, between the first and the last token. -/
theorem mem_tokensBetween : t ∈ tokensBetween first last groups ↔
    (∃ g ∈ groups, t = g.tokenIn ∨ t = g.tokenOut) ∧ t ≠ first ∧ t ≠ last := by
  rw [tokensBetween, mem_foldr_insertToken, List.mem_filter, List.mem_flatMap]
  simp

theorem pairwise_tokensBetween :
    (tokensBetween first last groups).Pairwise fun a b => a.text < b.text := by
  rw [tokensBetween]
  generalize List.filter _ _ = tokens
  induction tokens with
  | nil => exact List.Pairwise.nil
  | cons token tokens ih => exact pairwise_insertToken ih

/-- No token is listed twice between the ends. -/
theorem nodup_tokensBetween : (tokensBetween first last groups).Nodup := by
  refine pairwise_tokensBetween.imp ?_
  rintro a b hlt rfl
  exact lt_irrefl _ hlt

theorem length_tokensBetween_le :
    (tokensBetween first last groups).length ≤ 2 * groups.length := by
  rw [tokensBetween]
  refine Nat.le_trans length_foldr_insertToken_le (Nat.le_trans (List.length_filter_le _ _) ?_)
  induction groups with
  | nil => exact Nat.le_refl 0
  | cons g groups ih =>
    rw [List.flatMap_cons, List.length_append, List.length_cons]
    simp only [List.length_cons, List.length_nil]
    omega

/-- **What stands between the ends depends on the tokens of the groups alone.** -/
theorem tokensBetween_congr {groups' : List SwapGroup}
    (h : ∀ t, (∃ g ∈ groups, t = g.tokenIn ∨ t = g.tokenOut) ↔
      ∃ g ∈ groups', t = g.tokenIn ∨ t = g.tokenOut) :
    tokensBetween first last groups = tokensBetween first last groups' := by
  refine List.Perm.eq_of_pairwise ?_ pairwise_tokensBetween pairwise_tokensBetween ?_
  · exact fun a b _ _ hab hba => absurd hab (lt_asymm hba)
  · refine (List.perm_ext_iff_of_nodup nodup_tokensBetween nodup_tokensBetween).2 fun t => ?_
    rw [mem_tokensBetween, mem_tokensBetween, h]

variable {chain : Chain} {order : Order}

/-- **The table holds its ends and every token that a group takes or gives**, and nothing else. -/
theorem mem_tokenTable_iff : t ∈ tokenTable chain order groups ↔
    t = startOf chain order.nativeAction order.givenToken ∨
      t = finishOf chain order.nativeAction order.checkedToken ∨
      ∃ g ∈ groups, t = g.tokenIn ∨ t = g.tokenOut := by
  rw [tokenTable, List.cons_append, List.mem_cons, List.mem_append, List.mem_singleton,
    mem_tokensBetween]
  by_cases hfirst : t = startOf chain order.nativeAction order.givenToken
  · exact iff_of_true (Or.inl hfirst) (Or.inl hfirst)
  by_cases hlast : t = finishOf chain order.nativeAction order.checkedToken
  · exact iff_of_true (Or.inr (Or.inr hlast)) (Or.inr (Or.inl hlast))
  · rw [or_iff_right hfirst, or_iff_right hfirst, or_iff_left hlast, or_iff_right hlast,
      and_iff_left ⟨hfirst, hlast⟩]

theorem mem_tokenTable {g : SwapGroup} (hg : g ∈ groups) (ht : t = g.tokenIn ∨ t = g.tokenOut) :
    t ∈ tokenTable chain order groups :=
  mem_tokenTable_iff.2 (Or.inr (Or.inr ⟨g, hg, ht⟩))

theorem length_tokenTable_le (chain : Chain) (order : Order) (groups : List SwapGroup) :
    (tokenTable chain order groups).length ≤ 2 * groups.length + 2 := by
  rw [tokenTable, List.cons_append, List.length_cons, List.length_append, List.length_singleton]
  exact Nat.succ_le_succ (Nat.succ_le_succ length_tokensBetween_le)

/-! ## Places -/

/-- The table lists a token once, but the one at both ends. -/
theorem length_dedup_tokenTable (chain : Chain) (order : Order) (groups : List SwapGroup) :
    (tokenTable chain order groups).dedup.length =
      if startOf chain order.nativeAction order.givenToken =
        finishOf chain order.nativeAction order.checkedToken then
        (tokenTable chain order groups).length - 1
      else (tokenTable chain order groups).length := by
  unfold tokenTable
  dsimp only
  generalize hfirst : startOf chain order.nativeAction order.givenToken = first
  generalize hlast : finishOf chain order.nativeAction order.checkedToken = last
  have hbetween : (tokensBetween first last groups ++ [last]).Nodup := by
    refine List.nodup_append.2 ⟨nodup_tokensBetween, List.nodup_singleton last, ?_⟩
    rintro a ha b hb rfl
    exact (mem_tokensBetween.1 ha).2.2 (List.mem_singleton.1 hb)
  split
  next heq =>
    have hmem : first ∈ tokensBetween first last groups ++ [last] := by
      rw [heq]
      exact List.mem_append_right _ (List.mem_singleton_self last)
    rw [List.cons_append, List.dedup_cons_of_mem hmem, hbetween.dedup, List.length_cons,
      Nat.add_sub_cancel]
  next hne =>
    have hmem : first ∉ tokensBetween first last groups ++ [last] := fun hmem => by
      rcases List.mem_append.1 hmem with hmem | hmem
      · exact (mem_tokensBetween.1 hmem).2.1 rfl
      · exact hne (List.mem_singleton.1 hmem)
    rw [List.cons_append, (List.nodup_cons.2 ⟨hmem, hbetween⟩).dedup]

/-- **A token is listed twice only if it stands at both ends.** -/
theorem two_le_count_tokenTable_iff : 2 ≤ (tokenTable chain order groups).count t ↔
    t = startOf chain order.nativeAction order.givenToken ∧
      t = finishOf chain order.nativeAction order.checkedToken := by
  rw [tokenTable]
  generalize startOf chain order.nativeAction order.givenToken = first
  generalize finishOf chain order.nativeAction order.checkedToken = last
  rw [List.cons_append, List.count_cons, List.count_append, List.count_singleton]
  simp only [beq_iff_eq]
  by_cases ht : t ∈ tokensBetween first last groups
  · obtain ⟨-, hfirst, hlast⟩ := mem_tokensBetween.1 ht
    have hle : (tokensBetween first last groups).count t ≤ 1 :=
      List.nodup_iff_count_le_one.1 nodup_tokensBetween t
    rw [if_neg (Ne.symm hfirst), if_neg (Ne.symm hlast)]
    exact iff_of_false (by omega) fun h => hfirst h.1
  · rw [List.count_eq_zero_of_not_mem ht, eq_comm (a := t), eq_comm (a := t)]
    by_cases hfirst : first = t <;> by_cases hlast : last = t <;> simp [hfirst, hlast]

/-- The place of a token is the first one where it is listed. -/
theorem tokenPosition_eq_ok_iff {table : List Address} {n : ℕ} :
    tokenPosition table t = .ok n ↔ table[n]? = some t ∧ t ∉ table.take n := by
  have hindex : tokenPosition table t = .ok n ↔ table.findIdx? (· = t) = some n := by
    rw [tokenPosition]
    cases table.findIdx? (· = t) with
    | none => exact iff_of_false (fun h => by cases h) fun h => by cases h
    | some m => rw [Except.ok.injEq, Option.some_inj]
  rw [hindex, List.findIdx?_eq_some_iff_getElem]
  constructor
  · rintro ⟨hn, heq, hfirst⟩
    refine ⟨List.getElem?_eq_some_iff.2 ⟨hn, of_decide_eq_true heq⟩, fun hmem => ?_⟩
    obtain ⟨m, hm, heq⟩ := List.mem_take_iff_getElem.1 hmem
    exact hfirst m (by omega) (decide_eq_true heq)
  · rintro ⟨hget, hnot⟩
    obtain ⟨hn, heq⟩ := List.getElem?_eq_some_iff.1 hget
    refine ⟨hn, decide_eq_true heq, fun m hm hmt => hnot ?_⟩
    exact List.mem_take_iff_getElem.2 ⟨m, by omega, of_decide_eq_true hmt⟩

/-- A token has a place exactly if it is listed. -/
theorem exists_tokenPosition_iff {table : List Address} :
    (∃ n, tokenPosition table t = .ok n) ↔ t ∈ table := by
  constructor
  · rintro ⟨n, hn⟩
    exact List.mem_of_getElem? (tokenPosition_eq_ok_iff.1 hn).1
  · intro h
    rw [tokenPosition]
    cases hindex : table.findIdx? (· = t) with
    | none =>
      have hnone := List.findIdx?_eq_none_iff.1 hindex t h
      exact absurd (of_decide_eq_false hnone) (not_not_intro rfl)
    | some n => exact ⟨n, rfl⟩

/-- Two tokens have the same place only if they are the same. -/
theorem tokenPosition_inj {table : List Address} {u : Address} {n m : ℕ}
    (ht : tokenPosition table t = .ok n) (hu : tokenPosition table u = .ok m) : n = m ↔ t = u := by
  constructor
  · rintro rfl
    have hget := (tokenPosition_eq_ok_iff.1 ht).1
    rw [(tokenPosition_eq_ok_iff.1 hu).1] at hget
    exact (Option.some.inj hget).symm
  · rintro rfl
    exact Except.ok.inj (ht.symm.trans hu)

/-- The place of a token is less than the number of tokens that are listed. -/
theorem lt_of_tokenPosition {n : ℕ}
    (h : tokenPosition (tokenTable chain order groups) t = .ok n) :
    n < (tokenTable chain order groups).dedup.length := by
  obtain ⟨hget, hnot⟩ := tokenPosition_eq_ok_iff.1 h
  obtain ⟨hn, -⟩ := List.getElem?_eq_some_iff.1 hget
  rw [length_dedup_tokenTable]
  split
  next hends =>
    -- the place at the end is never told, because its token stands in front, too
    refine lt_of_le_of_ne (Nat.le_sub_one_of_lt hn) fun hlast => hnot ?_
    unfold tokenTable at hlast hget ⊢
    dsimp only at hlast hget ⊢
    rw [List.length_append, List.length_singleton, Nat.add_sub_cancel] at hlast
    rw [hlast, List.getElem?_concat_length, Option.some_inj] at hget
    rw [hlast, List.length_cons, List.cons_append, List.take_succ_cons, ← hget, ← hends]
    exact List.mem_cons_self
  next => exact hn

/-! ## The table as a whole -/

/-- What the table of an order with some groups is. -/
structure ListsTokens (chain : Chain) (order : Order) (groups : List SwapGroup) : Prop where
  /-- It starts with the first token and ends with the last one, and between them the texts rise. -/
  ends : ∃ between, tokenTable chain order groups =
      startOf chain order.nativeAction order.givenToken ::
        between ++ [finishOf chain order.nativeAction order.checkedToken] ∧
    (between.Pairwise fun a b => a.text < b.text) ∧
    startOf chain order.nativeAction order.givenToken ∉ between ∧
    finishOf chain order.nativeAction order.checkedToken ∉ between
  /-- It holds what the groups take and give, and nothing else but its ends. -/
  mem_iff : ∀ t, t ∈ tokenTable chain order groups ↔
    t = startOf chain order.nativeAction order.givenToken ∨
      t = finishOf chain order.nativeAction order.checkedToken ∨
      ∃ g ∈ groups, t = g.tokenIn ∨ t = g.tokenOut
  /-- It lists a token twice only if its ends are that token. -/
  twice : ∀ t, 2 ≤ (tokenTable chain order groups).count t ↔
    t = startOf chain order.nativeAction order.givenToken ∧
      t = finishOf chain order.nativeAction order.checkedToken
  /-- The ends of every group have a place in it. -/
  places : ∀ g ∈ groups, (∃ n, tokenPosition (tokenTable chain order groups) g.tokenIn = .ok n) ∧
    ∃ n, tokenPosition (tokenTable chain order groups) g.tokenOut = .ok n
  /-- Different tokens have different places. -/
  distinct : ∀ t u n m, tokenPosition (tokenTable chain order groups) t = .ok n →
    tokenPosition (tokenTable chain order groups) u = .ok m → (n = m ↔ t = u)
  /-- It is the same for the groups in any order, however often they are listed. -/
  unordered : ∀ groups', groups ⊆ groups' → groups' ⊆ groups →
    tokenTable chain order groups' = tokenTable chain order groups

/-- **The table as a whole**, for any order and any groups. -/
theorem listsTokens (chain : Chain) (order : Order) (groups : List SwapGroup) :
    ListsTokens chain order groups where
  ends := ⟨_, rfl, pairwise_tokensBetween, fun h => (mem_tokensBetween.1 h).2.1 rfl,
    fun h => (mem_tokensBetween.1 h).2.2 rfl⟩
  mem_iff _ := mem_tokenTable_iff
  twice _ := two_le_count_tokenTable_iff
  places _ hg := ⟨exists_tokenPosition_iff.2 (mem_tokenTable hg (Or.inl rfl)),
    exists_tokenPosition_iff.2 (mem_tokenTable hg (Or.inr rfl))⟩
  distinct _ _ _ _ ht hu := tokenPosition_inj ht hu
  unordered groups' hsub hback := by
    have hsame : ∀ t, (∃ g ∈ groups', t = g.tokenIn ∨ t = g.tokenOut) ↔
        ∃ g ∈ groups, t = g.tokenIn ∨ t = g.tokenOut := fun t =>
      ⟨fun ⟨g, hg, ht⟩ => ⟨g, hback hg, ht⟩, fun ⟨g, hg, ht⟩ => ⟨g, hsub hg, ht⟩⟩
    rw [tokenTable, tokenTable, tokensBetween_congr hsame]

end Route

end SwapRouter
