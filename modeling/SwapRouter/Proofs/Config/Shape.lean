import Mathlib.Data.List.Infix
import SwapRouter.Config.Tables
import SwapRouter.Proofs.LookUp.NormalForm

/-!
# The shapes of tables

A table is read without a look at its shape first.  It is asked for the entry of a chain as if it were an
object, and what comes of that if it is none depends on what the question means for such a value: a list
has the name of the chain as an item or not, a text as a part or not, and a number has no answer.  Where
the answer is no, the table has no entry for the chain, which is a reason to refuse it; where it is yes,
the entry cannot be taken.

So each table has shapes with which reading it ends with a result or a reason, and shapes with which it is
a defect.  This file draws the line between them for the tables of addresses.  What is listed under the
chain is looked at entry by entry, and there a value of another kind is refused like an address that is
not well formed.

* `FailsFatally`: a step that ends with a result or a reason to refuse the setup.
* `Config.failsFatally_executorsOf_iff`, `Config.failsFatally_routerOf_iff`: **the tables of addresses.**
* `Config.isUsable_of_executorsOf`, `Config.isUsable_of_routerOf`: what is taken from them.
-/

namespace SwapRouter

variable {α β : Type}

/-! ## Steps that fail for a reason -/

/-- A step fails for the want of a working setup only, and never as a defect. -/
def FailsFatally (x : Except Failure α) : Prop :=
  ∀ failure, x = .error failure → ∃ e : EncodingError, failure = .encoding e ∧ e.kind = .fatal

theorem failsFatally_ok (a : α) : FailsFatally (.ok a : Except Failure α) := by
  intro failure h
  cases h

theorem failsFatally_encoding {e : EncodingError} (h : e.kind = .fatal) :
    FailsFatally (.error (.encoding e) : Except Failure α) := by
  rintro failure ⟨⟩
  exact ⟨e, rfl, h⟩

theorem not_failsFatally_defect : ¬ FailsFatally (.error .defect : Except Failure α) := by
  intro h
  obtain ⟨e, he, -⟩ := h _ rfl
  cases he

/-- One step after another one fails so if both do. -/
theorem failsFatally_bind_iff {x : Except Failure α} {f : α → Except Failure β} :
    FailsFatally (x >>= f) ↔ FailsFatally x ∧ ∀ a, x = .ok a → FailsFatally (f a) := by
  constructor
  · intro h
    exact ⟨fun failure hx => h failure (bind_eq_error_iff.2 (Or.inl hx)),
      fun a ha failure hf => h failure (bind_eq_error_iff.2 (Or.inr ⟨a, ha, hf⟩))⟩
  · rintro ⟨hx, hf⟩ failure h
    rcases bind_eq_error_iff.1 h with h | ⟨a, ha, h⟩
    · exact hx failure h
    · exact hf a ha failure h

/-- A step that fails as a defect only has to succeed. -/
theorem failsFatally_bind_iff_of_defect {x : Except Failure α} {f : α → Except Failure β}
    (hx : ∀ failure, x = .error failure → failure = .defect) :
    FailsFatally (x >>= f) ↔ ∃ a, x = .ok a ∧ FailsFatally (f a) := by
  cases x with
  | ok a => exact ⟨fun h => ⟨a, rfl, h⟩, fun ⟨a', ha, h⟩ => Except.ok.inj ha ▸ h⟩
  | error failure =>
    obtain rfl := hx failure rfl
    exact iff_of_false not_failsFatally_defect fun ⟨a, ha, _⟩ => by cases ha

theorem failsFatally_mapM {f : α → Except Failure β} {l : List α} (h : ∀ a ∈ l, FailsFatally (f a)) :
    FailsFatally (l.mapM f) := by
  induction l with
  | nil => exact failsFatally_ok []
  | cons a l ih =>
    rw [List.forall_mem_cons] at h
    rw [List.mapM_cons]
    refine failsFatally_bind_iff.2 ⟨h.1, fun b _ => ?_⟩
    exact failsFatally_bind_iff.2 ⟨ih h.2, fun bs _ => failsFatally_ok _⟩

/-- What holds of each result holds of all results of a list. -/
theorem forall_mem_of_mapM_eq_ok {f : α → Except Failure β} {P : β → Prop} {l : List α} {bs : List β}
    (h : l.mapM f = .ok bs) (hf : ∀ a ∈ l, ∀ b, f a = .ok b → P b) : ∀ b ∈ bs, P b := by
  induction l generalizing bs with
  | nil =>
    cases h
    exact fun b hb => absurd hb List.not_mem_nil
  | cons a l ih =>
    rw [List.forall_mem_cons] at hf
    rw [List.mapM_cons] at h
    obtain ⟨b, hb, h⟩ := bind_eq_ok_iff.1 h
    obtain ⟨bs, hbs, h⟩ := bind_eq_ok_iff.1 h
    cases h
    exact List.forall_mem_cons.2 ⟨hf.1 b hb, ih hbs hf.2⟩

/-! ## Tables of addresses -/

namespace Config

variable {chain : Chain} {role : String} {j : Json}

/-- An address that can be used as it is: well formed, and in its normal form. -/
def IsUsable (a : Address) : Prop := a.isWellFormed = true ∧ a.normal = a

theorem isUsable_of_tableAddress {a : Address} (h : tableAddress role j = .ok a) : IsUsable a := by
  unfold tableAddress at h
  split at h
  · split at h
    next hformed =>
      cases h
      exact ⟨Address.isWellFormed_normal hformed, Address.normal_normal hformed⟩
    next => cases h
  · cases h

/-- A value that is no address is refused for a reason. -/
theorem failsFatally_tableAddress (role : String) (j : Json) : FailsFatally (tableAddress role j) := by
  have hrefused : FailsFatally (tableAddress.refused role j) := failsFatally_encoding rfl
  unfold tableAddress
  split
  · split
    · exact failsFatally_ok _
    · exact hrefused
  · exact hrefused

theorem holdsText_iff {text : String} {items : List Json} :
    holdsText text items = true ↔ .str text ∈ items := by
  rw [holdsText, List.any_eq_true]
  constructor
  · rintro ⟨item, hitem, h⟩
    split at h
    next s =>
      obtain rfl := of_decide_eq_true h
      exact hitem
    next => cases h
  · exact fun h => ⟨_, h, decide_eq_true rfl⟩

theorem occursIn_iff {part cs : List Char} : occursIn part cs = true ↔ part <:+: cs := by
  induction cs with
  | nil => rw [occursIn, List.isEmpty_iff, List.infix_nil]
  | cons c cs ih => rw [occursIn, Bool.or_eq_true, List.isPrefixOf_iff_prefix, ih, List.infix_cons_iff]

/-- A table of executors has a shape for a chain: an object with an object for the chain, if it has an
entry for it at all; or else a list or a text that does not name the chain. -/
def FitsExecutors (chain : Chain) : Json → Prop
  | .obj fields => ∀ j, fields.lookup chain.name = some j → ∃ entries, j = .obj entries
  | .arr items => .str chain.name ∉ items
  | .str s => ¬ chain.name.toList <:+: s.toList
  | .null | .bool _ | .int _ | .float _ => False

/-- **A table of executors** is accepted or refused for a reason exactly if it has such a shape. -/
theorem failsFatally_executorsOf_iff {table : Json} :
    FailsFatally (executorsOf chain table) ↔ FitsExecutors chain table := by
  have habsent : FailsFatally
      (.error (.encoding (.noExecutors chain.name)) : Except Failure (List (String × Address))) :=
    failsFatally_encoding rfl
  cases table with
  | null | bool | int | float => exact iff_of_false not_failsFatally_defect id
  | str s =>
    rw [executorsOf, FitsExecutors, ← occursIn_iff]
    split
    next hoccurs => exact iff_of_false not_failsFatally_defect (not_not_intro hoccurs)
    next hoccurs => exact iff_of_true habsent hoccurs
  | arr items =>
    rw [executorsOf, FitsExecutors, ← holdsText_iff]
    split
    next hholds => exact iff_of_false not_failsFatally_defect (not_not_intro hholds)
    next hholds => exact iff_of_true habsent hholds
  | obj fields =>
    rw [executorsOf, FitsExecutors]
    dsimp only
    split
    next entries hentries =>
      refine iff_of_true (failsFatally_mapM fun entry _ => ?_) fun j hj => ⟨entries, ?_⟩
      · exact failsFatally_bind_iff.2
          ⟨failsFatally_tableAddress _ _, fun executor _ => failsFatally_ok _⟩
      · exact Option.some.inj (hj.symm.trans hentries)
    next j hne hj =>
      refine iff_of_false not_failsFatally_defect fun h => ?_
      obtain ⟨entries, rfl⟩ := h j hj
      exact hne entries rfl
    next hnone =>
      refine iff_of_true habsent fun j hj => ?_
      rw [hnone] at hj
      cases hj

theorem isUsable_of_executorsOf {table : Json} {executors : List (String × Address)}
    (h : executorsOf chain table = .ok executors) : ∀ entry ∈ executors, IsUsable entry.2 := by
  unfold executorsOf at h
  split at h
  · split at h
    · refine forall_mem_of_mapM_eq_ok h fun entry _ entry' h => ?_
      obtain ⟨executor, hexecutor, h⟩ := bind_eq_ok_iff.1 h
      cases h
      exact isUsable_of_tableAddress hexecutor
    · cases h
    · cases h
  · split at h <;> cases h
  · split at h <;> cases h
  · cases h

/-- **A table of routers** is accepted or refused for a reason exactly if it is an object. -/
theorem failsFatally_routerOf_iff {table : Json} :
    FailsFatally (routerOf chain table) ↔ ∃ fields, table = .obj fields := by
  cases table with
  | null | bool | int | float | str | arr =>
    exact iff_of_false not_failsFatally_defect fun ⟨fields, h⟩ => by cases h
  | obj fields =>
    refine iff_of_true ?_ ⟨fields, rfl⟩
    rw [routerOf]
    split
    · exact failsFatally_ok none
    · exact failsFatally_ok none
    next j _ _ =>
      exact failsFatally_bind_iff.2 ⟨failsFatally_tableAddress _ j, fun a _ => failsFatally_ok _⟩

theorem isUsable_of_routerOf {table : Json} {router : Option Address}
    (h : routerOf chain table = .ok router) : ∀ a ∈ router, IsUsable a := by
  unfold routerOf at h
  split at h
  · split at h
    · cases h
      exact fun a ha => absurd ha (Option.not_mem_none a)
    · cases h
      exact fun a ha => absurd ha (Option.not_mem_none a)
    · obtain ⟨a, ha, h⟩ := bind_eq_ok_iff.1 h
      cases h
      rintro a ⟨⟩
      exact isUsable_of_tableAddress ha
  · cases h

end Config

end SwapRouter
