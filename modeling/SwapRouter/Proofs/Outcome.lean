import Mathlib.Data.List.Forall2
import SwapRouter.Session

/-!
# Reading a success backwards

Checks and encodings stop at their first failure.  A success of the whole is therefore a success
of every part, and the lemmas of this file take it apart: `bind_eq_ok_iff` and `forM_eq_ok_iff`
for checks, `Encode.outcome_bind_eq_ok_iff` for computations that ask the outside.  The other way
round, `Encode.Succeeds` puts computations that cannot fail together.

What a failure comes to may depend on the circumstances, unlike a success.  `Encode.IsConstant` are
the computations for which it does not: whatever asks for no approval is one of them.
-/

namespace SwapRouter

variable {ε α β : Type}

/-! ## Checks -/

/-- One check after another one passes exactly when both do. -/
theorem bind_eq_ok_iff {x : Except ε α} {f : α → Except ε β} {b : β} :
    (x >>= f) = .ok b ↔ ∃ a, x = .ok a ∧ f a = .ok b := by
  cases x with
  | error e =>
    constructor
    · intro h
      cases h
    · rintro ⟨a, ha, -⟩
      cases ha
  | ok a =>
    constructor
    · exact fun h => ⟨a, rfl, h⟩
    · rintro ⟨a', ha, h⟩
      cases ha
      exact h

/-- One check after another one fails exactly when one of them does. -/
theorem bind_eq_error_iff {x : Except ε α} {f : α → Except ε β} {e : ε} :
    (x >>= f) = .error e ↔ x = .error e ∨ ∃ a, x = .ok a ∧ f a = .error e := by
  cases x with
  | error e' =>
    refine ⟨fun h => Or.inl (congrArg _ (Except.error.inj h)), ?_⟩
    rintro (h | ⟨a, ha, -⟩)
    · cases h
      rfl
    · cases ha
  | ok a =>
    refine ⟨fun h => Or.inr ⟨a, rfl, h⟩, ?_⟩
    rintro (h | ⟨a', ha, h⟩)
    · cases h
    · cases ha
      exact h

/-- A check of the entries of a list passes exactly when every entry does. -/
theorem forM_eq_ok_iff {f : α → Except ε Unit} {l : List α} :
    l.forM f = .ok () ↔ ∀ x ∈ l, f x = .ok () := by
  induction l with
  | nil => exact ⟨fun _ x hx => absurd hx List.not_mem_nil, fun _ => rfl⟩
  | cons x l ih =>
    have hstep : (x :: l).forM f = f x >>= fun _ => l.forM f := rfl
    rw [hstep, bind_eq_ok_iff, List.forall_mem_cons, ih]
    constructor
    · rintro ⟨⟨⟩, hx, hl⟩
      exact ⟨hx, hl⟩
    · exact fun h => ⟨(), h⟩

/-- A check of the entries of a list comes to values exactly if each entry comes to its own. -/
theorem map_eq_map_ok_iff {f : α → Except ε β} {l : List α} {values : List β} :
    l.map f = values.map .ok ↔ List.Forall₂ (fun a b => f a = .ok b) l values := by
  rw [← List.forall₂_eq_eq_eq, List.forall₂_map_left_iff, List.forall₂_map_right_iff]

theorem eq_ok_of_toOption_eq_some {x : Except ε α} {a : α} (h : x.toOption = some a) :
    x = .ok a := by
  cases x with
  | error e => cases h
  | ok b => cases h; rfl

theorem exists_eq_ok_of_isSome {x : Except ε α} (h : x.toOption.isSome = true) :
    ∃ a, x = .ok a := by
  obtain ⟨a, ha⟩ := Option.isSome_iff_exists.1 h
  exact ⟨a, eq_ok_of_toOption_eq_some ha⟩

/-! ## Computations that ask the outside -/

namespace Encode

/-- What a computation comes to in some circumstances. -/
def outcome (x : Encode α) (c : Circumstances) : Except Failure α := (x.course c).outcome

variable {c c' : Circumstances}

/-- What a computation succeeds with is the same wherever the same approvals are known. -/
theorem outcome_eq_ok_iff_of_known {x : Encode α} (h : c.known = c'.known) {a : α} :
    x.outcome c = .ok a ↔ x.outcome c' = .ok a :=
  ⟨x.steady h, x.steady h.symm⟩

/-- A computation after another one succeeds exactly when both do. -/
theorem outcome_bind_eq_ok_iff {x : Encode α} {f : α → Encode β} {b : β} :
    (x >>= f).outcome c = .ok b ↔ ∃ a, x.outcome c = .ok a ∧ (f a).outcome c = .ok b := by
  rcases hx : (x.course c).outcome with e | a
  · rw [outcome, bind_of_error hx, outcome, hx]
    constructor
    · intro h
      cases h
    · rintro ⟨a, ha, -⟩
      cases ha
  · rw [outcome, bind_of_ok hx, outcome, hx]
    -- the second computation goes on elsewhere, where the same approvals are known
    have hmoved : (f a).outcome (c.movedTo (x.course c).ending.moment) = .ok b ↔
        (f a).outcome c = .ok b := outcome_eq_ok_iff_of_known (Circumstances.known_movedTo c _)
    constructor
    · exact fun h => ⟨a, rfl, hmoved.1 h⟩
    · rintro ⟨a', ha, h⟩
      cases ha
      exact hmoved.2 h

@[simp] theorem outcome_pure (a : α) : (Pure.pure a : Encode α).outcome c = .ok a := rfl

theorem outcome_bind_pure (x : Encode α) (f : α → β) :
    (x >>= fun a => Pure.pure (f a)).outcome c = (x.outcome c).map f := by
  rcases hx : (x.course c).outcome with e | a
  · rw [outcome, bind_of_error hx, outcome, hx]
    rfl
  · rw [outcome, bind_of_ok hx, outcome, hx]
    rfl

@[simp] theorem outcome_ask (q : Question) : (ask q).outcome c = .ok () := rfl

@[simp] theorem outcome_ofExcept (x : Except Failure α) : (ofExcept x).outcome c = x := by
  cases x <;> rfl

@[simp] theorem outcome_require_eq_ok_iff {x : Except EncodingError α} {a : α} :
    (require x).outcome c = .ok a ↔ x = .ok a := by
  cases x with
  | error e => exact iff_of_false (fun h => by cases h) (fun h => by cases h)
  | ok b =>
    constructor
    · intro h
      cases h
      rfl
    · intro h
      cases h
      rfl

/-- A check in front of a computation passes if the whole succeeds. -/
theorem eq_ok_of_outcome_require_bind {x : Except EncodingError Unit} {f : Unit → Encode β}
    {b : β} (h : (require x >>= f).outcome c = .ok b) :
    x = .ok () ∧ (f ()).outcome c = .ok b := by
  obtain ⟨⟨⟩, hx, hf⟩ := outcome_bind_eq_ok_iff.1 h
  exact ⟨outcome_require_eq_ok_iff.1 hx, hf⟩

theorem map_outcome_courses_eq_ok_iff {jobs : List (Encode α)} {position : Nat}
    {values : List α} :
    (courses c position jobs).map Course.outcome = values.map .ok ↔
      jobs.map (outcome · c) = values.map .ok := by
  induction jobs generalizing position values with
  | nil => exact Iff.rfl
  | cons job jobs ih =>
    cases values with
    | nil => simp
    | cons a values =>
      rw [courses_cons, List.map_cons, List.map_cons, List.map_cons, List.cons.injEq,
        List.cons.injEq, ih]
      exact and_congr_left fun _ => outcome_eq_ok_iff_of_known (Circumstances.known_ofJob c position)

/-- **Computations side by side succeed exactly when each of them does**, with their values in
the order of the list. -/
theorem outcome_sideBySide_eq_ok_iff {jobs : List (Encode α)} {values : List α} :
    (sideBySide jobs).outcome c = .ok values ↔ jobs.map (outcome · c) = values.map .ok :=
  Course.all_outcome_eq_ok_iff.trans map_outcome_courses_eq_ok_iff

theorem exists_outcome_eq_ok_of_mem {jobs : List (Encode α)} {values : List α}
    (h : (sideBySide jobs).outcome c = .ok values) {job : Encode α} (hjob : job ∈ jobs) :
    ∃ a, job.outcome c = .ok a := by
  have hmem : job.outcome c ∈ values.map Except.ok := by
    rw [← outcome_sideBySide_eq_ok_iff.1 h]
    exact List.mem_map_of_mem hjob
  obtain ⟨a, -, ha⟩ := List.mem_map.1 hmem
  exact ⟨a, ha.symm⟩

/-! ## Failures -/

/-- A failure ends the whole. -/
theorem outcome_bind_of_error {x : Encode α} {f : α → Encode β} {e : Failure}
    (h : x.outcome c = .error e) : (x >>= f).outcome c = .error e := by
  rw [outcome, bind_of_error h]
  rfl

/-- After a value the second computation goes on, in other circumstances. -/
theorem exists_outcome_bind {x : Encode α} {a : α} (h : x.outcome c = .ok a)
    (f : α → Encode β) : ∃ c', (x >>= f).outcome c = (f a).outcome c' := by
  refine ⟨c.movedTo (x.course c).ending.moment, ?_⟩
  rw [outcome, bind_of_ok h]
  rfl

/-- A computation comes to the same in all circumstances. -/
def IsConstant (x : Encode α) : Prop := ∀ c c', x.outcome c = x.outcome c'

theorem isConstant_pure (a : α) : (Pure.pure a : Encode α).IsConstant := fun _ _ => rfl

theorem isConstant_fail (f : Failure) : (fail f : Encode α).IsConstant := fun _ _ => rfl

theorem isConstant_ask (q : Question) : (ask q).IsConstant := fun _ _ => rfl

theorem isConstant_ofExcept (x : Except Failure α) : (ofExcept x).IsConstant := fun c c' => by
  rw [outcome_ofExcept, outcome_ofExcept]

theorem IsConstant.bind {x : Encode α} {f : α → Encode β} (hx : x.IsConstant)
    (hf : ∀ a, (f a).IsConstant) : (x >>= f).IsConstant := by
  intro c c'
  have hsame : x.outcome c' = x.outcome c := hx c' c
  cases hout : x.outcome c with
  | error e => rw [outcome_bind_of_error hout, outcome_bind_of_error (hsame.trans hout)]
  | ok a =>
    obtain ⟨d, hd⟩ := exists_outcome_bind hout f
    obtain ⟨d', hd'⟩ := exists_outcome_bind (hsame.trans hout) f
    rw [hd, hd']
    exact hf a d d'

/-! ## Computations that cannot fail -/

/-- A computation succeeds whatever the circumstances, with a value of some kind. -/
def Succeeds (x : Encode α) (P : α → Prop) : Prop :=
  ∀ c, ∃ a, x.outcome c = .ok a ∧ P a

variable {x : Encode α} {P : α → Prop} {Q : β → Prop}

theorem Succeeds.pure {a : α} (ha : P a) : (Pure.pure a : Encode α).Succeeds P :=
  fun _ => ⟨a, rfl, ha⟩

theorem succeeds_ofExcept {r : Except Failure α} {a : α} (h : r = .ok a) (ha : P a) :
    (ofExcept r).Succeeds P := by
  subst h
  exact fun _ => ⟨a, rfl, ha⟩

theorem Succeeds.bind {f : α → Encode β} (hx : x.Succeeds P)
    (hf : ∀ a, P a → (f a).Succeeds Q) : (x >>= f).Succeeds Q := by
  intro c
  obtain ⟨a, hxa, ha⟩ := hx c
  obtain ⟨b, hfb, hb⟩ := hf a ha c
  exact ⟨b, outcome_bind_eq_ok_iff.2 ⟨a, hxa, hfb⟩, hb⟩

theorem succeeds_ofExcept_bind {r : Except Failure α} {a : α} {f : α → Encode β} (h : r = .ok a)
    (hf : (f a).Succeeds Q) : (ofExcept r >>= f).Succeeds Q :=
  (succeeds_ofExcept (P := fun x => x = a) h rfl).bind fun _ hx => hx ▸ hf

theorem succeeds_require_bind {r : Except EncodingError α} {a : α} {f : α → Encode β}
    (h : r = .ok a) (hf : (f a).Succeeds Q) : (require r >>= f).Succeeds Q := by
  subst h
  exact fun c => hf c

theorem exists_map_outcome {jobs : List (Encode α)} (h : ∀ job ∈ jobs, job.Succeeds P)
    (c : Circumstances) :
    ∃ values : List α, jobs.map (outcome · c) = values.map .ok ∧
      values.length = jobs.length ∧ ∀ a ∈ values, P a := by
  induction jobs with
  | nil => exact ⟨[], rfl, rfl, fun a ha => absurd ha List.not_mem_nil⟩
  | cons job jobs ih =>
    obtain ⟨hjob, hjobs⟩ := List.forall_mem_cons.1 h
    obtain ⟨a, hout, ha⟩ := hjob c
    obtain ⟨values, houts, hlen, hall⟩ := ih hjobs
    refine ⟨a :: values, ?_, ?_, List.forall_mem_cons.2 ⟨ha, hall⟩⟩
    · rw [List.map_cons, List.map_cons, hout, houts]
    · rw [List.length_cons, List.length_cons, hlen]

/-- **Computations side by side succeed if each of them does.** -/
theorem succeeds_sideBySide {jobs : List (Encode α)} (h : ∀ job ∈ jobs, job.Succeeds P) :
    (sideBySide jobs).Succeeds fun values => values.length = jobs.length ∧ ∀ a ∈ values, P a := by
  intro c
  obtain ⟨values, houts, hvalues⟩ := exists_map_outcome h c
  exact ⟨values, outcome_sideBySide_eq_ok_iff.2 houts, hvalues⟩

end Encode

end SwapRouter
