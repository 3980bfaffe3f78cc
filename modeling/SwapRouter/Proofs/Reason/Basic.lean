import SwapRouter.Proofs.Outcome

/-!
# Failures for a reason

A computation that fails should say why.  A failure that is a reason can be reported; a defect, or a
value that is refused where no reading of a record can report it, cannot.

The outcome of a computation is *reasoned* if it is a value of some kind or a reason.  The property
goes through everything that computations are put together with: one after the other, side by side,
and look-ups that are shared.  So it is enough to look at the single steps, and each of them has to
promise about its value what the steps behind it rely on.

* `Reasoned`, `Encode.Reasoned`: **what is asked of an outcome, and of a computation.**
* `Reasoned.bind`, `Encode.Reasoned.bind`, `Encode.reasoned_sideBySide`, `Encode.reasoned_once`: how
  such computations are put together.
-/

namespace SwapRouter

variable {α β : Type} {P P' : α → Prop} {Q : β → Prop}

/-! ## Outcomes -/

/-- An outcome is a value of some kind, or a reason. -/
inductive Reasoned (P : α → Prop) : Except Failure α → Prop where
  | ok {a : α} (h : P a) : Reasoned P (.ok a)
  | reason (e : EncodingError) : Reasoned P (.error (.encoding e))

theorem Reasoned.mono {x : Except Failure α} (hx : Reasoned P x) (h : ∀ a, P a → P' a) :
    Reasoned P' x := by
  cases hx with
  | ok ha => exact .ok (h _ ha)
  | reason e => exact .reason e

theorem Reasoned.bind {x : Except Failure α} {f : α → Except Failure β} (hx : Reasoned P x)
    (hf : ∀ a, P a → Reasoned Q (f a)) : Reasoned Q (x >>= f) := by
  cases hx with
  | ok ha => exact hf _ ha
  | reason e => exact .reason e

theorem reasoned_of_exists {x : Except Failure α} (h : ∃ a, x = .ok a ∧ P a) : Reasoned P x := by
  obtain ⟨a, rfl, ha⟩ := h
  exact .ok ha

theorem Reasoned.ok_or_reason {x : Except Failure α} (hx : Reasoned P x) :
    (∃ a, x = .ok a) ∨ ∃ e, x = .error (.encoding e) := by
  cases hx with
  | ok _ => exact Or.inl ⟨_, rfl⟩
  | reason e => exact Or.inr ⟨e, rfl⟩

/-- A reason is one, whatever is asked of a value. -/
theorem Reasoned.of_error {f : Failure} (h : Reasoned P (.error f)) : Reasoned Q (.error f) := by
  cases h with
  | reason e => exact .reason e

namespace Encode

/-! ## Computations -/

/-- A computation has reasoned outcomes where approvals are kept and none is known. -/
def Reasoned (x : Encode α) (P : α → Prop) : Prop :=
  ∀ c : Circumstances, c.known = some [] → SwapRouter.Reasoned P (x.outcome c)

variable {x y : Encode α}

theorem reasoned_pure {a : α} (ha : P a) : (Pure.pure a : Encode α).Reasoned P :=
  fun _ _ => .ok ha

theorem reasoned_ofExcept {r : Except Failure α} (h : SwapRouter.Reasoned P r) :
    (ofExcept r).Reasoned P := fun c _ => by
  rw [outcome_ofExcept]
  exact h

theorem reasoned_require {r : Except EncodingError α} (h : ∀ a, r = .ok a → P a) :
    (require r).Reasoned P := by
  cases r with
  | error e => exact fun _ _ => .reason e
  | ok a => exact reasoned_pure (h a rfl)

theorem reasoned_fail {e : EncodingError} : (fail (.encoding e) : Encode α).Reasoned P :=
  fun _ _ => .reason e

theorem reasoned_ask {q : Question} : (ask q).Reasoned fun _ => True := fun _ _ => .ok trivial

theorem Reasoned.bind {f : α → Encode β} (hx : x.Reasoned P)
    (hf : ∀ a, P a → (f a).Reasoned Q) : (x >>= f).Reasoned Q := by
  intro c hc
  have hxc := hx c hc
  rw [outcome] at hxc ⊢
  rcases h : (x.course c).outcome with e | a
  · rw [h] at hxc
    rw [bind_of_error h]
    exact hxc.of_error
  · rw [h] at hxc
    rw [bind_of_ok h]
    cases hxc with
    | ok ha => exact hf a ha _ hc

/-- A check in front of a computation. -/
theorem reasoned_require_bind {r : Except EncodingError α} {f : α → Encode β}
    (hf : ∀ a, r = .ok a → (f a).Reasoned Q) : (require r >>= f).Reasoned Q :=
  (reasoned_require fun _ h => h).bind hf

theorem mem_courses {c : Circumstances} {position : Nat} {jobs : List (Encode α)}
    {t : Course Event α} (h : t ∈ courses c position jobs) :
    ∃ job ∈ jobs, ∃ position', t = job.course (c.ofJob position') := by
  induction jobs generalizing position with
  | nil => exact absurd h List.not_mem_nil
  | cons job jobs ih =>
    rw [courses_cons, List.mem_cons] at h
    rcases h with rfl | h
    · exact ⟨job, List.mem_cons_self, position, rfl⟩
    · obtain ⟨job', hjob', found⟩ := ih h
      exact ⟨job', List.mem_cons_of_mem job hjob', found⟩

/-- Computations side by side fail with the failure of one of them, in other circumstances where the
same approvals are known. -/
theorem exists_of_outcome_sideBySide_eq_error {c : Circumstances} {jobs : List (Encode α)}
    {e : Failure} (h : (sideBySide jobs).outcome c = .error e) :
    ∃ job ∈ jobs, ∃ c', c'.known = c.known ∧ job.outcome c' = .error e := by
  obtain ⟨first, hfirst, rfl⟩ := Course.all_outcome_eq_error_iff.1 h
  obtain ⟨t, ht, hfailed, -⟩ := Course.exists_of_firstFailure hfirst
  obtain ⟨job, hjob, position, rfl⟩ := mem_courses ht
  exact ⟨job, hjob, c.ofJob position, Circumstances.known_ofJob c position, hfailed⟩

/-- **Computations side by side** come to the failure of one of them or to their values. -/
theorem reasoned_sideBySide {jobs : List (Encode α)} (h : ∀ job ∈ jobs, job.Reasoned P) :
    (sideBySide jobs).Reasoned fun values => values.length = jobs.length ∧ ∀ a ∈ values, P a := by
  intro c hc
  rcases hout : (sideBySide jobs).outcome c with e | values
  · obtain ⟨job, hjob, c', hknown, hfailed⟩ := exists_of_outcome_sideBySide_eq_error hout
    have hjobc := h job hjob c' (hknown.trans hc)
    rw [hfailed] at hjobc
    exact hjobc.of_error
  · have hvalues := outcome_sideBySide_eq_ok_iff.1 hout
    have hlen := congrArg List.length hvalues
    rw [List.length_map, List.length_map] at hlen
    refine .ok ⟨hlen.symm, fun a ha => ?_⟩
    obtain ⟨job, hjob, hjoba⟩ := List.mem_map.1 (hvalues ▸ List.mem_map_of_mem ha)
    have hjobc := h job hjob c hc
    rw [hjoba] at hjobc
    cases hjobc with
    | ok ha => exact ha

theorem reasoned_ifKept (hx : x.Reasoned P) : (ifKept x y).Reasoned P := by
  intro c hc
  have hkept : (ifKept x y).outcome c = x.outcome c := by
    rw [outcome, ifKept]
    dsimp only
    rw [hc]
    rfl
  rw [hkept]
  exact hx c hc

/-- Where nothing is known yet, **a look-up that is shared** comes to the outcome of the one that it
joins. -/
theorem outcome_once {key : ApprovalKey} {x : Encode Bool} {c : Circumstances}
    (hc : c.known = some []) : (once key x).outcome c = x.outcome c := by
  rw [outcome, once]
  dsimp only
  rw [hc]
  dsimp only [Option.bind_some, List.lookup_nil]
  split
  · rfl
  · split
    · rfl
    · rw [Course.joinLookUp]
      split <;> rfl

theorem reasoned_once {key : ApprovalKey} {x : Encode Bool} {P : Bool → Prop} (hx : x.Reasoned P) :
    (once key x).Reasoned P := by
  intro c hc
  rw [outcome_once hc]
  exact hx c hc

end Encode

end SwapRouter
