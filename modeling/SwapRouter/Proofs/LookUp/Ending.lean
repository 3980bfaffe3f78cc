import Mathlib.Data.List.Basic
import SwapRouter.Course

/-!
# How jobs end

A job is left alone, or a signal stops it; which questions it has asked by its end depends on that.
`Course.endingIf` is its end under a signal that may come or not, and this file says what becomes of
the signal where jobs are put together.

One job after another one hands the signal on to the part that runs when it comes.  Jobs side by side
are reached by a signal of their own: by none if they are left alone and none of them fails, by the
signal of the first failure, or, one turn later, by the signal that the whole is stopped with.  If the
whole is stopped before it starts, no job is started at all.

* `Course.endingIf_followedBy`: one job after another one.
* `Course.Reaches`: which signal reaches jobs side by side.
* `Course.asked_endingIf_all`: **jobs side by side ask what each of them asks under the signal that
  reaches them.**
-/

namespace SwapRouter

/-! ## Moments -/

namespace Moment

variable {a b : Moment}

/-- A moment of an earlier turn is before another one. -/
theorem before_of_turn_lt (h : a.turn < b.turn) : a.before b = true :=
  before_eq_true_iff.2 (Or.inl h)

theorem turn_le_of_before_eq_false (h : a.before b = false) : b.turn ≤ a.turn := by
  by_contra hlt
  rw [before_of_turn_lt (Nat.lt_of_not_le hlt)] at h
  cases h

theorem turn_le_of_before (h : a.before b = true) : a.turn ≤ b.turn := by
  rcases before_eq_true_iff.1 h with hlt | ⟨heq, -⟩
  · exact Nat.le_of_lt hlt
  · exact Nat.le_of_eq heq

/-- A moment of a later turn is not before another one, and neither is that one itself. -/
theorem before_eq_false_of_eq_or_turn_lt (h : a = b ∨ b.turn < a.turn) : a.before b = false := by
  rcases h with rfl | hlt
  · exact before_self a
  · exact before_eq_false_of_before (before_of_turn_lt hlt)

/-- A delay keeps the order of two moments. -/
theorem before_later_later (a b : Moment) (turns : ℕ) :
    (a.later turns).before (b.later turns) = a.before b := by
  rw [Bool.eq_iff_iff, before_eq_true_iff, before_eq_true_iff]
  simp only [later, Nat.add_lt_add_iff_right, Nat.add_right_cancel_iff]

/-- The last one of several moments is in no earlier turn than the first one that is named. -/
theorem turn_le_turn_latest (first : Moment) (others : List Moment) :
    first.turn ≤ (latest first others).turn := by
  induction others generalizing first with
  | nil => exact Nat.le_refl _
  | cons b others ih =>
    have hstep : latest first (b :: others) = latest (if first.before b then b else first) others :=
      rfl
    rw [hstep]
    split
    next h => exact Nat.le_trans (turn_le_of_before h) (ih b)
    next => exact ih first

end Moment

namespace Course

variable {Q α β : Type} {start s : Moment} {signal : Option Moment}

/-! ## Single jobs and jobs after each other -/

/-- How a job ends if a signal is sent or not. -/
def endingIf (t : Course Q α) (signal : Option Moment) : Ending Q :=
  signal.elim t.ending t.endingUnder

@[simp] theorem endingIf_none (t : Course Q α) : t.endingIf none = t.ending := rfl

/-- A signal stops a job that has not ended. -/
theorem endingIf_of_before {t : Course Q α} (h : s.before t.ending.moment = true) :
    t.endingIf (some s) = t.stopped s := by
  rw [endingIf, Option.elim_some, endingUnder, if_pos h]

/-- A signal that comes too late changes nothing. -/
theorem endingIf_of_late {t : Course Q α} (h : ∀ s ∈ signal, s.before t.ending.moment = false) :
    t.endingIf signal = t.ending := by
  cases signal with
  | none => rfl
  | some s => exact endingUnder_of_late (h s rfl)

theorem asked_endingIf_immediate (start : Moment) (outcome : Except Failure α) :
    ((immediate start outcome : Course Q α).endingIf signal).asked = [] := by
  cases signal with
  | none => rfl
  | some s =>
    rw [endingIf, Option.elim_some, endingUnder]
    split <;> rfl

/-- **One job after another one.**  A signal that comes before the end of the first job stops that
one; else it is up to the second one. -/
theorem endingIf_followedBy {t : Course Q α} {u : Course Q β}
    (hends : u.ending.moment.before t.ending.moment = false) :
    (t.followedBy u).endingIf signal =
      if ∃ s ∈ signal, s.before t.ending.moment = true then t.endingIf signal
      else ⟨(u.endingIf signal).moment, t.ending.asked ++ (u.endingIf signal).asked⟩ := by
  cases signal with
  | none =>
    rw [if_neg fun ⟨s, hs, _⟩ => Option.not_mem_none s hs]
    rfl
  | some s =>
    by_cases hfirst : s.before t.ending.moment = true
    · -- then it also comes before the end of the whole
      have hwhole : s.before u.ending.moment = true := by
        rw [← Bool.not_eq_false]
        intro hlate
        rw [Moment.before_eq_false_trans hlate hends] at hfirst
        cases hfirst
      rw [if_pos ⟨s, rfl, hfirst⟩, endingIf_of_before hfirst,
        endingIf_of_before (t := t.followedBy u) hwhole]
      exact if_pos hfirst
    · rw [if_neg fun ⟨s', hs', h⟩ => hfirst (Option.some.inj hs' ▸ h)]
      by_cases hsecond : s.before u.ending.moment = true
      · rw [endingIf_of_before (t := t.followedBy u) hsecond]
        exact if_neg hfirst
      · have hlate : ∀ s' ∈ some s, s'.before u.ending.moment = false := fun s' hs' =>
          Option.some.inj hs' ▸ Bool.eq_false_iff.2 hsecond
        rw [endingIf_of_late hlate, endingIf_of_late (t := t.followedBy u) hlate]
        rfl

/-! ## Jobs side by side -/

/-- Which signal reaches jobs that are started side by side, if the whole is stopped by a signal
or not. -/
inductive Reaches (start : Moment) (ts : List (Course Q α)) (signal : Option Moment) :
    Option Moment → Prop
  /-- No job fails, and the whole is left alone until its end. -/
  | alone : firstFailure ts = none →
    (∀ s ∈ signal, s.before (joined start (ts.map ending)).moment = false) →
    Reaches start ts signal none
  /-- A job fails before the whole is stopped. -/
  | failed {f : FirstFailure} : firstFailure ts = some f →
    (∀ s ∈ signal, s.before f.moment = false) → Reaches start ts signal (some f.signal)
  /-- The whole is stopped after its start, and before a job fails. -/
  | stopped {s : Moment} : signal = some s → s.before start = false →
    (∀ f, firstFailure ts = some f → s.before f.moment = true) →
    Reaches start ts signal (some (s.later 1))

theorem asked_joined (start : Moment) (es : List (Ending Q)) :
    (joined start es).asked = es.flatMap Ending.asked := by
  cases es with
  | nil => rfl
  | cons e es => rfl

theorem asked_interrupted {ts : List (Course Q α)} (h : s.before start = false) :
    (interrupted start ts s).asked = ts.flatMap fun t => (t.endingIf (some (s.later 1))).asked := by
  have hjoined : (joined start (ts.map (endingUnder · (s.later 1)))).asked =
      ts.flatMap fun t => (t.endingIf (some (s.later 1))).asked := by
    rw [asked_joined, List.flatMap_map]
    rfl
  rw [interrupted]
  dsimp only
  rw [if_neg (Bool.eq_false_iff.1 h)]
  split
  · exact hjoined
  · exact hjoined

theorem asked_interrupted_of_before {ts : List (Course Q α)} (h : s.before start = true) :
    (interrupted start ts s).asked = [] := by
  rw [interrupted]
  dsimp only
  rw [if_pos h]

theorem asked_halted (f : FirstFailure) (ts : List (Course Q α)) :
    (halted f ts).asked = ts.flatMap fun t => (t.endingIf (some f.signal)).asked := by
  rw [halted, List.flatMap_map]
  rfl

/-- A whole that a failure stops ends later than the failure happens. -/
theorem turn_lt_turn_halted (f : FirstFailure) (ts : List (Course Q α)) :
    f.moment.turn < (halted f ts).moment.turn := by
  have hlatest := Moment.turn_le_turn_latest f.moment (ts.map (waitFor f))
  have hturn : (halted f ts).moment.turn =
      (Moment.latest f.moment (ts.map (waitFor f))).turn + handover := rfl
  rw [hturn, handover]
  omega

/-- **Jobs side by side ask what each of them asks under the signal that reaches them**, and nothing if
the whole is stopped before it starts. -/
theorem asked_endingIf_all (start : Moment) (ts : List (Course Q α)) (signal : Option Moment) :
    (∃ s ∈ signal, s.before start = true ∧ ((all start ts).endingIf signal).asked = []) ∨
      ∃ passed, Reaches start ts signal passed ∧
        ((all start ts).endingIf signal).asked = ts.flatMap fun t => (t.endingIf passed).asked := by
  cases hf : firstFailure ts with
  | none =>
    have hending : (all start ts).ending = joined start (ts.map ending) := by rw [all, hf]
    have hstopped : (all start ts).stopped = interrupted start ts := by rw [all, hf]
    by_cases hlate : ∀ s ∈ signal, s.before (joined start (ts.map ending)).moment = false
    · refine Or.inr ⟨none, .alone hf hlate, ?_⟩
      rw [endingIf_of_late (hending ▸ hlate), hending, asked_joined, List.flatMap_map]
      rfl
    · push Not at hlate
      obtain ⟨s, rfl, hbefore⟩ := hlate
      rw [ne_eq, Bool.not_eq_false, ← hending] at hbefore
      rw [endingIf_of_before hbefore, hstopped]
      cases hstart : s.before start with
      | true => exact Or.inl ⟨s, rfl, hstart, asked_interrupted_of_before hstart⟩
      | false =>
        refine Or.inr ⟨some (s.later 1), .stopped rfl hstart fun f hf' => ?_, asked_interrupted hstart⟩
        cases hf.symm.trans hf'
  | some f =>
    have hending : (all start ts).ending = halted f ts := by rw [all, hf]
    have hstopped : (all start ts).stopped = fun signal =>
        if signal.before f.moment then interrupted start ts signal else halted f ts := by rw [all, hf]
    by_cases hlate : ∀ s ∈ signal, s.before f.moment = false
    · refine Or.inr ⟨some f.signal, .failed hf hlate, ?_⟩
      rw [← asked_halted]
      cases signal with
      | none => rw [endingIf_none, hending]
      | some s =>
        rw [endingIf, Option.elim_some, endingUnder, hstopped, hending]
        dsimp only
        rw [if_neg (Bool.eq_false_iff.1 (hlate s rfl)), ite_self]
    · push Not at hlate
      obtain ⟨s, rfl, hbefore⟩ := hlate
      rw [ne_eq, Bool.not_eq_false] at hbefore
      have hend : s.before (all start ts).ending.moment = true := by
        rw [hending]
        have hturn := Moment.turn_le_of_before hbefore
        exact Moment.before_of_turn_lt (Nat.lt_of_le_of_lt hturn (turn_lt_turn_halted f ts))
      rw [endingIf_of_before hend, hstopped]
      dsimp only
      rw [if_pos hbefore]
      cases hstart : s.before start with
      | true => exact Or.inl ⟨s, rfl, hstart, asked_interrupted_of_before hstart⟩
      | false =>
        refine Or.inr ⟨some (s.later 1), .stopped rfl hstart fun f' hf' => ?_, asked_interrupted hstart⟩
        rw [hf, Option.some.injEq] at hf'
        rwa [← hf']

/-- A whole with a job ends at least two turns after some end of a job. -/
theorem exists_turn_le_of_all (start : Moment) {ts : List (Course Q α)} (h : ts ≠ []) :
    ∃ t ∈ ts, t.ending.moment.turn + handover ≤ (all start ts).ending.moment.turn := by
  cases hf : firstFailure ts with
  | none =>
    obtain ⟨t, ts, rfl⟩ := List.exists_cons_of_ne_nil h
    refine ⟨t, List.mem_cons_self, ?_⟩
    have hturn : (all start (t :: ts)).ending.moment.turn =
        (Moment.latest t.ending.moment ((ts.map ending).map Ending.moment)).turn + handover := by
      rw [all, hf]
      rfl
    rw [hturn]
    exact Nat.add_le_add_right (Moment.turn_le_turn_latest _ _) _
  | some f =>
    obtain ⟨t, ht, -, hmoment⟩ := exists_of_firstFailure hf
    refine ⟨t, ht, ?_⟩
    have hturn : (all start ts).ending.moment.turn =
        (Moment.latest f.moment (ts.map (waitFor f))).turn + handover := by
      rw [all, hf]
      rfl
    rw [hturn, hmoment]
    exact Nat.add_le_add_right (Moment.turn_le_turn_latest _ _) _

end Course

end SwapRouter
