import SwapRouter.Error

/-!
# Jobs that run side by side

Jobs are started together, and the first failure that *happens* is the failure of all of
them: it stops the jobs that still run, and these ask nothing more.  What a job has asked
in the end thus depends on when another one fails.

A `Course` tells for a job both what it comes to if it is left alone and how it ends when
it is stopped.  Courses follow each other (`followedBy`) and run side by side (`all`).

## Why moments are enough

The jobs take turns, and nothing but their own turns takes time.  What happens in one turn
happens in the order in which it was brought about in the turn before, so a moment is a turn
and a *rank* in it: the jobs that a call starts are ranked in the order of the list behind
the rank of the call.  Two jobs never share a rank, and of two events it is always known
which one comes first.

A call that waits for jobs starts them one turn later than itself, and is told `handover`
turns after the end of the last one how they ended, in the place of that one.  Hence a
failure inside a nested call comes after a failure in the same turn outside.
-/

namespace SwapRouter

/-! ## Moments -/

/-- A place in the order of events: the turn, and the rank of the event in it. -/
structure Moment where
  turn : Nat := 0
  rank : List Nat := []
  deriving DecidableEq, Repr

namespace Moment

/-- Whether one moment comes before another one. -/
def before (a b : Moment) : Bool :=
  decide (a.turn < b.turn) || (decide (a.turn = b.turn) && decide (a.rank < b.rank))

theorem before_eq_true_iff {a b : Moment} :
    a.before b = true ↔ a.turn < b.turn ∨ a.turn = b.turn ∧ a.rank < b.rank := by
  simp [before]

/-- If one moment is not before another one, and that one not before a third one, then it is not
before the third one either. -/
theorem before_eq_false_trans {a b c : Moment} (hab : a.before b = false)
    (hbc : b.before c = false) : a.before c = false := by
  rw [← Bool.not_eq_true, before_eq_true_iff, not_or, not_and, Nat.not_lt, List.not_lt]
    at hab hbc ⊢
  refine ⟨Nat.le_trans hbc.1 hab.1, fun hturn => ?_⟩
  have hba : a.turn = b.turn := Nat.le_antisymm (hturn ▸ hbc.1) hab.1
  exact List.le_trans (hbc.2 (hba ▸ hturn)) (hab.2 hba)

theorem before_self (a : Moment) : a.before a = false := by
  rw [← Bool.not_eq_true, before_eq_true_iff]
  rintro (h | h)
  · exact Nat.lt_irrefl _ h
  · exact List.lt_irrefl _ h.2

/-- One of two moments is not before the other one. -/
theorem before_eq_false_of_before {a b : Moment} (h : a.before b = true) : b.before a = false := by
  rw [← Bool.not_eq_true]
  intro hba
  rw [before_eq_true_iff] at h hba
  rcases h with h | ⟨hturn, hrank⟩
  · omega
  · rcases hba with hba | ⟨-, hrank'⟩
    · omega
    · exact List.lt_asymm hrank hrank'

/-- Some turns later, in the same place. -/
def later (m : Moment) (turns : Nat) : Moment := ⟨m.turn + turns, m.rank⟩

/-- Where a call starts one of its jobs. -/
def ofJob (m : Moment) (position : Nat) : Moment := ⟨m.turn + 1, m.rank ++ [position]⟩

/-- The last one of several moments. -/
def latest (first : Moment) (others : List Moment) : Moment :=
  others.foldl (fun a b => if a.before b then b else a) first

end Moment

/-- The end of a job: its moment, and the questions asked until then. -/
structure Ending (Q : Type) where
  moment : Moment
  asked : List Q := []
  deriving DecidableEq, Repr

/-- What becomes of a job. -/
structure Course (Q α : Type) where
  /-- What the job comes to if it is left alone. -/
  outcome : Except Failure α
  /-- How it ends if it is left alone. -/
  ending : Ending Q
  /-- How it ends after a signal that comes before its end. -/
  stopped : Moment → Ending Q

namespace Course

variable {Q α β : Type}

/-- How a job ends if a signal is sent, be it in time or not. -/
def endingUnder (t : Course Q α) (signal : Moment) : Ending Q :=
  if signal.before t.ending.moment then t.stopped signal else t.ending

/-- A signal that comes too late changes nothing. -/
theorem endingUnder_of_late {t : Course Q α} {signal : Moment}
    (h : signal.before t.ending.moment = false) : t.endingUnder signal = t.ending := by
  simp [endingUnder, h]

/-! ## Single jobs -/

/-- A job that comes to an outcome where it starts. -/
def immediate (start : Moment) (outcome : Except Failure α) : Course Q α :=
  ⟨outcome, ⟨start, []⟩, fun _ => ⟨start, []⟩⟩

/-- A job that asks a question. -/
def ask (start : Moment) (q : Q) : Course Q Unit := ⟨.ok (), ⟨start, [q]⟩, fun _ => ⟨start, []⟩⟩

/-- A job that comes to an outcome after some turns in which it does nothing.  When it is
stopped, it ends with its next turn. -/
def idle (start : Moment) (turns : Nat) (outcome : Except Failure α) : Course Q α where
  outcome := outcome
  ending := ⟨start.later turns, []⟩
  stopped signal :=
    let next := if signal.rank < start.rank then signal.turn else signal.turn + 1
    ⟨⟨max start.turn next, start.rank⟩, []⟩

/-- The same job with another outcome. -/
def withOutcome (t : Course Q α) (outcome : Except Failure β) : Course Q β :=
  ⟨outcome, t.ending, t.stopped⟩

/-- A job, and another one that starts where it ends. -/
def followedBy (t : Course Q α) (u : Course Q β) : Course Q β where
  outcome := u.outcome
  ending := ⟨u.ending.moment, t.ending.asked ++ u.ending.asked⟩
  stopped signal :=
    if signal.before t.ending.moment then t.stopped signal
    else
      let e := u.endingUnder signal
      ⟨e.moment, t.ending.asked ++ e.asked⟩

/-! ## Jobs side by side -/

/-- The failure of a job among others, and when it happens. -/
structure FirstFailure where
  moment : Moment
  failure : Failure

/-- The failure that happens first, if a job fails. -/
def firstFailure : List (Course Q α) → Option FirstFailure
  | [] => none
  | t :: ts =>
    match t.outcome, firstFailure ts with
    | .ok _, other => other
    | .error f, none => some ⟨t.ending.moment, f⟩
    | .error f, some other =>
      some (if other.moment.before t.ending.moment then other else ⟨t.ending.moment, f⟩)

/-- When a failure stops the other jobs. -/
def FirstFailure.signal (f : FirstFailure) : Moment := f.moment.later 1

/-- The values of the jobs that have one. -/
def values (ts : List (Course Q α)) : List α := ts.filterMap fun t => t.outcome.toOption

/-- How much later than its jobs a call ends that waits for them. -/
def handover : Nat := 2

/-- The end of a call whose jobs end like this; without a job there is nothing to wait for. -/
def joined (start : Moment) : List (Ending Q) → Ending Q
  | [] => ⟨start, []⟩
  | e :: es => ⟨(Moment.latest e.moment (es.map Ending.moment)).later handover,
      (e :: es).flatMap Ending.asked⟩

/-- How long a job keeps others waiting that a failure stops: not at all if it ends by
itself. -/
def waitFor (f : FirstFailure) (t : Course Q α) : Moment :=
  if f.signal.before t.ending.moment then (t.stopped f.signal).moment else f.moment

/-- The end of a call whose jobs are stopped by the failure of one of them. -/
def halted (f : FirstFailure) (ts : List (Course Q α)) : Ending Q :=
  ⟨(Moment.latest f.moment (ts.map (waitFor f))).later handover,
    (ts.map (endingUnder · f.signal)).flatMap Ending.asked⟩

/-- The end of a call that is stopped while its jobs run.  It passes the signal on one turn
later; where all jobs have just ended, it goes by the signal instead. -/
def interrupted (start : Moment) (ts : List (Course Q α)) (signal : Moment) : Ending Q :=
  let endings := ts.map (endingUnder · (signal.later 1))
  let last := (joined start endings).moment
  if signal.before start then ⟨start, []⟩
  else if signal.turn + handover = last.turn ∧ signal.before ⟨signal.turn, last.rank⟩ = false then
    { joined start endings with moment := signal.later 1 }
  else joined start endings

/-- Jobs that run side by side: they come to the first failure, or to all values in the
order of the list. -/
def all (start : Moment) (ts : List (Course Q α)) : Course Q (List α) :=
  match firstFailure ts with
  | none => ⟨.ok (values ts), joined start (ts.map ending), interrupted start ts⟩
  | some f => ⟨.error f.failure, halted f ts, fun signal =>
      if signal.before f.moment then interrupted start ts signal else halted f ts⟩

/-- No job fails exactly when there is no first failure. -/
theorem firstFailure_eq_none_iff {ts : List (Course Q α)} :
    firstFailure ts = none ↔ ∀ t ∈ ts, ∃ v, t.outcome = .ok v := by
  induction ts with
  | nil => simp [firstFailure]
  | cons t ts ih =>
    rcases ht : t.outcome with f | v
    · cases h : firstFailure ts <;> simp [firstFailure, ht, h]
    · simp [firstFailure, ht, ih]

/-- The first failure is the outcome of a job, at its end. -/
theorem exists_of_firstFailure {ts : List (Course Q α)} {f : FirstFailure}
    (h : firstFailure ts = some f) :
    ∃ t ∈ ts, t.outcome = .error f.failure ∧ t.ending.moment = f.moment := by
  induction ts generalizing f with
  | nil => simp [firstFailure] at h
  | cons t ts ih =>
    have inTail (g : FirstFailure) (hg : firstFailure ts = some g) :
        ∃ u ∈ t :: ts, u.outcome = .error g.failure ∧ u.ending.moment = g.moment := by
      obtain ⟨u, hu, same⟩ := ih hg
      exact ⟨u, List.mem_cons_of_mem t hu, same⟩
    rcases ht : t.outcome with e | v
    · rcases hr : firstFailure ts with _ | g
      · simp only [firstFailure, ht, hr, Option.some.injEq] at h
        exact ⟨t, List.mem_cons_self, by rw [ht, ← h], by rw [← h]⟩
      · simp only [firstFailure, ht, hr, Option.some.injEq] at h
        split at h
        · rw [← h]
          exact inTail g hr
        · exact ⟨t, List.mem_cons_self, by rw [ht, ← h], by rw [← h]⟩
    · simp only [firstFailure, ht] at h
      exact inTail f h

/-- **No job fails before the first failure.** -/
theorem before_of_firstFailure {ts : List (Course Q α)} {f : FirstFailure}
    (h : firstFailure ts = some f) {u : Course Q α} (hu : u ∈ ts) {e : Failure}
    (hfailed : u.outcome = .error e) : u.ending.moment.before f.moment = false := by
  induction ts generalizing f with
  | nil => exact absurd hu List.not_mem_nil
  | cons t ts ih =>
    rw [List.mem_cons] at hu
    rcases ht : t.outcome with e' | v
    · rcases hr : firstFailure ts with _ | g
      · -- no job of the rest fails, so it is the first one
        rcases hu with rfl | hu
        · simp only [firstFailure, ht, hr, Option.some.injEq] at h
          rw [← h]
          exact Moment.before_self _
        · obtain ⟨v, hv⟩ := firstFailure_eq_none_iff.1 hr u hu
          rw [hv] at hfailed
          cases hfailed
      · simp only [firstFailure, ht, hr, Option.some.injEq] at h
        have hrest : u ∈ ts → u.ending.moment.before g.moment = false := ih hr
        split at h
        next hbefore =>
          subst h
          rcases hu with rfl | hu
          · exact Moment.before_eq_false_of_before hbefore
          · exact hrest hu
        next hbefore =>
          subst h
          rcases hu with rfl | hu
          · exact Moment.before_self _
          · exact Moment.before_eq_false_trans (hrest hu) (Bool.not_eq_true _ ▸ hbefore)
    · simp only [firstFailure, ht] at h
      rcases hu with rfl | hu
      · rw [ht] at hfailed
        cases hfailed
      · exact ih h hu

/-- The outcomes of jobs without a failure are their values. -/
theorem map_outcome_eq {ts : List (Course Q α)} (h : ∀ t ∈ ts, ∃ v, t.outcome = .ok v) :
    ts.map outcome = (values ts).map .ok := by
  induction ts with
  | nil => rfl
  | cons t ts ih =>
    obtain ⟨v, hv⟩ := h t List.mem_cons_self
    have rest := ih fun u hu => h u (List.mem_cons_of_mem t hu)
    simp only [values] at rest
    simp [values, hv, Except.toOption, rest]

variable {start : Moment}

/-- Jobs succeed exactly when each of them does, with their values in the order of the
list. -/
theorem all_outcome_eq_ok_iff {ts : List (Course Q α)} {vs : List α} :
    (all start ts).outcome = .ok vs ↔ ts.map outcome = vs.map .ok := by
  constructor
  · intro h
    cases hf : firstFailure ts with
    | some found => simp [all, hf] at h
    | none =>
      simp only [all, hf, Except.ok.injEq] at h
      rw [← h]
      exact map_outcome_eq (firstFailure_eq_none_iff.1 hf)
  · intro h
    have successful : ∀ t ∈ ts, ∃ v, t.outcome = .ok v := fun t ht => by
      have member : t.outcome ∈ vs.map Except.ok := h ▸ List.mem_map_of_mem ht
      obtain ⟨v, _, hv⟩ := List.mem_map.1 member
      exact ⟨v, hv.symm⟩
    have hv := map_outcome_eq successful
    rw [h, List.map_inj_right fun _ _ => Except.ok.inj] at hv
    simp only [all, firstFailure_eq_none_iff.2 successful, hv]

/-- Jobs fail with their first failure. -/
theorem all_outcome_eq_error_iff {ts : List (Course Q α)} {e : Failure} :
    (all start ts).outcome = .error e ↔ ∃ f, firstFailure ts = some f ∧ f.failure = e := by
  cases hf : firstFailure ts with
  | none => simp [all, hf]
  | some f => simp [all, hf]

/-- Jobs that succeed ask what each of them asks. -/
theorem asked_all_of_ok {ts : List (Course Q α)} {vs : List α}
    (h : (all start ts).outcome = .ok vs) :
    (all start ts).ending.asked = ts.flatMap fun t => t.ending.asked := by
  cases hf : firstFailure ts with
  | some found => simp [all, hf] at h
  | none =>
    simp only [all, hf]
    cases ts with
    | nil => rfl
    | cons t ts => simp [joined, List.flatMap_map]

end Course

end SwapRouter
