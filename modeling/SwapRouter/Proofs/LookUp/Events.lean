import SwapRouter.Proofs.LookUp.Shape
import SwapRouter.Proofs.Reason.Basic

/-!
# What is put down while approvals are looked up

A computation that looks approvals up puts two things down: the questions it asks, and when the shared
look-ups begin.  This file follows both through a run that a signal may stop.

Three things are needed of a run, and each of them goes through the shape of the computation
(`Encode.LooksUp`).  It does not end before it starts, so that a signal which stops what stands in front
stops the rest as well.  A look-up begins at a moment of its own, because jobs side by side have ranks of
their own.  And where approvals are kept, an approval is asked for only where a look-up begins.

* `Encode.askedIf`: what a computation puts down under a signal that may come or not.
* `Encode.LooksUp.ends`: a run does not end before it starts.
* `Encode.LooksUp.isApproval_of_mem`: **what is asked.**
* `Encode.LooksUp.placed`, `Encode.LooksUp.asksWhereBegun`: **where look-ups begin, and what they
  ask.**
-/

namespace SwapRouter

/-! ## Events -/

namespace Event

/-- The look-up that an event begins, and when. -/
def beginning? : Event → Option (ApprovalKey × Moment)
  | .asked _ => none
  | .lookUp key moment _ => some (key, moment)

/-- The question of an event. -/
def question? : Event → Option Question
  | .asked q => some q
  | .lookUp _ _ _ => none

/-- The look-ups that begin. -/
def beginnings (events : List Event) : List (ApprovalKey × Moment) := events.filterMap beginning?

/-- The questions that are asked. -/
def questions (events : List Event) : List Question := events.filterMap question?

variable {events events' : List Event}

@[simp] theorem beginnings_append :
    beginnings (events ++ events') = beginnings events ++ beginnings events' :=
  List.filterMap_append

@[simp] theorem beginnings_asked (qs : List Question) : beginnings (qs.map .asked) = [] := by
  rw [beginnings, List.filterMap_map, List.filterMap_eq_nil_iff]
  exact fun q _ => rfl

theorem beginnings_lookUp (key : ApprovalKey) (moment : Moment) (outcome : Except Failure Bool)
    (qs : List Question) :
    beginnings (.lookUp key moment outcome :: qs.map .asked) = [(key, moment)] :=
  congrArg (List.cons (key, moment)) (beginnings_asked qs)

@[simp] theorem questions_append :
    questions (events ++ events') = questions events ++ questions events' :=
  List.filterMap_append

@[simp] theorem questions_asked (qs : List Question) : questions (qs.map .asked) = qs := by
  rw [questions, List.filterMap_map]
  exact List.filterMap_some

theorem questions_lookUp (key : ApprovalKey) (moment : Moment) (outcome : Except Failure Bool)
    (qs : List Question) : questions (.lookUp key moment outcome :: qs.map .asked) = qs :=
  questions_asked qs

theorem mem_questions_iff {q : Question} : q ∈ questions events ↔ .asked q ∈ events := by
  rw [questions, List.mem_filterMap]
  constructor
  · rintro ⟨event, hmem, hq⟩
    cases event with
    | asked q' =>
      obtain rfl := Option.some.inj hq
      exact hmem
    | lookUp _ _ _ => cases hq
  · exact fun h => ⟨_, h, rfl⟩

end Event

open Event

namespace Encode

variable {P : Question → Prop} {approvals : Option ApprovalSource} {α β : Type} {x : Encode α}
  {f : α → Encode β} {keys : List ApprovalKey} {c : Circumstances} {signal : Option Moment}

/-- What a computation puts down under a signal that may come or not. -/
def askedIf (x : Encode α) (c : Circumstances) (signal : Option Moment) : List Event :=
  ((x.course c).endingIf signal).asked

/-! ## Computations one after the other -/

theorem IsInstant.askedIf {outcome : Except Failure α} {asked : List Question}
    (hx : x.IsInstant outcome asked) (c : Circumstances) (signal : Option Moment) :
    x.askedIf c signal = if ∃ s ∈ signal, s.before c.now = true then [] else asked.map .asked := by
  rw [Encode.askedIf, hx.endingIf]
  split <;> rfl

/-- What is done at once stands in front: a signal that comes before the start stops all of it. -/
theorem askedIf_bind_of_instant {a : α} {asked : List Question} (hx : x.IsInstant (.ok a) asked)
    (hends : ((f a).course c).ending.moment.before c.now = false) :
    (x >>= f).askedIf c signal =
      if ∃ s ∈ signal, s.before c.now = true then []
      else asked.map .asked ++ (f a).askedIf c signal := by
  have hmoment : (x.course c).ending.moment = c.now := by rw [hx.ending]
  rw [askedIf, bind_of_ok (hx.outcome c), hx.movedTo, Course.endingIf_followedBy (hmoment ▸ hends),
    hmoment]
  split
  next h =>
    have hinstant := hx.askedIf c signal
    rwa [if_pos h] at hinstant
  next => rw [hx.ending]; rfl

theorem moment_bind_of_instant {a : α} {asked : List Question} (hx : x.IsInstant (.ok a) asked) :
    ((x >>= f).course c).ending.moment = ((f a).course c).ending.moment := by
  rw [bind_of_ok (hx.outcome c), hx.movedTo]
  rfl

/-- What is done at once stands behind: the whole ends with what stands in front. -/
theorem moment_bind (hf : ∀ a, (f a).AsksAtOnce P) :
    ((x >>= f).course c).ending.moment = (x.course c).ending.moment := by
  cases hx : (x.course c).outcome with
  | error e =>
    rw [bind_of_error hx]
    rfl
  | ok a =>
    obtain ⟨outcome, asked, hfa, -⟩ := hf a
    rw [bind_of_ok hx, Course.followedBy, hfa.ending]
    rfl

theorem exists_askedIf_bind (hf : ∀ a, (f a).AsksAtOnce P) (c : Circumstances)
    (signal : Option Moment) :
    ∃ later : List Question, (∀ q ∈ later, P q) ∧
      (x >>= f).askedIf c signal = x.askedIf c signal ++ later.map .asked := by
  have hsilent {events : List Event} (h : events = x.askedIf c signal) :
      ∃ later : List Question, (∀ q ∈ later, P q) ∧
        events = x.askedIf c signal ++ later.map .asked :=
    ⟨[], fun q hq => absurd hq List.not_mem_nil, by rw [h, List.map_nil, List.append_nil]⟩
  cases hx : (x.course c).outcome with
  | error e =>
    refine hsilent ?_
    rw [askedIf, bind_of_error hx]
    rfl
  | ok a =>
    obtain ⟨outcome, asked, hfa, hasked⟩ := hf a
    have hends : ((f a).course (c.movedTo (x.course c).ending.moment)).ending.moment.before
        (x.course c).ending.moment = false := by
      rw [hfa.ending]
      exact Moment.before_self _
    by_cases hsignal : ∃ s ∈ signal, s.before (x.course c).ending.moment = true
    · refine hsilent ?_
      rw [askedIf, bind_of_ok hx, Course.endingIf_followedBy hends, if_pos hsignal]
      rfl
    · refine ⟨asked, hasked, ?_⟩
      have hlate : (x.course c).endingIf signal = (x.course c).ending := by
        refine Course.endingIf_of_late fun s hs => ?_
        exact Bool.eq_false_iff.2 fun hbefore => hsignal ⟨s, hs, hbefore⟩
      have hnow : (c.movedTo (x.course c).ending.moment).now = (x.course c).ending.moment := rfl
      rw [askedIf, bind_of_ok hx, Course.endingIf_followedBy hends, if_neg hsignal, askedIf, hlate,
        hfa.endingIf, hnow, if_neg hsignal]

/-! ## Look-ups -/

section Needed

variable {source : ApprovalSource} {token owner spender : Address} {key : ApprovalKey}

/-- Where approvals are kept, and it is known when look-ups begin. -/
def keeping (begun : List (ApprovalKey × Moment)) (now : Moment) : Circumstances :=
  ⟨some [], begun, now⟩

@[simp] theorem now_keeping (begun : List (ApprovalKey × Moment)) (now : Moment) :
    (keeping begun now).now = now := rfl

/-- What the look-up of a key becomes where approvals are kept. -/
def sharedLookUp (source : ApprovalSource) (key : ApprovalKey) : Encode Bool :=
  once key (source.lookUp key.token key.owner key.spender)

theorem course_isNeeded_of_kept (source : ApprovalSource)
    (h : ApprovalKey.ofAddresses token owner spender = .ok key) (hkept : c.known.isSome = true) :
    (source.isNeeded token owner spender).course c =
      (Pure.pure key >>= sharedLookUp source : Encode Bool).course c := by
  have hrequire : (require (ApprovalKey.ofAddresses token owner spender)) = Pure.pure key := by
    rw [h]
    rfl
  rw [ApprovalSource.isNeeded, hrequire]
  exact if_pos hkept

theorem course_isNeeded_of_not_kept (hkept : c.known = none) :
    (source.isNeeded token owner spender).course c = (source.lookUp token owner spender).course c := by
  have hnone : c.known.isSome = false := by rw [hkept]; rfl
  exact if_neg (Bool.eq_false_iff.1 hnone)

theorem course_once_of_known {y : Encode Bool} {outcome : Except Failure Bool}
    (hknown : c.known.bind (·.lookup key) = some outcome) :
    (once key y).course c = .immediate c.now outcome := by
  rw [once]
  dsimp only
  rw [hknown]

theorem course_once_of_alone {y : Encode Bool} (hknown : c.known.bind (·.lookup key) = none)
    (hbegun : c.begun.lookup key = none ∨ c.begun.lookup key = some c.now) :
    (once key y).course c = .beginLookUp c.now key (y.course c) := by
  rw [once]
  dsimp only
  rw [hknown]
  rcases hbegun with hnone | hnow
  · rw [hnone]
  · rw [hnow]
    exact if_pos rfl

theorem course_once_of_begun {y : Encode Bool} {begun : Moment}
    (hknown : c.known.bind (·.lookup key) = none) (hbegun : c.begun.lookup key = some begun)
    (hne : begun ≠ c.now) :
    (once key y).course c = .joinLookUp c.now begun (y.outcome c) := by
  rw [once]
  dsimp only
  rw [hknown, hbegun]
  exact if_neg hne

/-- A look-up that is shared is known, begins, or is joined. -/
theorem course_sharedLookUp_cases (source : ApprovalSource)
    (h : ApprovalKey.ofAddresses key.token key.owner key.spender = .ok key) (c : Circumstances) :
    (∃ outcome, (sharedLookUp source key).course c = .immediate c.now outcome) ∨
      (∃ t : Course Event Bool, t.ending.asked = (source.questions key).map .asked ∧
        (sharedLookUp source key).course c = .beginLookUp c.now key t) ∨
      ∃ begun, c.begun.lookup key = some begun ∧ begun ≠ c.now ∧
        (sharedLookUp source key).course c = .joinLookUp c.now begun (source.answer key) := by
  have hlookUp := source.isInstant_lookUp h
  have hasked : ((source.lookUp key.token key.owner key.spender).course c).ending.asked =
      (source.questions key).map .asked := by rw [hlookUp.ending]
  cases hknown : c.known.bind (·.lookup key) with
  | some outcome => exact Or.inl ⟨outcome, course_once_of_known hknown⟩
  | none =>
    by_cases halone : c.begun.lookup key = none ∨ c.begun.lookup key = some c.now
    · exact Or.inr (Or.inl ⟨_, hasked, course_once_of_alone hknown halone⟩)
    · obtain ⟨hnone, hnow⟩ := not_or.1 halone
      obtain ⟨begun, hbegun⟩ := Option.ne_none_iff_exists'.1 hnone
      have hne : begun ≠ c.now := fun heq => hnow (heq ▸ hbegun)
      refine Or.inr (Or.inr ⟨begun, hbegun, hne, ?_⟩)
      exact (course_once_of_begun hknown hbegun hne).trans
        (congrArg (Course.joinLookUp c.now begun) (hlookUp.outcome c))

/-- A look-up that begins or is joined ends where it starts, or in a later turn. -/
theorem ends_sharedLookUp
    (h : ApprovalKey.ofAddresses key.token key.owner key.spender = .ok key) :
    ((sharedLookUp source key).course c).ending.moment = c.now ∨
      c.now.turn < ((sharedLookUp source key).course c).ending.moment.turn := by
  rcases course_sharedLookUp_cases source h c with
    ⟨outcome, heq⟩ | ⟨t, -, heq⟩ | ⟨begun, -, -, heq⟩
  · rw [heq]
    exact Or.inl rfl
  · rw [heq]
    refine Or.inr ?_
    have hturn : (Course.beginLookUp c.now key t).ending.moment.turn = c.now.turn + 2 := rfl
    omega
  · rw [heq, Course.joinLookUp]
    split
    · exact Or.inl rfl
    next hbefore =>
      have hturn := Moment.turn_le_of_before_eq_false (Bool.eq_false_iff.2 hbefore)
      have hlater : (begun.later 1).turn = begun.turn + 1 := rfl
      have htold : (begun.told c.now).turn = begun.turn + 2 := rfl
      refine Or.inr ?_
      dsimp only
      omega

theorem asked_endingIf_beginLookUp (now : Moment) (key : ApprovalKey) (t : Course Event Bool) :
    ((Course.beginLookUp now key t).endingIf signal).asked =
      if ∀ s ∈ signal, s.before (now.later 1) = false then
        .lookUp key now t.outcome :: t.ending.asked
      else [] := by
  have htold : (Course.beginLookUp now key t).ending.moment.turn = now.turn + 2 := rfl
  have hlater : (now.later 1).turn = now.turn + 1 := rfl
  by_cases hlate : ∀ s ∈ signal, s.before (Course.beginLookUp now key t).ending.moment = false
  · have hask : ∀ s ∈ signal, s.before (now.later 1) = false := by
      intro s hs
      have hturn := Moment.turn_le_of_before_eq_false (hlate s hs)
      exact Moment.before_eq_false_of_eq_or_turn_lt (Or.inr (by omega))
    rw [Course.endingIf_of_late hlate, if_pos hask]
    rfl
  · push Not at hlate
    obtain ⟨s, rfl, hbefore⟩ := hlate
    rw [ne_eq, Bool.not_eq_false] at hbefore
    have hstopped : ((Course.beginLookUp now key t).stopped s).asked =
        if s.before (now.later 1) then [] else .lookUp key now t.outcome :: t.ending.asked := rfl
    rw [Course.endingIf_of_before hbefore, hstopped]
    cases hs : s.before (now.later 1) with
    | true =>
      rw [if_pos rfl, if_neg fun hall => ?_]
      rw [hall s rfl] at hs
      cases hs
    | false =>
      rw [if_neg Bool.false_ne_true, if_pos fun s' hs' => ?_]
      rwa [← Option.some.inj hs']

theorem asked_endingIf_joinLookUp (now begun : Moment) (outcome : Except Failure Bool) :
    ((Course.joinLookUp now begun outcome).endingIf signal).asked = [] := by
  rw [Course.joinLookUp]
  cases signal with
  | none => split <;> rfl
  | some s =>
    rw [Course.endingIf, Option.elim_some, Course.endingUnder]
    split
    · split <;> rfl
    · split <;> rfl

/-- **Where a shared look-up begins**: at its start, unless it has begun elsewhere, or a signal comes
before it asks. -/
theorem askedIf_sharedLookUp {begun : List (ApprovalKey × Moment)} {now : Moment}
    (h : ApprovalKey.ofAddresses key.token key.owner key.spender = .ok key) :
    (sharedLookUp source key).askedIf (keeping begun now) signal =
      if (begun.lookup key = none ∨ begun.lookup key = some now) ∧
          ∀ s ∈ signal, s.before (now.later 1) = false then
        .lookUp key now (source.answer key) :: (source.questions key).map .asked
      else [] := by
  have hlookUp := source.isInstant_lookUp h
  have hknown : (keeping begun now).known.bind (·.lookup key) = none := rfl
  by_cases halone : begun.lookup key = none ∨ begun.lookup key = some now
  · have hasked := congrArg Ending.asked (hlookUp.ending (keeping begun now))
    rw [askedIf, sharedLookUp, course_once_of_alone hknown halone, asked_endingIf_beginLookUp,
      hlookUp.outcome, hasked]
    exact if_congr (and_iff_right halone).symm rfl rfl
  · obtain ⟨hnone, hnow⟩ := not_or.1 halone
    obtain ⟨moment, hbegun⟩ := Option.ne_none_iff_exists'.1 hnone
    have hne : moment ≠ now := fun heq => hnow (heq ▸ hbegun)
    rw [if_neg fun hboth => halone hboth.1, askedIf, sharedLookUp,
      course_once_of_begun hknown hbegun hne, asked_endingIf_joinLookUp]

/-- Where approvals are kept, an approval that is needed is a shared look-up. -/
theorem askedIf_isNeeded {begun : List (ApprovalKey × Moment)} {now : Moment}
    (h : ApprovalKey.ofAddresses token owner spender = .ok key) :
    (source.isNeeded token owner spender).askedIf (keeping begun now) signal =
      if (begun.lookup key = none ∨ begun.lookup key = some now) ∧
          ∀ s ∈ signal, s.before (now.later 1) = false then
        .lookUp key now (source.answer key) :: (source.questions key).map .asked
      else [] := by
  have hkey := ApprovalKey.ofAddresses_self h
  have hbind : (Pure.pure key >>= sharedLookUp source).askedIf (keeping begun now) signal =
      if ∃ s ∈ signal, s.before now = true then []
      else [] ++ (sharedLookUp source key).askedIf (keeping begun now) signal :=
    askedIf_bind_of_instant (isInstant_pure key)
      (Moment.before_eq_false_of_eq_or_turn_lt (ends_sharedLookUp hkey))
  rw [askedIf, course_isNeeded_of_kept source h rfl, ← askedIf, hbind, askedIf_sharedLookUp hkey]
  by_cases hearly : ∃ s ∈ signal, s.before now = true
  · -- a signal that comes before the start comes before the question
    obtain ⟨s, rfl, hs⟩ := hearly
    have hearlier : s.before (now.later 1) = true := by
      refine Moment.before_of_turn_lt ?_
      have hturn := Moment.turn_le_of_before hs
      have hlater : (now.later 1).turn = now.turn + 1 := rfl
      omega
    rw [if_pos ⟨s, rfl, hs⟩, if_neg fun hboth => ?_]
    rw [hboth.2 s rfl] at hearlier
    cases hearlier
  · rw [if_neg hearly, List.nil_append]

/-- A shared look-up asks what the look-up of its key asks, if it asks. -/
theorem mem_questions_of_mem_askedIf_sharedLookUp {q : Question}
    (h : ApprovalKey.ofAddresses key.token key.owner key.spender = .ok key)
    (hq : .asked q ∈ (sharedLookUp source key).askedIf c signal) : q ∈ source.questions key := by
  rw [askedIf] at hq
  rcases course_sharedLookUp_cases source h c with
    ⟨outcome, heq⟩ | ⟨t, hasked, heq⟩ | ⟨begun, -, -, heq⟩
  · rw [heq, Course.asked_endingIf_immediate] at hq
    exact absurd hq List.not_mem_nil
  · rw [heq, asked_endingIf_beginLookUp] at hq
    split at hq
    · rw [List.mem_cons, hasked, List.mem_map] at hq
      rcases hq with hq | ⟨q', hq', heq'⟩
      · cases hq
      · rwa [← Event.asked.inj heq']
    · exact absurd hq List.not_mem_nil
  · rw [heq, asked_endingIf_joinLookUp] at hq
    exact absurd hq List.not_mem_nil

/-- **An approval that is needed is asked for as an approval**, whether approvals are kept or not. -/
theorem mem_questions_of_mem_askedIf_isNeeded {q : Question}
    (h : ApprovalKey.ofAddresses token owner spender = .ok key)
    (hq : .asked q ∈ (source.isNeeded token owner spender).askedIf c signal) :
    q ∈ source.questions key := by
  cases hkept : c.known with
  | none =>
    have hlookUp := (source.isInstant_lookUp h).askedIf c signal
    rw [askedIf, course_isNeeded_of_not_kept hkept, ← askedIf, hlookUp] at hq
    split at hq
    · exact absurd hq List.not_mem_nil
    · obtain ⟨q', hq', heq⟩ := List.mem_map.1 hq
      rwa [← Event.asked.inj heq]
  | some known =>
    have hkey := ApprovalKey.ofAddresses_self h
    have hbind : (Pure.pure key >>= sharedLookUp source).askedIf c signal =
        if ∃ s ∈ signal, s.before c.now = true then []
        else [] ++ (sharedLookUp source key).askedIf c signal :=
      askedIf_bind_of_instant (isInstant_pure key)
        (Moment.before_eq_false_of_eq_or_turn_lt (ends_sharedLookUp hkey))
    rw [askedIf, course_isNeeded_of_kept source h (by rw [hkept]; rfl), ← askedIf, hbind] at hq
    split at hq
    · exact absurd hq List.not_mem_nil
    · exact mem_questions_of_mem_askedIf_sharedLookUp hkey hq

end Needed

/-! ## Jobs side by side -/

/-- What the jobs put down that are started here, from a position of the list on, under the signal
that reaches them. -/
def askedByJobs (c : Circumstances) (passed : Option Moment) (position : ℕ) (jobs : List (Encode α)) :
    List Event :=
  (courses c position jobs).flatMap fun t => (t.endingIf passed).asked

@[simp] theorem askedByJobs_cons (c : Circumstances) (passed : Option Moment) (position : ℕ)
    (job : Encode α) (jobs : List (Encode α)) :
    askedByJobs c passed position (job :: jobs) =
      job.askedIf (c.ofJob position) passed ++ askedByJobs c passed (position + 1) jobs := rfl

/-- Computations side by side put down what the signal lets each of them put down. -/
theorem askedIf_sideBySide (jobs : List (Encode α)) (c : Circumstances) (signal : Option Moment) :
    (∃ s ∈ signal, s.before c.now = true ∧ (sideBySide jobs).askedIf c signal = []) ∨
      ∃ passed, Course.Reaches c.now (courses c 0 jobs) signal passed ∧
        (sideBySide jobs).askedIf c signal = askedByJobs c passed 0 jobs :=
  Course.asked_endingIf_all c.now (courses c 0 jobs) signal

theorem mem_askedByJobs {passed : Option Moment} {position : ℕ} {jobs : List (Encode α)}
    {event : Event} (h : event ∈ askedByJobs c passed position jobs) :
    ∃ job ∈ jobs, ∃ i, event ∈ job.askedIf (c.ofJob i) passed := by
  obtain ⟨t, ht, hevent⟩ := List.mem_flatMap.1 h
  obtain ⟨job, hjob, i, rfl⟩ := mem_courses ht
  exact ⟨job, hjob, i, hevent⟩

section Kinds

variable {γ : Type} {l : List γ} {job : γ → Encode α} {kind : Question → Bool}
  {questionsOf : γ → List Question}

theorem filter_questions_askedByJobs
    (h : ∀ entry ∈ l, ∀ i, (questions ((job entry).askedIf (c.ofJob i) none)).filter kind =
      questionsOf entry) (position : ℕ) :
    (questions (askedByJobs c none position (l.map job))).filter kind = l.flatMap questionsOf := by
  induction l generalizing position with
  | nil => rfl
  | cons entry l ih =>
    rw [List.forall_mem_cons] at h
    rw [List.map_cons, askedByJobs_cons, questions_append, List.filter_append, List.flatMap_cons,
      h.1 position, ih h.2 (position + 1)]

/-- **Questions of one kind, side by side.**  Jobs that all succeed have come to their ends, so they ask
one after the other what each of them asks. -/
theorem filter_questions_sideBySide {values : List α}
    (hok : (sideBySide (l.map job)).outcome c = .ok values)
    (h : ∀ entry ∈ l, ∀ i a, (job entry).outcome (c.ofJob i) = .ok a →
      (questions ((job entry).askedIf (c.ofJob i) none)).filter kind = questionsOf entry) :
    (questions ((sideBySide (l.map job)).askedIf c none)).filter kind = l.flatMap questionsOf := by
  have hasked : (sideBySide (l.map job)).askedIf c none = askedByJobs c none 0 (l.map job) :=
    Course.asked_all_of_ok hok
  rw [hasked]
  refine filter_questions_askedByJobs (fun entry hentry i => ?_) 0
  obtain ⟨a, ha⟩ := exists_outcome_eq_ok_of_mem hok (List.mem_map_of_mem hentry)
  exact h entry hentry i a ((outcome_eq_ok_iff_of_known (Circumstances.known_ofJob c i)).2 ha)

end Kinds

/-! ## Runs -/

namespace LooksUp

/-- **A run does not end before it starts.** -/
theorem ends (h : LooksUp P approvals keys x) (c : Circumstances) :
    (x.course c).ending.moment = c.now ∨ c.now.turn < (x.course c).ending.moment.turn := by
  induction h generalizing c with
  | instant hx => exact Or.inl (by rw [hx.ending])
  | lookUp _ hkey =>
    cases hkept : c.known with
    | none =>
      rw [course_isNeeded_of_not_kept hkept, (ApprovalSource.isInstant_lookUp _ hkey).ending]
      exact Or.inl rfl
    | some known =>
      rw [course_isNeeded_of_kept _ hkey (by rw [hkept]; rfl),
        moment_bind_of_instant (isInstant_pure _)]
      exact ends_sharedLookUp (ApprovalKey.ofAddresses_self hkey)
  | after hx _ _ ih =>
    rw [moment_bind_of_instant hx]
    exact ih c
  | before _ hf ih =>
    rw [moment_bind hf]
    exact ih c
  | @sideBySide γ jobs _ ih =>
    cases jobs with
    | nil => exact Or.inl rfl
    | cons job jobs =>
      refine Or.inr ?_
      have hne : courses c 0 ((job :: jobs).map Prod.snd) ≠ [] := List.cons_ne_nil _ _
      obtain ⟨t, ht, hturn⟩ := Course.exists_turn_le_of_all c.now hne
      obtain ⟨job', hjob', i, rfl⟩ := mem_courses ht
      obtain ⟨pair, hpair, rfl⟩ := List.mem_map.1 hjob'
      have hstart : (c.ofJob i).now.turn = c.now.turn + 1 := rfl
      have hjob := ih pair hpair (c.ofJob i)
      have hwhole : ((Encode.sideBySide ((job :: jobs).map Prod.snd)).course c).ending.moment.turn =
          (Course.all c.now (courses c 0 ((job :: jobs).map Prod.snd))).ending.moment.turn := rfl
      rcases hjob with heq | hlt
      · rw [heq] at hturn
        omega
      · omega

/-- **What is asked** is of the kind that is asked besides, or asks for an approval. -/
theorem isApproval_of_mem (h : LooksUp P approvals keys x) {q : Question}
    (hq : .asked q ∈ x.askedIf c signal) : P q ∨ q.isApproval = true := by
  have hlisted {asked : List Question} (hasked : ∀ q ∈ asked, P q)
      (hq : Event.asked q ∈ asked.map Event.asked) : P q := by
    obtain ⟨q', hq', heq⟩ := List.mem_map.1 hq
    exact Event.asked.inj heq ▸ hasked q' hq'
  induction h generalizing c signal with
  | instant hx hasked =>
    rw [hx.askedIf] at hq
    split at hq
    · exact absurd hq List.not_mem_nil
    · exact Or.inl (hlisted hasked hq)
  | lookUp _ hkey =>
    exact Or.inr (ApprovalSource.isApproval_of_mem_questions
      (mem_questions_of_mem_askedIf_isNeeded hkey hq))
  | after hx hasked hfa ih =>
    rw [askedIf_bind_of_instant hx (Moment.before_eq_false_of_eq_or_turn_lt (hfa.ends c))] at hq
    split at hq
    · exact absurd hq List.not_mem_nil
    · rcases List.mem_append.1 hq with hq | hq
      · exact Or.inl (hlisted hasked hq)
      · exact ih hq
  | before _ hf ih =>
    obtain ⟨later, hlater, heq⟩ := exists_askedIf_bind hf c signal
    rw [heq] at hq
    rcases List.mem_append.1 hq with hq | hq
    · exact ih hq
    · exact Or.inl (hlisted hlater hq)
  | @sideBySide γ jobs _ ih =>
    obtain ⟨s, -, -, hnone⟩ | ⟨passed, -, heq⟩ := askedIf_sideBySide (jobs.map Prod.snd) c signal
    · rw [hnone] at hq
      exact absurd hq List.not_mem_nil
    · rw [heq] at hq
      obtain ⟨job, hjob, i, hmem⟩ := mem_askedByJobs hq
      obtain ⟨pair, hpair, rfl⟩ := List.mem_map.1 hjob
      exact ih pair hpair hmem

end LooksUp

/-! ## Where look-ups begin -/

variable {begun : List (ApprovalKey × Moment)} {now : Moment}

/-- Look-ups have moments of their own, all of them behind a rank.  Each of them is among the ones that
may be looked up, and it has not begun elsewhere. -/
structure Placed (begun : List (ApprovalKey × Moment)) (keys : List ApprovalKey) (rank : List ℕ)
    (l : List (ApprovalKey × Moment)) : Prop where
  keys : ∀ b ∈ l, b.1 ∈ keys
  begun : ∀ b ∈ l, begun.lookup b.1 = none ∨ begun.lookup b.1 = some b.2
  rank : ∀ b ∈ l, rank <+: b.2.rank
  nodup : (l.map Prod.snd).Nodup

theorem Placed.nil {rank : List ℕ} : Placed begun keys rank [] :=
  ⟨fun _ h => absurd h List.not_mem_nil, fun _ h => absurd h List.not_mem_nil,
    fun _ h => absurd h List.not_mem_nil, List.nodup_nil⟩

theorem Placed.append {l l' : List (ApprovalKey × Moment)} {keys' : List ApprovalKey} {rank : List ℕ}
    (h : Placed begun keys rank l) (h' : Placed begun keys' rank l')
    (hapart : ∀ b ∈ l, ∀ b' ∈ l', b.2 ≠ b'.2) : Placed begun (keys ++ keys') rank (l ++ l') where
  keys := List.forall_mem_append.2
    ⟨fun b hb => List.mem_append_left _ (h.keys b hb),
      fun b hb => List.mem_append_right _ (h'.keys b hb)⟩
  begun := List.forall_mem_append.2 ⟨h.begun, h'.begun⟩
  rank := List.forall_mem_append.2 ⟨h.rank, h'.rank⟩
  nodup := by
    rw [List.map_append, List.nodup_append]
    refine ⟨h.nodup, h'.nodup, fun m hm m' hm' => ?_⟩
    obtain ⟨b, hb, rfl⟩ := List.mem_map.1 hm
    obtain ⟨b', hb', rfl⟩ := List.mem_map.1 hm'
    exact hapart b hb b' hb'

/-- Moments behind the ranks of different jobs are different. -/
theorem ne_of_prefix {rank : List ℕ} {i j : ℕ} {m m' : Moment} (hij : i ≠ j)
    (hm : rank ++ [i] <+: m.rank) (hm' : rank ++ [j] <+: m'.rank) : m ≠ m' := by
  rintro rfl
  have hlen : (rank ++ [i]).length = (rank ++ [j]).length := by simp
  have hsame := (List.prefix_of_prefix_length_le hm hm' hlen.le).eq_of_length hlen
  exact hij (List.singleton_inj.1 (List.append_cancel_left hsame))

/-- The look-ups of jobs side by side have places of their own, because the jobs have. -/
theorem placed_askedByJobs {jobs : List (List ApprovalKey × Encode α)} {passed : Option Moment}
    (h : ∀ job ∈ jobs, ∀ now signal, Placed begun job.1 now.rank
      (beginnings (job.2.askedIf (keeping begun now) signal))) (position : ℕ) :
    Placed begun (jobs.flatMap Prod.fst) now.rank
        (beginnings (askedByJobs (keeping begun now) passed position (jobs.map Prod.snd))) ∧
      ∀ b ∈ beginnings (askedByJobs (keeping begun now) passed position (jobs.map Prod.snd)),
        ∃ i, position ≤ i ∧ now.rank ++ [i] <+: b.2.rank := by
  induction jobs generalizing position with
  | nil => exact ⟨.nil, fun b hb => absurd hb List.not_mem_nil⟩
  | cons job jobs ih =>
    rw [List.forall_mem_cons] at h
    obtain ⟨hrest, hbehind⟩ := ih h.2 (position + 1)
    have hjob := h.1 (now.ofJob position) passed
    have hfirst : ∀ b ∈ beginnings (job.2.askedIf (keeping begun (now.ofJob position)) passed),
        now.rank ++ [position] <+: b.2.rank := hjob.rank
    have hplaced : Placed begun job.1 now.rank
        (beginnings (job.2.askedIf (keeping begun (now.ofJob position)) passed)) :=
      ⟨hjob.keys, hjob.begun,
        fun b hb => (List.prefix_append _ _).trans (hfirst b hb), hjob.nodup⟩
    rw [List.map_cons, askedByJobs_cons, beginnings_append, List.flatMap_cons]
    constructor
    · refine hplaced.append hrest fun b hb b' hb' => ?_
      obtain ⟨i, hi, hprefix⟩ := hbehind b' hb'
      exact ne_of_prefix (by omega) (hfirst b hb) hprefix
    · refine List.forall_mem_append.2 ⟨fun b hb => ⟨position, le_rfl, hfirst b hb⟩, ?_⟩
      intro b hb
      obtain ⟨i, hi, hprefix⟩ := hbehind b hb
      exact ⟨i, by omega, hprefix⟩

/-- An approval is asked for only where its look-up begins. -/
def AsksWhereBegun (source : ApprovalSource) (events : List Event) : Prop :=
  (questions events).filter Question.isApproval =
    (beginnings events).flatMap fun b => source.questions b.1

theorem AsksWhereBegun.append {source : ApprovalSource} {events events' : List Event}
    (h : AsksWhereBegun source events) (h' : AsksWhereBegun source events') :
    AsksWhereBegun source (events ++ events') := by
  rw [AsksWhereBegun, questions_append, beginnings_append, List.filter_append, List.flatMap_append, h,
    h']

theorem asksWhereBegun_nil (source : ApprovalSource) : AsksWhereBegun source [] := rfl

/-- Other questions do not count. -/
theorem asksWhereBegun_of_beside {source : ApprovalSource} {asked : List Question}
    (h : ∀ q ∈ asked, q.isApproval = false) : AsksWhereBegun source (asked.map .asked) := by
  rw [AsksWhereBegun, questions_asked, beginnings_asked]
  exact List.filter_eq_nil_iff.2 fun q hq => Bool.eq_false_iff.1 (h q hq)

theorem asksWhereBegun_lookUp (source : ApprovalSource) (key : ApprovalKey) (moment : Moment)
    (outcome : Except Failure Bool) :
    AsksWhereBegun source (.lookUp key moment outcome :: (source.questions key).map .asked) := by
  rw [AsksWhereBegun, questions_lookUp, beginnings_lookUp, List.flatMap_singleton]
  exact List.filter_eq_self.2 fun q hq => ApprovalSource.isApproval_of_mem_questions hq

theorem asksWhereBegun_askedByJobs {source : ApprovalSource} {jobs : List (Encode α)}
    {passed : Option Moment}
    (h : ∀ job ∈ jobs, ∀ now signal, AsksWhereBegun source (job.askedIf (keeping begun now) signal))
    (position : ℕ) :
    AsksWhereBegun source (askedByJobs (keeping begun now) passed position jobs) := by
  induction jobs generalizing position with
  | nil => exact asksWhereBegun_nil source
  | cons job jobs ih =>
    rw [List.forall_mem_cons] at h
    exact (h.1 (now.ofJob position) passed).append (ih h.2 (position + 1))

namespace LooksUp

/-- **Where look-ups begin.**  Each of them has a moment of its own, behind the rank of the
computation. -/
theorem placed (h : LooksUp P approvals keys x) (begun : List (ApprovalKey × Moment)) (now : Moment)
    (signal : Option Moment) :
    Placed begun keys now.rank (beginnings (x.askedIf (keeping begun now) signal)) := by
  induction h generalizing now signal with
  | instant hx =>
    rw [hx.askedIf]
    split
    · exact .nil
    · rw [beginnings_asked]
      exact .nil
  | @lookUp source _ _ _ key _ hkey =>
    rw [askedIf_isNeeded hkey]
    split
    next hboth =>
      rw [beginnings_lookUp]
      exact ⟨List.forall_mem_singleton.2 (List.mem_singleton_self key),
        List.forall_mem_singleton.2 hboth.1, List.forall_mem_singleton.2 (List.prefix_refl _),
        List.nodup_singleton _⟩
    next => exact .nil
  | after hx _ hfa ih =>
    rw [askedIf_bind_of_instant hx (Moment.before_eq_false_of_eq_or_turn_lt (hfa.ends _))]
    split
    · exact .nil
    · rw [beginnings_append, beginnings_asked, List.nil_append]
      exact ih now signal
  | before _ hf ih =>
    obtain ⟨later, -, heq⟩ := exists_askedIf_bind hf (keeping begun now) signal
    rw [heq, beginnings_append, beginnings_asked, List.append_nil]
    exact ih now signal
  | @sideBySide γ jobs _ ih =>
    obtain ⟨s, -, -, hnone⟩ | ⟨passed, -, heq⟩ :=
      askedIf_sideBySide (jobs.map Prod.snd) (keeping begun now) signal
    · rw [hnone]
      exact .nil
    · rw [heq]
      exact (placed_askedByJobs (fun job hjob now signal => ih job hjob now signal) 0).1

/-- **What look-ups ask.**  Where approvals are kept, an approval is asked for only where its look-up
begins. -/
theorem asksWhereBegun {source : ApprovalSource}
    (h : LooksUp (fun q => q.isApproval = false) (some source) keys x)
    (begun : List (ApprovalKey × Moment)) (now : Moment) (signal : Option Moment) :
    AsksWhereBegun source (x.askedIf (keeping begun now) signal) := by
  induction h generalizing now signal with
  | instant hx hasked =>
    rw [hx.askedIf]
    split
    · exact asksWhereBegun_nil source
    · exact asksWhereBegun_of_beside hasked
  | lookUp hsource hkey =>
    obtain rfl := Option.some.inj hsource
    rw [askedIf_isNeeded hkey]
    split
    · exact asksWhereBegun_lookUp _ _ _ _
    · exact asksWhereBegun_nil _
  | after hx hasked hfa ih =>
    rw [askedIf_bind_of_instant hx (Moment.before_eq_false_of_eq_or_turn_lt (hfa.ends _))]
    split
    · exact asksWhereBegun_nil source
    · exact (asksWhereBegun_of_beside hasked).append (ih now signal)
  | before _ hf ih =>
    obtain ⟨later, hlater, heq⟩ := exists_askedIf_bind hf (keeping begun now) signal
    rw [heq]
    exact (ih now signal).append (asksWhereBegun_of_beside hlater)
  | @sideBySide _ jobs _ ih =>
    obtain ⟨s, -, -, hnone⟩ | ⟨passed, -, heq⟩ :=
      askedIf_sideBySide (jobs.map Prod.snd) (keeping begun now) signal
    · rw [hnone]
      exact asksWhereBegun_nil source
    · rw [heq]
      refine asksWhereBegun_askedByJobs (fun job hjob now signal => ?_) 0
      obtain ⟨pair, hpair, rfl⟩ := List.mem_map.1 hjob
      exact ih pair hpair now signal

end LooksUp

end Encode

end SwapRouter
