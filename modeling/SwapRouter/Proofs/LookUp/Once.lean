import SwapRouter.Proofs.LookUp.Events

/-!
# Look-ups that begin once

A computation whose parts share their look-ups runs twice: the first time it does not know that
somebody else looks the same approval up, and the second time it knows when each look-up begins.  An
approval that began in the first run begins in the second one at that moment only, so at most once.
This leaves the approvals that did not begin in the first run at all, because a failure stopped the
computation before.  They must not begin in the second run either, where some look-ups are over
earlier than in the first run.

## Why what is stopped at first is stopped again

A job starts one turn later than the call that starts it, and a signal is handed on to it one turn
later, too.  So a signal that comes two turns after the start of a call does not keep any job in it from
asking, however deep it is nested.  A failure behind a look-up is such a signal: nobody is told about a
look-up before its next turn.  What stops a look-up before it asks is therefore a failure that happens
at the start of a job, and such a failure happens in the second run at the same moment.
`Moment.NoEarlier` is what is kept from call to job: the first signal is so late, or not before the
second one.

* `Encode.LooksUp.mem_beginnings_alone`: **what begins in the second run begins in the first one.**
* `Encode.LooksUp.beginnings_of_ok`: what begins in a run that succeeds.
* `Encode.LooksUp.nodup_sharedLookUps`: **no look-up begins twice.**
* `Encode.LooksUp.mem_sharedLookUps_of_ok`: **a run that succeeds looks everything up.**
-/

namespace SwapRouter

open Event

/-! ## Signals -/

/-- One signal keeps nothing from asking that another one lets ask: it does not come, or it comes two
turns after the start, or not before the other one. -/
inductive Moment.NoEarlier (now : Moment) : Option Moment → Option Moment → Prop
  | never {s₂ : Option Moment} : NoEarlier now none s₂
  | late {s₁ : Moment} {s₂ : Option Moment} : now.turn + 2 ≤ s₁.turn → NoEarlier now (some s₁) s₂
  | notBefore {s₁ s₂ : Moment} : now.turn + 1 ≤ s₁.turn → s₁.before s₂ = false →
    NoEarlier now (some s₁) (some s₂)

namespace Moment.NoEarlier

variable {now s : Moment} {s₁ s₂ : Option Moment}

/-- Such a signal does not come before the start. -/
theorem before_now_eq_false (h : NoEarlier now s₁ s₂) (hs : s ∈ s₁) : s.before now = false := by
  have hturn : now.turn < s.turn := by
    cases h with
    | never => exact absurd hs (Option.not_mem_none s)
    | late hlate =>
      obtain rfl := Option.some.inj hs
      omega
    | notBefore hturn =>
      obtain rfl := Option.some.inj hs
      omega
  exact Moment.before_eq_false_of_eq_or_turn_lt (Or.inr hturn)

/-- Such a signal does not keep a look-up at the start from asking. -/
theorem before_later_eq_false (h : NoEarlier now s₁ s₂)
    (hask : ∀ s ∈ s₂, s.before (now.later 1) = false) (hs : s ∈ s₁) :
    s.before (now.later 1) = false := by
  cases h with
  | never => exact absurd hs (Option.not_mem_none s)
  | late hlate =>
    obtain rfl := Option.some.inj hs
    refine Moment.before_eq_false_of_eq_or_turn_lt (Or.inr ?_)
    have hlater : (now.later 1).turn = now.turn + 1 := rfl
    omega
  | notBefore _ hbefore =>
    obtain rfl := Option.some.inj hs
    exact Moment.before_eq_false_trans hbefore (hask _ rfl)

variable {Q α : Type} {ts₁ ts₂ : List (Course Q α)} {p₁ p₂ : Option Moment}

/-- **From a call to its jobs.**  The jobs of two runs are told to stop in the same order as the calls
are, if a job that fails at its start in the first run does so in the second one. -/
theorem ofJob (h : NoEarlier now s₁ s₂) (hne : ts₂ ≠ [])
    (hsame : ∀ t ∈ ts₁, ∀ e, t.outcome = .error e → now.turn + 1 < t.ending.moment.turn ∨
      ∃ t' ∈ ts₂, t'.ending.moment = t.ending.moment ∧ ∃ e', t'.outcome = .error e')
    (hstarts : ∀ t ∈ ts₂, now.turn + 1 ≤ t.ending.moment.turn)
    (h₁ : Course.Reaches now ts₁ s₁ p₁) (h₂ : Course.Reaches now ts₂ s₂ p₂) (i : ℕ) :
    NoEarlier (now.ofJob i) p₁ p₂ := by
  have hjob : (now.ofJob i).turn = now.turn + 1 := rfl
  cases h₁ with
  | alone => exact .never
  | @failed f₁ hf₁ =>
    have hsignal : f₁.signal.turn = f₁.moment.turn + 1 := rfl
    obtain ⟨t, ht, hfailed, hmoment⟩ := Course.exists_of_firstFailure hf₁
    rcases hsame t ht _ hfailed with hlate | ⟨t', ht', hmoment', e', hfailed'⟩
    · exact .late (by rw [hmoment] at hlate; omega)
    · -- the failure at the start of a job happens in the second run, too
      rw [hmoment] at hmoment'
      have hstart := hstarts t' ht'
      rw [hmoment'] at hstart
      have hfirst : ∀ f₂, Course.firstFailure ts₂ = some f₂ →
          f₁.moment.before f₂.moment = false := fun f₂ hf₂ =>
        hmoment' ▸ Course.before_of_firstFailure hf₂ ht' hfailed'
      have hturn : (now.ofJob i).turn + 1 ≤ f₁.signal.turn := by omega
      cases h₂ with
      | alone hnone =>
        obtain ⟨v, hv⟩ := Course.firstFailure_eq_none_iff.1 hnone t' ht'
        rw [hfailed'] at hv
        cases hv
      | @failed f₂ hf₂ =>
        refine .notBefore hturn ?_
        rw [Course.FirstFailure.signal, Course.FirstFailure.signal, Moment.before_later_later]
        exact hfirst f₂ hf₂
      | @stopped s₂ _ _ hstopped =>
        refine .notBefore hturn ?_
        rw [Course.FirstFailure.signal, Moment.before_later_later]
        cases hf₂ : Course.firstFailure ts₂ with
        | none =>
          obtain ⟨v, hv⟩ := Course.firstFailure_eq_none_iff.1 hf₂ t' ht'
          rw [hfailed'] at hv
          cases hv
        | some f₂ =>
          have hearlier := Moment.before_eq_false_of_before (hstopped f₂ hf₂)
          exact Moment.before_eq_false_trans (hfirst f₂ hf₂) hearlier
  | @stopped s hs =>
    subst hs
    have hlater : (s.later 1).turn = s.turn + 1 := rfl
    cases h with
    | late hlate => exact .late (by omega)
    | @notBefore _ s' hturn hbefore =>
      have hturn' : (now.ofJob i).turn + 1 ≤ (s.later 1).turn := by omega
      cases h₂ with
      | alone _ hend =>
        -- the second call has jobs, so it ends later than the first one is stopped
        obtain ⟨t, ts, rfl⟩ := List.exists_cons_of_ne_nil hne
        have hstart := hstarts t List.mem_cons_self
        have hlatest := Moment.turn_le_turn_latest t.ending.moment
          ((ts.map Course.ending).map Ending.moment)
        have hjoined : (Course.joined now ((t :: ts).map Course.ending)).moment.turn =
            (Moment.latest t.ending.moment ((ts.map Course.ending).map Ending.moment)).turn + 2 := rfl
        have hs' := Moment.turn_le_of_before_eq_false (hend s' rfl)
        have hs := Moment.turn_le_of_before_eq_false hbefore
        exact .late (by omega)
      | @failed f₂ _ hend =>
        refine .notBefore hturn' ?_
        rw [Course.FirstFailure.signal, Moment.before_later_later]
        exact Moment.before_eq_false_trans hbefore (hend s' rfl)
      | @stopped s₂ hs₂ =>
        obtain rfl := Option.some.inj hs₂
        refine .notBefore hturn' ?_
        rw [Moment.before_later_later]
        exact hbefore

end Moment.NoEarlier

namespace Encode

variable {P : Question → Prop} {approvals : Option ApprovalSource} {α β : Type} {x : Encode α}
  {keys : List ApprovalKey} {begun : List (ApprovalKey × Moment)} {now : Moment} {key : ApprovalKey}

/-! ## Two runs -/

/-- The courses of jobs, position by position. -/
theorem mem_courses_iff {c : Circumstances} {position : ℕ} {jobs : List (Encode α)}
    {t : Course Event α} :
    t ∈ courses c position jobs ↔
      ∃ (i : ℕ) (job : Encode α), jobs[i]? = some job ∧ t = job.course (c.ofJob (position + i)) := by
  rw [List.mem_iff_getElem?]
  refine exists_congr fun i => ?_
  rw [getElem?_courses, Option.map_eq_some_iff]
  exact exists_congr fun job => and_congr_right fun _ => eq_comm

theorem mem_beginnings_iff {events : List Event} :
    key ∈ (beginnings events).map Prod.fst ↔ ∃ moment outcome, .lookUp key moment outcome ∈ events := by
  rw [List.mem_map]
  constructor
  · rintro ⟨⟨key', moment⟩, hmem, rfl⟩
    obtain ⟨event, hevent, hbegins⟩ := List.mem_filterMap.1 hmem
    cases event with
    | asked q => cases hbegins
    | lookUp key'' moment' outcome =>
      cases hbegins
      exact ⟨moment, outcome, hevent⟩
  · rintro ⟨moment, outcome, hevent⟩
    exact ⟨(key, moment), List.mem_filterMap.2 ⟨_, hevent, rfl⟩, rfl⟩

/-- A look-up begins in a job that is started side by side with others. -/
theorem mem_beginnings_askedByJobs_iff {c : Circumstances} {passed : Option Moment}
    {jobs : List (Encode α)} :
    key ∈ (beginnings (askedByJobs c passed 0 jobs)).map Prod.fst ↔ ∃ (i : ℕ) (job : Encode α), jobs[i]? = some job ∧
      key ∈ (beginnings (job.askedIf (c.ofJob i) passed)).map Prod.fst := by
  simp only [mem_beginnings_iff, askedByJobs, List.mem_flatMap, mem_courses_iff, Nat.zero_add]
  constructor
  · rintro ⟨moment, outcome, t, ⟨i, job, hjob, rfl⟩, hevent⟩
    exact ⟨i, job, hjob, moment, outcome, hevent⟩
  · rintro ⟨i, job, hjob, moment, outcome, hevent⟩
    exact ⟨moment, outcome, _, ⟨i, job, hjob, rfl⟩, hevent⟩

namespace LooksUp

/-- What ends where it starts in the first run does so in the second one. -/
theorem ends_at_start (h : LooksUp P approvals keys x) (now : Moment)
    (hend : (x.course (keeping [] now)).ending.moment = now) :
    (x.course (keeping begun now)).ending.moment = now := by
  induction h generalizing now with
  | instant hx => rw [hx.ending]; rfl
  | @lookUp source _ _ _ key _ hkey =>
    -- in the first run a look-up begins, and is not over in its turn
    rw [course_isNeeded_of_kept source hkey rfl, moment_bind_of_instant (isInstant_pure key)] at hend
    have hturn : ((sharedLookUp source key).course (keeping [] now)).ending.moment.turn =
        now.turn + 2 := rfl
    rw [hend] at hturn
    omega
  | after hx _ _ ih =>
    rw [moment_bind_of_instant hx] at hend ⊢
    exact ih now hend
  | before _ hf ih =>
    rw [moment_bind hf] at hend ⊢
    exact ih now hend
  | @sideBySide γ jobs hjobs ih =>
    cases jobs with
    | nil => rfl
    | cons job jobs =>
      have hne : courses (keeping [] now) 0 ((job :: jobs).map Prod.snd) ≠ [] := List.cons_ne_nil _ _
      obtain ⟨t, ht, hturn⟩ := Course.exists_turn_le_of_all now hne
      obtain ⟨job', hjob', i, rfl⟩ := mem_courses ht
      obtain ⟨pair, hpair, rfl⟩ := List.mem_map.1 hjob'
      have hstart := (hjobs pair hpair).ends ((keeping [] now).ofJob i)
      have hwhole : (Course.all now (courses (keeping [] now) 0
          ((job :: jobs).map Prod.snd))).ending.moment = now := hend
      have hjob : ((keeping [] now).ofJob i).now.turn = now.turn + 1 := rfl
      rw [hwhole] at hturn
      rcases hstart with heq | hlt
      · rw [heq] at hturn
        omega
      · omega

/-- **Two runs.**  A look-up that begins in the second run begins in the first one, too. -/
theorem mem_beginnings_alone (h : LooksUp P approvals keys x) {now : Moment} {s₁ s₂ : Option Moment}
    (hs : now.NoEarlier s₁ s₂) :
    key ∈ (beginnings (x.askedIf (keeping begun now) s₂)).map Prod.fst →
      key ∈ (beginnings (x.askedIf (keeping [] now) s₁)).map Prod.fst := by
  induction h generalizing now s₁ s₂ with
  | instant hx =>
    intro hmem
    rw [hx.askedIf] at hmem
    split at hmem
    · exact absurd hmem List.not_mem_nil
    · rw [beginnings_asked] at hmem
      exact absurd hmem List.not_mem_nil
  | @lookUp source _ _ _ key' _ hkey' =>
    intro hmem
    rw [askedIf_isNeeded hkey'] at hmem ⊢
    split at hmem
    next hboth =>
      rw [if_pos ⟨Or.inl rfl, fun s hs₁ => hs.before_later_eq_false hboth.2 hs₁⟩]
      rwa [beginnings_lookUp] at hmem ⊢
    next => exact absurd hmem List.not_mem_nil
  | after hx _ hfa ih =>
    intro hmem
    rw [askedIf_bind_of_instant hx (Moment.before_eq_false_of_eq_or_turn_lt (hfa.ends _))]
      at hmem ⊢
    split at hmem
    · exact absurd hmem List.not_mem_nil
    · have hstarts : ¬ ∃ s ∈ s₁, s.before now = true := by
        rintro ⟨s, hs₁, hbefore⟩
        rw [hs.before_now_eq_false hs₁] at hbefore
        cases hbefore
      rw [now_keeping, if_neg hstarts]
      rw [beginnings_append, beginnings_asked, List.nil_append] at hmem ⊢
      exact ih hs hmem
  | before _ hf ih =>
    intro hmem
    obtain ⟨later₁, -, heq₁⟩ := exists_askedIf_bind hf (keeping [] now) s₁
    obtain ⟨later₂, -, heq₂⟩ := exists_askedIf_bind hf (keeping begun now) s₂
    rw [heq₂, beginnings_append, beginnings_asked, List.append_nil] at hmem
    rw [heq₁, beginnings_append, beginnings_asked, List.append_nil]
    exact ih hs hmem
  | @sideBySide γ jobs hjobs ih =>
    intro hmem
    obtain ⟨s, -, -, hnone⟩ | ⟨p₂, hp₂, heq₂⟩ :=
      askedIf_sideBySide (jobs.map Prod.snd) (keeping begun now) s₂
    · rw [hnone] at hmem
      exact absurd hmem List.not_mem_nil
    rw [heq₂, mem_beginnings_askedByJobs_iff] at hmem
    obtain ⟨i, job, hjob, hbegins⟩ := hmem
    obtain ⟨s, hs₁, hbefore, -⟩ | ⟨p₁, hp₁, heq₁⟩ :=
      askedIf_sideBySide (jobs.map Prod.snd) (keeping [] now) s₁
    · rw [now_keeping, hs.before_now_eq_false hs₁] at hbefore
      cases hbefore
    rw [heq₁, mem_beginnings_askedByJobs_iff]
    have hpair {j : ℕ} {job : Encode γ} (hjob : (jobs.map Prod.snd)[j]? = some job) :
        ∃ pair ∈ jobs, pair.2 = job := List.mem_map.1 (List.mem_of_getElem? hjob)
    have hpassed : (now.ofJob i).NoEarlier p₁ p₂ := by
      refine hs.ofJob (fun hnil => ?_) (fun t ht e hfailed => ?_) (fun t ht => ?_) hp₁ hp₂ i
      · have hmem : job.course ((keeping begun now).ofJob (0 + i)) ∈
            courses (keeping begun now) 0 (jobs.map Prod.snd) := mem_courses_iff.2 ⟨i, job, hjob, rfl⟩
        rw [hnil] at hmem
        exact absurd hmem List.not_mem_nil
      · obtain ⟨j, job', hjob', rfl⟩ := mem_courses_iff.1 ht
        obtain ⟨pair, hmem, rfl⟩ := hpair hjob'
        rcases (hjobs pair hmem).ends ((keeping [] now).ofJob (0 + j)) with heq | hlt
        · refine Or.inr ⟨_, mem_courses_iff.2 ⟨j, pair.2, hjob', rfl⟩, ?_, ?_⟩
          · rw [heq]
            exact (hjobs pair hmem).ends_at_start (now.ofJob (0 + j)) heq
          · -- a success there would be a success here
            cases hout : (pair.2.course ((keeping begun now).ofJob (0 + j))).outcome with
            | error e' => exact ⟨e', rfl⟩
            | ok a =>
              have hknown : ((keeping begun now).ofJob (0 + j)).known =
                  ((keeping [] now).ofJob (0 + j)).known := rfl
              rw [pair.2.steady hknown hout] at hfailed
              cases hfailed
        · exact Or.inl hlt
      · obtain ⟨j, job', hjob', rfl⟩ := mem_courses_iff.1 ht
        obtain ⟨pair, hmem, rfl⟩ := hpair hjob'
        have hstart : ((keeping begun now).ofJob (0 + j)).now.turn = now.turn + 1 := rfl
        rcases (hjobs pair hmem).ends ((keeping begun now).ofJob (0 + j)) with heq | hlt
        · rw [heq, hstart]
        · omega
    obtain ⟨pair, hmem, rfl⟩ := hpair hjob
    exact ⟨i, pair.2, hjob, ih pair hmem hpassed hbegins⟩

/-! ## Runs that succeed -/

end LooksUp

/-- What a run succeeds with does not depend on when look-ups begin. -/
theorem outcome_keeping_eq_ok_iff {begun' : List (ApprovalKey × Moment)} {now' : Moment} {a : α} :
    x.outcome (keeping begun now) = .ok a ↔ x.outcome (keeping begun' now') = .ok a := by
  have hknown : (keeping begun now).known = (keeping begun' now').known := rfl
  exact outcome_eq_ok_iff_of_known hknown

/-- Whether a look-up begins at this moment, where it is known when look-ups begin. -/
def startsAt (begun : List (ApprovalKey × Moment)) (b : ApprovalKey × Moment) : Bool :=
  begun.lookup b.1 = none || begun.lookup b.1 = some b.2

theorem startsAt_iff {b : ApprovalKey × Moment} :
    startsAt begun b = true ↔ begun.lookup b.1 = none ∨ begun.lookup b.1 = some b.2 := by
  rw [startsAt, Bool.or_eq_true, decide_eq_true_eq, decide_eq_true_eq]

theorem beginnings_askedByJobs_of_forall {jobs : List (List ApprovalKey × Encode α)}
    (h : ∀ job ∈ jobs, ∀ now,
      beginnings (job.2.askedIf (keeping begun now) none) =
          (beginnings (job.2.askedIf (keeping [] now) none)).filter (startsAt begun) ∧
        (beginnings (job.2.askedIf (keeping [] now) none)).map Prod.fst = job.1) (position : ℕ) :
    beginnings (askedByJobs (keeping begun now) none position (jobs.map Prod.snd)) =
        (beginnings (askedByJobs (keeping [] now) none position (jobs.map Prod.snd))).filter
          (startsAt begun) ∧
      (beginnings (askedByJobs (keeping [] now) none position (jobs.map Prod.snd))).map Prod.fst =
        jobs.flatMap Prod.fst := by
  induction jobs generalizing position with
  | nil => exact ⟨rfl, rfl⟩
  | cons job jobs ih =>
    rw [List.forall_mem_cons] at h
    obtain ⟨hshared, hkeys⟩ := h.1 (now.ofJob position)
    obtain ⟨hshared', hkeys'⟩ := ih h.2 (position + 1)
    rw [List.map_cons, askedByJobs_cons, askedByJobs_cons, beginnings_append, beginnings_append,
      List.filter_append, List.map_append, List.flatMap_cons, hshared', hkeys']
    exact ⟨congrArg (· ++ _) hshared, congrArg (· ++ _) hkeys⟩

namespace LooksUp

/-- **What begins in a run that succeeds**: everything that is to be looked up, if nothing is known to
begin elsewhere; and of that, what does not begin elsewhere. -/
theorem beginnings_of_ok (h : LooksUp P approvals keys x) (now : Moment) {a : α}
    (hok : x.outcome (keeping begun now) = .ok a) :
    beginnings (x.askedIf (keeping begun now) none) =
        (beginnings (x.askedIf (keeping [] now) none)).filter (startsAt begun) ∧
      (beginnings (x.askedIf (keeping [] now) none)).map Prod.fst = keys := by
  induction h generalizing now with
  | @instant _ _ outcome asked keys hx _ hnone =>
    have hout : outcome = .ok a := (hx.outcome _).symm.trans hok
    rw [hnone a hout, hx.askedIf, hx.askedIf, if_neg (by simp), if_neg (by simp), beginnings_asked]
    exact ⟨rfl, rfl⟩
  | @lookUp source token owner spender key _ hkey =>
    have hnever : ∀ s ∈ (none : Option Moment), s.before (now.later 1) = false :=
      fun s hs => absurd hs (Option.not_mem_none s)
    have halone : beginnings ((source.isNeeded token owner spender).askedIf (keeping [] now) none) =
        [(key, now)] := by
      rw [askedIf_isNeeded hkey, if_pos ⟨Or.inl rfl, hnever⟩, beginnings_lookUp]
    rw [halone, askedIf_isNeeded hkey, List.filter_singleton]
    refine ⟨?_, rfl⟩
    by_cases hstart : begun.lookup key = none ∨ begun.lookup key = some now
    · have hstarts : startsAt begun (key, now) = true := startsAt_iff.2 hstart
      rw [if_pos ⟨hstart, hnever⟩, beginnings_lookUp, hstarts]
      rfl
    · have hstarts : startsAt begun (key, now) = false :=
        Bool.eq_false_iff.2 fun h => hstart (startsAt_iff.1 h)
      rw [if_neg fun hboth => hstart hboth.1, hstarts]
      rfl
  | after hx _ hfa ih =>
    have hnever : ¬ ∃ s ∈ (none : Option Moment), s.before now = true := by
      rintro ⟨s, hs, -⟩
      exact Option.not_mem_none s hs
    rw [askedIf_bind_of_instant hx (Moment.before_eq_false_of_eq_or_turn_lt (hfa.ends _)),
      askedIf_bind_of_instant hx (Moment.before_eq_false_of_eq_or_turn_lt (hfa.ends _)),
      now_keeping, now_keeping, if_neg hnever, if_neg hnever]
    rw [beginnings_append, beginnings_append, beginnings_asked, List.nil_append, List.nil_append]
    obtain ⟨a', hxa, hfa'⟩ := outcome_bind_eq_ok_iff.1 hok
    obtain rfl := Except.ok.inj ((hx.outcome _).symm.trans hxa)
    exact ih now hfa'
  | before _ hf ih =>
    obtain ⟨later, -, heq⟩ := exists_askedIf_bind hf (keeping begun now) none
    obtain ⟨later', -, heq'⟩ := exists_askedIf_bind hf (keeping [] now) none
    rw [heq, heq', beginnings_append, beginnings_append, beginnings_asked, beginnings_asked,
      List.append_nil, List.append_nil]
    obtain ⟨a', hxa, -⟩ := outcome_bind_eq_ok_iff.1 hok
    exact ih now hxa
  | @sideBySide _ jobs _ ih =>
    have hasked (begun : List (ApprovalKey × Moment))
        (hok : (Encode.sideBySide (jobs.map Prod.snd)).outcome (keeping begun now) = .ok a) :
        (Encode.sideBySide (jobs.map Prod.snd)).askedIf (keeping begun now) none =
          askedByJobs (keeping begun now) none 0 (jobs.map Prod.snd) :=
      Course.asked_all_of_ok hok
    have hok' : (Encode.sideBySide (jobs.map Prod.snd)).outcome (keeping [] now) = .ok a :=
      outcome_keeping_eq_ok_iff.1 hok
    rw [hasked begun hok, hasked [] hok']
    refine beginnings_askedByJobs_of_forall (fun job hjob now' => ?_) 0
    obtain ⟨v, hv⟩ := exists_outcome_eq_ok_of_mem hok (List.mem_map_of_mem hjob)
    exact ih job hjob now' (outcome_keeping_eq_ok_iff.1 hv)

end LooksUp

/-! ## The moments that are put down -/

/-- Of the beginnings of one look-up, an earlier one is put down. -/
theorem exists_lookup_noteBegun (begun : List (ApprovalKey × Moment)) (key : ApprovalKey)
    (moment : Moment) (outcome : Except Failure Bool) :
    ∃ m, (Circumstances.noteBegun begun (.lookUp key moment outcome)).lookup key = some m ∧
      (m = moment ∨ begun.lookup key = some m) := by
  rw [Circumstances.noteBegun]
  cases hbegun : begun.lookup key with
  | none => exact ⟨moment, List.lookup_cons_self, Or.inl rfl⟩
  | some earlier =>
    dsimp only
    split
    · exact ⟨moment, List.lookup_cons_self, Or.inl rfl⟩
    · exact ⟨earlier, hbegun, Or.inr rfl⟩

/-- The beginning of one look-up is put down beside those of the others. -/
theorem lookup_noteBegun_of_ne {key' : ApprovalKey} (hne : key ≠ key') (moment : Moment)
    (outcome : Except Failure Bool) :
    (Circumstances.noteBegun begun (.lookUp key' moment outcome)).lookup key = begun.lookup key := by
  have hother : (key == key') = false := beq_eq_false_iff_ne.2 hne
  rw [Circumstances.noteBegun]
  split
  · rw [List.lookup_cons, hother]
  · split
    · rw [List.lookup_cons, hother]
    · rfl

/-- **The table of beginnings** lists the look-ups that began, each with a moment at which it did. -/
theorem lookup_foldl_noteBegun (events : List Event) (begun : List (ApprovalKey × Moment)) :
    ((events.foldl Circumstances.noteBegun begun).lookup key = none ↔
      begun.lookup key = none ∧ key ∉ (beginnings events).map Prod.fst) ∧
    ∀ moment, (events.foldl Circumstances.noteBegun begun).lookup key = some moment →
      begun.lookup key = some moment ∨ (key, moment) ∈ beginnings events := by
  induction events generalizing begun with
  | nil => exact ⟨(and_iff_left List.not_mem_nil).symm, fun moment h => Or.inl h⟩
  | cons event events ih =>
    rw [List.foldl_cons]
    obtain ⟨hnone, hsome⟩ := ih (Circumstances.noteBegun begun event)
    cases event with
    | asked q => exact ⟨hnone, hsome⟩
    | lookUp key' moment' outcome =>
      have hbeginnings : beginnings (.lookUp key' moment' outcome :: events) =
          (key', moment') :: beginnings events := rfl
      rw [hnone, hbeginnings, List.map_cons, List.mem_cons, not_or]
      by_cases heq : key = key'
      · subst heq
        obtain ⟨m, hm, hfrom⟩ := exists_lookup_noteBegun begun key moment' outcome
        rw [hm] at hsome ⊢
        refine ⟨iff_of_false (fun h => by cases h.1) fun h => h.2.1 rfl, fun moment h => ?_⟩
        rcases hsome moment h with hleft | hright
        · obtain rfl := Option.some.inj hleft
          rcases hfrom with rfl | hbefore
          · exact Or.inr List.mem_cons_self
          · exact Or.inl hbefore
        · exact Or.inr (List.mem_cons_of_mem _ hright)
      · rw [lookup_noteBegun_of_ne heq] at hsome ⊢
        refine ⟨by rw [and_iff_right heq], fun moment h => ?_⟩
        exact (hsome moment h).imp_right (List.mem_cons_of_mem _)

/-! ## Computations whose parts share their look-ups -/

/-- When the look-ups of a computation begin in its first run. -/
def begunAlone (x : Encode α) (now : Moment) : List (ApprovalKey × Moment) :=
  (x.askedIf (keeping [] now) none).foldl Circumstances.noteBegun []

/-- The look-ups of a computation whose parts share them, in the order in which they are put down. -/
def sharedLookUps (x : Encode α) (now : Moment) : List ApprovalKey :=
  (beginnings (x.askedIf (keeping (x.begunAlone now) now) none)).map Prod.fst

namespace LooksUp

theorem lookup_begunAlone_ne_none (h : LooksUp P approvals keys x)
    (hmem : key ∈ x.sharedLookUps now) : (x.begunAlone now).lookup key ≠ none := by
  have halone := h.mem_beginnings_alone .never hmem
  intro hnone
  exact ((lookup_foldl_noteBegun _ []).1.1 hnone).2 halone

/-- **No look-up begins twice.** -/
theorem nodup_sharedLookUps (h : LooksUp P approvals keys x) : (x.sharedLookUps now).Nodup := by
  have hplaced := h.placed (x.begunAlone now) now none
  have hmoment : ∀ b ∈ beginnings (x.askedIf (keeping (x.begunAlone now) now) none),
      (x.begunAlone now).lookup b.1 = some b.2 := by
    intro b hb
    refine (hplaced.begun b hb).resolve_left (h.lookup_begunAlone_ne_none ?_)
    exact List.mem_map_of_mem hb
  -- the moments are different, and they are those of the keys
  have hmoments : (beginnings (x.askedIf (keeping (x.begunAlone now) now) none)).map
      (fun b => some b.2) = (x.sharedLookUps now).map (List.lookup · (x.begunAlone now)) := by
    rw [sharedLookUps, List.map_map]
    exact List.map_congr_left fun b hb => (hmoment b hb).symm
  have hnodup := hplaced.nodup.map (Option.some_injective Moment)
  rw [List.map_map] at hnodup
  exact List.Nodup.of_map (List.lookup · (x.begunAlone now)) (hmoments ▸ hnodup)

theorem subset_sharedLookUps (h : LooksUp P approvals keys x) : x.sharedLookUps now ⊆ keys := by
  intro key hkey
  obtain ⟨b, hb, rfl⟩ := List.mem_map.1 hkey
  exact (h.placed _ now none).keys b hb

/-- **A run that succeeds looks everything up.** -/
theorem mem_sharedLookUps_of_ok (h : LooksUp P approvals keys x) {a : α}
    (hok : x.outcome (keeping (x.begunAlone now) now) = .ok a) (hkey : key ∈ keys) :
    key ∈ x.sharedLookUps now := by
  obtain ⟨hshared, halone⟩ := h.beginnings_of_ok now hok
  rw [← halone] at hkey
  have hlisted : (x.begunAlone now).lookup key ≠ none := fun hnone =>
    ((lookup_foldl_noteBegun _ []).1.1 hnone).2 hkey
  obtain ⟨moment, hmoment⟩ := Option.ne_none_iff_exists'.1 hlisted
  -- the look-up that is put down in the first run begins again in the second one
  have hbegins := ((lookup_foldl_noteBegun _ []).2 moment hmoment).resolve_left fun h => by cases h
  rw [sharedLookUps, hshared]
  refine List.mem_map.2 ⟨(key, moment), List.mem_filter.2 ⟨hbegins, ?_⟩, rfl⟩
  exact startsAt_iff.2 (Or.inr hmoment)

end LooksUp

end Encode

end SwapRouter
