import SwapRouter.Proofs.LookUp.Once

/-!
# Look-ups that nobody shares

Without a place where approvals are kept, every approval that is needed is asked for on the spot.  What
comes of it is the same: a source answers to a key, and the key is the same for all ways to write its
addresses.  So a computation succeeds with the same value whether its look-ups are shared or not.  What
differs is how often a source is asked: as often as the approval is needed.

* `Encode.outcome_isNeeded`: what an approval that is needed comes to.
* `Encode.LooksUp.outcome_eq_ok_iff`: **with or without shared look-ups, the successes are the same.**
* `Encode.LooksUp.questions_of_ok`: **what is asked where nothing is shared.**
-/

namespace SwapRouter

open Event

/-- No approval is known where a computation starts, be they kept or not. -/
def Circumstances.Fresh (c : Circumstances) : Prop := c.known = none ∨ c.known = some []

namespace Encode

variable {P : Question → Prop} {approvals : Option ApprovalSource} {α β : Type} {x : Encode α}
  {keys : List ApprovalKey} {c c' : Circumstances} {key : ApprovalKey} {source : ApprovalSource}
  {token owner spender : Address}

/-- **What an approval that is needed comes to**: the answer of the source. -/
theorem outcome_isNeeded (h : ApprovalKey.ofAddresses token owner spender = .ok key) (hc : c.Fresh) :
    (source.isNeeded token owner spender).outcome c = source.answer key := by
  rcases hc with hnone | hkept
  · rw [outcome, course_isNeeded_of_not_kept hnone]
    exact (source.isInstant_lookUp h).outcome c
  · have hkeeps : c.known.isSome = true := by rw [hkept]; rfl
    have hpure := bind_of_ok (f := sharedLookUp source) ((isInstant_pure key).outcome c)
    have hneeded := congrArg Course.outcome ((course_isNeeded_of_kept source h hkeeps).trans hpure)
    exact hneeded.trans ((outcome_once hkept).trans
      ((source.isInstant_lookUp (ApprovalKey.ofAddresses_self h)).outcome c))

theorem map_outcome_eq_ok_iff {jobs : List (Encode α)}
    (h : ∀ job ∈ jobs, ∀ a, job.outcome c = .ok a ↔ job.outcome c' = .ok a) {values : List α} :
    jobs.map (outcome · c) = values.map .ok ↔ jobs.map (outcome · c') = values.map .ok := by
  induction jobs generalizing values with
  | nil => exact Iff.rfl
  | cons job jobs ih =>
    rw [List.forall_mem_cons] at h
    cases values with
    | nil => simp
    | cons a values =>
      rw [List.map_cons, List.map_cons, List.map_cons, List.cons.injEq, List.cons.injEq, h.1 a, ih h.2]

namespace LooksUp

/-- **With or without shared look-ups, the successes are the same.** -/
theorem outcome_eq_ok_iff (h : LooksUp P approvals keys x) (hc : c.Fresh) (hc' : c'.Fresh) {a : α} :
    x.outcome c = .ok a ↔ x.outcome c' = .ok a := by
  induction h with
  | @instant _ x outcome _ _ hx =>
    have hout (d : Circumstances) : x.outcome d = outcome := hx.outcome d
    rw [hout, hout]
  | lookUp _ hkey => rw [outcome_isNeeded hkey hc, outcome_isNeeded hkey hc']
  | @after _ _ x f b _ _ hx _ _ ih =>
    have hout (d : Circumstances) : x.outcome d = .ok b := hx.outcome d
    rw [outcome_bind_eq_ok_iff, outcome_bind_eq_ok_iff]
    refine exists_congr fun b' => ?_
    rw [hout, hout, Except.ok.injEq]
    exact and_congr_right fun hb => hb ▸ ih
  | @before _ _ x f _ _ hf ih =>
    rw [outcome_bind_eq_ok_iff, outcome_bind_eq_ok_iff]
    refine exists_congr fun b => ?_
    obtain ⟨outcome', asked, hfb, -⟩ := hf b
    have hout (d : Circumstances) : (f b).outcome d = outcome' := hfb.outcome d
    rw [ih, hout, hout]
  | @sideBySide _ jobs _ ih =>
    rw [outcome_sideBySide_eq_ok_iff, outcome_sideBySide_eq_ok_iff]
    refine map_outcome_eq_ok_iff fun job hjob a => ?_
    obtain ⟨pair, hpair, rfl⟩ := List.mem_map.1 hjob
    exact ih pair hpair

end LooksUp

namespace LooksUp

/-- **What is asked where nothing is shared**: what the look-up of every key asks, as often as it is
looked up. -/
theorem questions_of_ok (h : LooksUp (fun q => q.isApproval = false) (some source) keys x)
    (hnone : c.known = none) {a : α} (hok : x.outcome c = .ok a) :
    (questions (x.askedIf c none)).filter Question.isApproval = keys.flatMap source.questions := by
  have hbeside {asked : List Question} (hasked : ∀ q ∈ asked, q.isApproval = false) :
      asked.filter Question.isApproval = [] :=
    List.filter_eq_nil_iff.2 fun q hq => Bool.eq_false_iff.1 (hasked q hq)
  have hnever (moment : Moment) : ¬ ∃ s ∈ (none : Option Moment), s.before moment = true := by
    rintro ⟨s, hs, -⟩
    exact Option.not_mem_none s hs
  induction h generalizing c with
  | @instant _ _ outcome asked keys hx hasked hkeys =>
    rw [hkeys a ((hx.outcome c).symm.trans hok), hx.askedIf, if_neg (hnever _), questions_asked]
    exact hbeside hasked
  | @lookUp source' token owner spender key hsource hkey =>
    obtain rfl := Option.some.inj hsource
    have hlookUp := (source.isInstant_lookUp hkey).askedIf c none
    rw [askedIf, course_isNeeded_of_not_kept hnone, ← askedIf, hlookUp, if_neg (hnever _),
      questions_asked, List.flatMap_singleton]
    exact List.filter_eq_self.2 fun q hq => ApprovalSource.isApproval_of_mem_questions hq
  | after hx hasked hfa ih =>
    obtain ⟨a', hxa, hfa'⟩ := outcome_bind_eq_ok_iff.1 hok
    obtain rfl := Except.ok.inj ((hx.outcome c).symm.trans hxa)
    rw [askedIf_bind_of_instant hx (Moment.before_eq_false_of_eq_or_turn_lt (hfa.ends _)),
      if_neg (hnever _), questions_append, questions_asked, List.filter_append, hbeside hasked,
      List.nil_append]
    exact ih hnone hfa'
  | before _ hf ih =>
    obtain ⟨later, hlater, heq⟩ := exists_askedIf_bind hf c none
    obtain ⟨a', hxa, -⟩ := outcome_bind_eq_ok_iff.1 hok
    rw [heq, questions_append, questions_asked, List.filter_append, hbeside hlater, List.append_nil]
    exact ih hnone hxa
  | @sideBySide _ jobs _ ih =>
    rw [List.flatMap_assoc]
    exact filter_questions_sideBySide hok fun job hjob _ _ hjobok => ih job hjob hnone hjobok

end LooksUp

end Encode

end SwapRouter
