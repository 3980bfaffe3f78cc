import Mathlib.Data.List.Basic
import SwapRouter.Concurrent
import SwapRouter.Proofs.LookUp.Events

/-!
# What trees of jobs come to

A call that waits for jobs comes to all their values, in the order of the list, or to the failure that
reaches it first.  How long each job takes decides who comes first, and thus with which failure a tree
fails that fails; it decides neither whether the tree fails, nor with which values it succeeds.

To say this, the same tree is run with other times.  A job is known by its *path*, the positions that
lead to it from call to call, and `Job.retimed` gives each single job the turns of its path.  These
times are free, so jobs complete in every order (`Job.exists_time`).

## Why there is always a first failure

Two failures may reach a call in the same turn; then their ranks decide.  What a job does has a rank
behind its own rank, and this includes its end: it may be that of a call inside, which is the end of one
of its jobs.  There is one exception.  A call that is stopped may end with the rank of the signal, but a
signal comes from a failure beside that call, hence from behind the same outer rank
(`Course.EndsBehind`).  So the ends of jobs of one list never coincide, and one of the jobs that fail is
before all others (`Course.firstFailure_eq_some_iff`).

* `Job.values?`, `Job.FailsWith`: what a tree comes to.
* `Job.exists_time`: single jobs complete in any order.
* `Job.run_nested_retimed`: **whatever the order of completion, a call comes to all values in the order
  of its list if no job fails; else to the failure that reaches it first, and so in each call inside.**
-/

namespace SwapRouter

/-! ## Moments -/

namespace Moment

/-- Of two moments with different ranks, one is before the other one. -/
theorem before_or_before_of_rank_ne {a b : Moment} (h : a.rank ≠ b.rank) :
    a.before b = true ∨ b.before a = true := by
  rw [before_eq_true_iff, before_eq_true_iff]
  rcases Nat.lt_trichotomy a.turn b.turn with hlt | heq | hgt
  · exact Or.inl (Or.inl hlt)
  · by_cases hrank : a.rank < b.rank
    · exact Or.inl (Or.inr ⟨heq, hrank⟩)
    · refine Or.inr (Or.inr ⟨heq.symm, ?_⟩)
      by_contra hrank'
      exact h (List.le_antisymm (List.not_lt.1 hrank') (List.not_lt.1 hrank))
  · exact Or.inr (Or.inl hgt)

theorem latest_mem (first : Moment) (others : List Moment) :
    latest first others ∈ first :: others := by
  induction others generalizing first with
  | nil => exact List.mem_singleton_self first
  | cons b others ih =>
    have hstep : latest first (b :: others) = latest (if first.before b then b else first) others :=
      rfl
    rw [hstep]
    rcases List.mem_cons.1 (ih (if first.before b then b else first)) with heq | hmem
    · rw [heq]
      split
      · exact List.mem_cons_of_mem first List.mem_cons_self
      · exact List.mem_cons_self
    · exact List.mem_cons_of_mem first (List.mem_cons_of_mem b hmem)

/-- Where the job of a path starts. -/
def ofPath (path : List ℕ) : Moment := ⟨path.length, path⟩

end Moment

/-! ## Where jobs end -/

namespace Course

variable {Q α β : Type} {start : Moment} {ts : List (Course Q α)} {rank : List ℕ}

/-- A job ends behind a rank; where it is stopped, it may also end with the rank of the signal. -/
structure EndsBehind (rank : List ℕ) (t : Course Q α) : Prop where
  ending : rank <+: t.ending.moment.rank
  stopped : ∀ signal : Moment, rank <+: (t.stopped signal).moment.rank ∨
    (t.stopped signal).moment.rank = signal.rank

theorem EndsBehind.mono {t : Course Q α} {outer : List ℕ} (h : t.EndsBehind rank)
    (houter : outer <+: rank) : t.EndsBehind outer where
  ending := houter.trans h.ending
  stopped signal := (h.stopped signal).imp_left houter.trans

theorem EndsBehind.withOutcome {t : Course Q α} (h : t.EndsBehind rank)
    (outcome : Except Failure β) : (t.withOutcome outcome).EndsBehind rank :=
  ⟨h.ending, h.stopped⟩

theorem endsBehind_idle (start : Moment) (turns : ℕ) (outcome : Except Failure α) :
    (idle start turns outcome : Course Q α).EndsBehind start.rank :=
  ⟨List.prefix_refl _, fun _ => Or.inl (List.prefix_refl _)⟩

theorem EndsBehind.endingUnder {t : Course Q α} (h : t.EndsBehind rank) (signal : Moment) :
    rank <+: (t.endingUnder signal).moment.rank ∨
      (t.endingUnder signal).moment.rank = signal.rank := by
  rw [Course.endingUnder]
  split
  · exact h.stopped signal
  · exact Or.inl h.ending

/-- The end of a call is that of one of its jobs. -/
theorem rank_joined {P : List ℕ → Prop} {es : List (Ending Q)} (hstart : P start.rank)
    (hes : ∀ e ∈ es, P e.moment.rank) : P (joined start es).moment.rank := by
  cases es with
  | nil => exact hstart
  | cons e es =>
    have hmem := Moment.latest_mem e.moment (es.map Ending.moment)
    rw [← List.map_cons] at hmem
    obtain ⟨e', he', heq⟩ := List.mem_map.1 hmem
    have hrank : (joined start (e :: es)).moment.rank = e'.moment.rank := by rw [heq]; rfl
    rw [hrank]
    exact hes e' he'

theorem rank_halted {f : FirstFailure} (hf : rank <+: f.moment.rank)
    (hts : ∀ t ∈ ts, t.EndsBehind rank) : rank <+: (halted f ts).moment.rank := by
  have hlater : (halted f ts).moment.rank =
      (Moment.latest f.moment (ts.map (waitFor f))).rank := rfl
  rw [hlater]
  rcases List.mem_cons.1 (Moment.latest_mem f.moment (ts.map (waitFor f))) with heq | hmem
  · rw [heq]
    exact hf
  · obtain ⟨t, ht, heq⟩ := List.mem_map.1 hmem
    rw [← heq, waitFor]
    split
    · -- the signal has the rank of the failure
      rcases (hts t ht).stopped f.signal with hbehind | hsignal
      · exact hbehind
      · rw [hsignal]
        exact hf
    · exact hf

theorem rank_interrupted (hts : ∀ t ∈ ts, t.EndsBehind start.rank) (signal : Moment) :
    start.rank <+: (interrupted start ts signal).moment.rank ∨
      (interrupted start ts signal).moment.rank = signal.rank := by
  have hjoined : start.rank <+:
        (joined start (ts.map (Course.endingUnder · (signal.later 1)))).moment.rank ∨
      (joined start (ts.map (Course.endingUnder · (signal.later 1)))).moment.rank = signal.rank :=
    rank_joined (P := fun r => start.rank <+: r ∨ r = signal.rank) (Or.inl (List.prefix_refl _))
    (fun e he => by
      obtain ⟨t, ht, rfl⟩ := List.mem_map.1 he
      exact (hts t ht).endingUnder (signal.later 1))
  rw [interrupted]
  dsimp only
  split
  · exact Or.inl (List.prefix_refl _)
  · split
    · exact Or.inr rfl
    · exact hjoined

/-- A call ends behind its own rank if its jobs do. -/
theorem endsBehind_all (hts : ∀ t ∈ ts, t.EndsBehind start.rank) :
    (all start ts).EndsBehind start.rank := by
  cases hf : firstFailure ts with
  | none =>
    rw [all, hf]
    refine ⟨rank_joined (P := (start.rank <+: ·)) (List.prefix_refl _) fun e he => ?_,
      rank_interrupted hts⟩
    obtain ⟨t, ht, rfl⟩ := List.mem_map.1 he
    exact (hts t ht).ending
  | some f =>
    obtain ⟨t, ht, -, hmoment⟩ := exists_of_firstFailure hf
    have hhalted := rank_halted (hmoment ▸ (hts t ht).ending) hts
    rw [all, hf]
    refine ⟨hhalted, fun signal => ?_⟩
    dsimp only
    split
    · exact rank_interrupted hts signal
    · exact Or.inl hhalted

/-- **There is one first failure** among jobs whose ends never coincide. -/
theorem firstFailure_eq_some_iff {e : Failure}
    (hapart : ∀ {i k : ℕ} {t u : Course Q α}, i ≠ k → ts[i]? = some t → ts[k]? = some u →
      t.ending.moment.rank ≠ u.ending.moment.rank) :
    (∃ f, firstFailure ts = some f ∧ f.failure = e) ↔
      ∃ (i : ℕ) (t : Course Q α), ts[i]? = some t ∧ t.outcome = .error e ∧
        ∀ (k : ℕ) (u : Course Q α), k ≠ i → ts[k]? = some u → (∃ e', u.outcome = .error e') →
          t.ending.moment.before u.ending.moment = true := by
  constructor
  · rintro ⟨f, hf, rfl⟩
    obtain ⟨t, ht, hfailed, hmoment⟩ := exists_of_firstFailure hf
    obtain ⟨i, hi⟩ := List.mem_iff_getElem?.1 ht
    refine ⟨i, t, hi, hfailed, fun k u hki hk => ?_⟩
    rintro ⟨e', hu⟩
    have hlate := before_of_firstFailure hf (List.mem_of_getElem? hk) hu
    rw [← hmoment] at hlate
    rcases Moment.before_or_before_of_rank_ne (hapart hki.symm hi hk) with hbefore | hbefore
    · exact hbefore
    · rw [hlate] at hbefore
      cases hbefore
  · rintro ⟨i, t, hi, hfailed, hfirst⟩
    cases hf : firstFailure ts with
    | none =>
      obtain ⟨v, hv⟩ := firstFailure_eq_none_iff.1 hf t (List.mem_of_getElem? hi)
      rw [hv] at hfailed
      cases hfailed
    | some f =>
      refine ⟨f, rfl, ?_⟩
      obtain ⟨u, hu, hufailed, hmoment⟩ := exists_of_firstFailure hf
      obtain ⟨k, hk⟩ := List.mem_iff_getElem?.1 hu
      by_cases hki : k = i
      · rw [hki, hi] at hk
        rw [Option.some.inj hk, hufailed] at hfailed
        exact Except.error.inj hfailed
      · have hbefore := hfirst k u hki hk ⟨_, hufailed⟩
        have hlate := before_of_firstFailure hf (List.mem_of_getElem? hi) hfailed
        rw [hmoment, hlate] at hbefore
        cases hbefore

end Course

/-! ## Failures and their groups -/

namespace FailureTree

mutual

/-- The failures of a group, in its order; a group without members counts as a defect. -/
def leaves : FailureTree → List Failure
  | .leaf f => [f]
  | .group [] => [.defect]
  | .group (t :: ts) => t.leaves ++ leavesOfEach ts

/-- The failures of several groups. -/
def leavesOfEach : List FailureTree → List Failure
  | [] => []
  | t :: ts => t.leaves ++ leavesOfEach ts

end

theorem head?_leaves (tree : FailureTree) : tree.leaves.head? = some tree.firstLeaf := by
  fun_induction firstLeaf tree with
  | case1 f => rfl
  | case2 => rfl
  | case3 t ts ih => rw [leaves, List.head?_append, ih, Option.some_or]

end FailureTree

/-! ## What a tree of jobs comes to -/

namespace Job

variable {α : Type} {start : Moment} {jobs : List (Job α)} {job : Job α}

/-- What holds of single jobs, and of a call if it holds of its jobs, holds of all trees. -/
@[induction_eliminator]
theorem induct {P : Job α → Prop} (value : ∀ turns v, P (.value turns v))
    (failure : ∀ turns tree, P (.failure turns tree))
    (nested : ∀ jobs, (∀ job ∈ jobs, P job) → P (.nested jobs)) (job : Job α) : P job :=
  Job.rec (motive_2 := fun jobs => ∀ job ∈ jobs, P job) value failure nested
    (fun _ h => absurd h List.not_mem_nil)
    (fun _ _ hjob hjobs => List.forall_mem_cons.2 ⟨hjob, hjobs⟩) job

mutual

/-- The values of a tree, each list in its order; none if a job fails. -/
def values? : Job α → Option (Results α)
  | .value _ v => some (.value v)
  | .failure _ _ => none
  | .nested jobs => (valuesOfEach? jobs).map .list

/-- The values of several trees. -/
def valuesOfEach? : List (Job α) → Option (List (Results α))
  | [] => some []
  | job :: jobs => job.values?.bind fun v => (valuesOfEach? jobs).map (v :: ·)

end

mutual

/-- What the jobs of a tree fail with that fail. -/
def failures : Job α → List FailureTree
  | .value _ _ => []
  | .failure _ tree => [tree]
  | .nested jobs => failuresOfEach jobs

/-- What the jobs of several trees fail with. -/
def failuresOfEach : List (Job α) → List FailureTree
  | [] => []
  | job :: jobs => job.failures ++ failuresOfEach jobs

end

/-- When a job ends that starts at a moment. -/
def endAt (start : Moment) (job : Job α) : Moment := (job.runFrom start).ending.moment

/-- A job that starts at a moment fails: by itself, with the first leaf of what it raises, or as a call,
with the failure of the one of its jobs that ends before all others that fail. -/
inductive FailsWith : Moment → Job α → Failure → Prop
  | raised {start : Moment} (turns : ℕ) (tree : FailureTree) :
    FailsWith start (.failure turns tree) tree.firstLeaf
  | reached {start : Moment} {jobs : List (Job α)} {i : ℕ} {job : Job α} {e : Failure} :
    jobs[i]? = some job → FailsWith (start.ofJob i) job e →
    (∀ (k : ℕ) (other : Job α), k ≠ i → jobs[k]? = some other → other.values? = none →
      (job.endAt (start.ofJob i)).before (other.endAt (start.ofJob k)) = true) →
    FailsWith start (.nested jobs) e

/-! ### A single run -/

theorem getElem?_runEach (start : Moment) (position : ℕ) (jobs : List (Job α)) (i : ℕ) :
    (runEach start position jobs)[i]? =
      jobs[i]?.map fun job => job.runFrom (start.ofJob (position + i)) := by
  induction jobs generalizing position i with
  | nil => rfl
  | cons job jobs ih =>
    rw [runEach]
    cases i with
    | zero => rfl
    | succ i => rw [List.getElem?_cons_succ, ih, List.getElem?_cons_succ, Nat.add_right_comm]; rfl

theorem getElem?_runEach_eq_some_iff {i : ℕ} {t : Course Empty (Results α)} :
    (runEach start 0 jobs)[i]? = some t ↔
      ∃ job, jobs[i]? = some job ∧ job.runFrom (start.ofJob i) = t := by
  rw [getElem?_runEach, Option.map_eq_some_iff, Nat.zero_add]

/-- **What a job does ends behind its rank.** -/
theorem endsBehind_runFrom (job : Job α) (start : Moment) :
    (job.runFrom start).EndsBehind start.rank := by
  induction job generalizing start with
  | value turns v => exact Course.endsBehind_idle start turns _
  | failure turns tree => exact Course.endsBehind_idle start turns _
  | nested jobs ih =>
    refine (Course.endsBehind_all fun t ht => ?_).withOutcome _
    obtain ⟨i, hi⟩ := List.mem_iff_getElem?.1 ht
    obtain ⟨job, hjob, rfl⟩ := getElem?_runEach_eq_some_iff.1 hi
    exact (ih job (List.mem_of_getElem? hjob) (start.ofJob i)).mono (List.prefix_append _ _)

/-- The ends of jobs of one list never coincide. -/
theorem rank_endAt_ne {i k : ℕ} (hik : i ≠ k) (job other : Job α) :
    (job.endAt (start.ofJob i)).rank ≠ (other.endAt (start.ofJob k)).rank := by
  intro h
  have hi : start.rank ++ [i] <+: (job.endAt (start.ofJob i)).rank :=
    (job.endsBehind_runFrom (start.ofJob i)).ending
  have hk : start.rank ++ [k] <+: (job.endAt (start.ofJob i)).rank :=
    h ▸ (other.endsBehind_runFrom (start.ofJob k)).ending
  exact Encode.ne_of_prefix hik hi hk rfl

theorem outcome_runFrom_nested :
    ((Job.nested jobs).runFrom start).outcome =
      (Course.all start (runEach start 0 jobs)).outcome.map .list := rfl

theorem valuesOfEach?_eq_some_iff {vs : List (Results α)} :
    valuesOfEach? jobs = some vs ↔ jobs.map values? = vs.map some := by
  induction jobs generalizing vs with
  | nil => cases vs <;> simp [valuesOfEach?]
  | cons job jobs ih =>
    cases vs with
    | nil => simp [valuesOfEach?, Option.bind_eq_some_iff]
    | cons v vs =>
      simp only [valuesOfEach?, Option.bind_eq_some_iff, Option.map_eq_some_iff, List.cons.injEq,
        List.map_cons, ← ih]
      constructor
      · rintro ⟨v', hv, vs', hvs, rfl, rfl⟩
        exact ⟨hv, hvs⟩
      · rintro ⟨hv, hvs⟩
        exact ⟨v, hv, vs, hvs, rfl, rfl⟩

/-- **A job succeeds exactly if no job of its tree fails**, with their values. -/
theorem outcome_runFrom_eq_ok_iff {r : Results α} :
    (job.runFrom start).outcome = .ok r ↔ job.values? = some r := by
  induction job generalizing start r with
  | value turns v =>
    rw [values?, Option.some.injEq]
    exact ⟨Except.ok.inj, congrArg Except.ok⟩
  | failure turns tree => exact ⟨nofun, nofun⟩
  | nested jobs ih =>
    have hlists (position : ℕ) (vs : List (Results α)) :
        (runEach start position jobs).map Course.outcome = vs.map .ok ↔
          jobs.map values? = vs.map some := by
      induction jobs generalizing position vs with
      | nil => cases vs <;> simp [runEach]
      | cons job jobs ih' =>
        rw [List.forall_mem_cons] at ih
        cases vs with
        | nil => simp [runEach]
        | cons v vs =>
          rw [runEach, List.map_cons, List.map_cons, List.map_cons, List.map_cons, List.cons.injEq,
            List.cons.injEq, ih.1, ih' ih.2]
    rw [outcome_runFrom_nested, values?, Option.map_eq_some_iff]
    constructor
    · intro h
      cases hall : (Course.all start (runEach start 0 jobs)).outcome with
      | error e =>
        rw [hall] at h
        cases h
      | ok vs =>
        rw [hall] at h
        exact ⟨vs, valuesOfEach?_eq_some_iff.2 ((hlists 0 vs).1 (Course.all_outcome_eq_ok_iff.1 hall)),
          Except.ok.inj h⟩
    · rintro ⟨vs, hvs, rfl⟩
      rw [Course.all_outcome_eq_ok_iff.2 ((hlists 0 vs).2 (valuesOfEach?_eq_some_iff.1 hvs))]
      rfl

theorem exists_outcome_runFrom_eq_error_iff :
    (∃ e, (job.runFrom start).outcome = .error e) ↔ job.values? = none := by
  rw [← Option.not_isSome_iff_eq_none, Option.isSome_iff_exists]
  cases h : (job.runFrom start).outcome with
  | error e =>
    refine iff_of_true ⟨e, rfl⟩ ?_
    rintro ⟨r, hr⟩
    rw [outcome_runFrom_eq_ok_iff.2 hr] at h
    cases h
  | ok r =>
    refine iff_of_false ?_ fun hnot => hnot ⟨r, outcome_runFrom_eq_ok_iff.1 h⟩
    rintro ⟨e, ⟨⟩⟩

/-- **A job fails with the failure that comes first**, its own or that of a job of its call. -/
theorem outcome_runFrom_eq_error_iff {e : Failure} :
    (job.runFrom start).outcome = .error e ↔ job.FailsWith start e := by
  induction job generalizing start e with
  | value turns v => exact ⟨nofun, nofun⟩
  | failure turns tree =>
    constructor
    · rintro ⟨⟩
      exact .raised turns tree
    · rintro ⟨⟩
      rfl
  | nested jobs ih =>
    have hcall : ((Job.nested jobs).runFrom start).outcome = .error e ↔
        (Course.all start (runEach start 0 jobs)).outcome = .error e := by
      rw [outcome_runFrom_nested]
      cases (Course.all start (runEach start 0 jobs)).outcome <;> simp [Except.map]
    rw [hcall, Course.all_outcome_eq_error_iff, Course.firstFailure_eq_some_iff]
    · constructor
      · rintro ⟨i, t, hi, hfailed, hfirst⟩
        obtain ⟨job, hjob, rfl⟩ := getElem?_runEach_eq_some_iff.1 hi
        refine .reached hjob ((ih job (List.mem_of_getElem? hjob)).1 hfailed) ?_
        intro k other hki hother hnone
        exact hfirst k _ hki (getElem?_runEach_eq_some_iff.2 ⟨other, hother, rfl⟩)
          (exists_outcome_runFrom_eq_error_iff.2 hnone)
      · rintro (_ | @⟨_, _, i, job, _, hjob, hfails, hfirst⟩)
        refine ⟨i, _, getElem?_runEach_eq_some_iff.2 ⟨job, hjob, rfl⟩,
          (ih job (List.mem_of_getElem? hjob)).2 hfails, ?_⟩
        intro k u hki hk hfailed
        obtain ⟨other, hother, rfl⟩ := getElem?_runEach_eq_some_iff.1 hk
        exact hfirst k other hki hother (exists_outcome_runFrom_eq_error_iff.1 hfailed)
    · intro i k t u hik hi hk
      obtain ⟨job, -, rfl⟩ := getElem?_runEach_eq_some_iff.1 hi
      obtain ⟨other, -, rfl⟩ := getElem?_runEach_eq_some_iff.1 hk
      exact rank_endAt_ne hik job other

theorem mem_failuresOfEach_iff {tree : FailureTree} :
    tree ∈ failuresOfEach jobs ↔ ∃ job ∈ jobs, tree ∈ job.failures := by
  induction jobs with
  | nil => simp [failuresOfEach]
  | cons job jobs ih => simp [failuresOfEach, ih]

/-- A job fails with the first leaf of what one of its jobs fails with. -/
theorem FailsWith.exists_mem_failures {e : Failure} (h : FailsWith start job e) :
    ∃ tree ∈ job.failures, tree.leaves.head? = some e := by
  induction h with
  | raised turns tree => exact ⟨tree, List.mem_singleton_self tree, tree.head?_leaves⟩
  | reached hjob _ _ ih =>
    obtain ⟨tree, htree, hhead⟩ := ih
    exact ⟨tree, mem_failuresOfEach_iff.2 ⟨_, List.mem_of_getElem? hjob, htree⟩, hhead⟩

theorem values?_eq_none_iff : job.values? = none ↔ job.failures ≠ [] := by
  induction job with
  | value turns v => exact ⟨nofun, fun h => absurd rfl h⟩
  | failure turns tree => exact ⟨fun _ => List.cons_ne_nil _ _, fun _ => rfl⟩
  | nested jobs ih =>
    rw [values?, Option.map_eq_none_iff, failures]
    induction jobs with
    | nil => simp [valuesOfEach?, failuresOfEach]
    | cons job jobs ih' =>
      rw [List.forall_mem_cons] at ih
      rw [valuesOfEach?, failuresOfEach, ne_eq, List.append_eq_nil_iff, not_and_or, ← ne_eq,
        ← ne_eq, ← ih.1, ← ih' ih.2, Option.bind_eq_none_iff]
      cases job.values? with
      | none => simp
      | some v => simp

/-! ### Other times -/

mutual

/-- The same tree, where each single job takes the turns of its path. -/
def retimed (time : List ℕ → ℕ) (path : List ℕ) : Job α → Job α
  | .value _ v => .value (time path) v
  | .failure _ tree => .failure (time path) tree
  | .nested jobs => .nested (retimedEach time path 0 jobs)

/-- The same for the jobs of a call, from a position of the list on. -/
def retimedEach (time : List ℕ → ℕ) (path : List ℕ) : ℕ → List (Job α) → List (Job α)
  | _, [] => []
  | position, job :: jobs =>
    job.retimed time (path ++ [position]) :: retimedEach time path (position + 1) jobs

end

variable {time : List ℕ → ℕ} {path : List ℕ}

theorem values?_retimed (job : Job α) (path : List ℕ) : (job.retimed time path).values? = job.values? := by
  induction job generalizing path with
  | value turns v => rfl
  | failure turns tree => rfl
  | nested jobs ih =>
    have heach (position : ℕ) :
        valuesOfEach? (retimedEach time path position jobs) = valuesOfEach? jobs := by
      induction jobs generalizing position with
      | nil => rfl
      | cons job jobs ih' =>
        rw [List.forall_mem_cons] at ih
        rw [retimedEach, valuesOfEach?, valuesOfEach?, ih.1, ih' ih.2]
    rw [retimed, values?, values?, heach]

theorem failures_retimed (job : Job α) (path : List ℕ) :
    (job.retimed time path).failures = job.failures := by
  induction job generalizing path with
  | value turns v => rfl
  | failure turns tree => rfl
  | nested jobs ih =>
    have heach (position : ℕ) :
        failuresOfEach (retimedEach time path position jobs) = failuresOfEach jobs := by
      induction jobs generalizing position with
      | nil => rfl
      | cons job jobs ih' =>
        rw [List.forall_mem_cons] at ih
        rw [retimedEach, failuresOfEach, failuresOfEach, ih.1, ih' ih.2]
    rw [retimed, failures, failures, heach]

/-! ### Single jobs in any order -/

/-- Whether a job waits for no others. -/
def isSingle : Job α → Bool
  | .nested _ => false
  | _ => true

/-- The job that a path leads to. -/
def at? : Job α → List ℕ → Option (Job α)
  | job, [] => some job
  | .nested jobs, i :: path => jobs[i]?.bind fun job => job.at? path
  | _, _ :: _ => none

/-- The paths of a tree are not longer than the tree is high. -/
theorem exists_length_le (job : Job α) :
    ∃ height, ∀ path : List ℕ, (job.at? path).isSome → path.length ≤ height := by
  have hsingle {job : Job α} (h : ∀ i path, job.at? (i :: path) = none) :
      ∃ height, ∀ path : List ℕ, (job.at? path).isSome → path.length ≤ height := by
    refine ⟨0, fun path hpath => ?_⟩
    cases path with
    | nil => exact Nat.le_refl 0
    | cons i path => simp [h] at hpath
  induction job with
  | value turns v => exact hsingle fun i path => rfl
  | failure turns tree => exact hsingle fun i path => rfl
  | nested jobs ih =>
    have hall : ∃ height, ∀ job ∈ jobs, ∀ path : List ℕ, (job.at? path).isSome →
        path.length ≤ height := by
      induction jobs with
      | nil => exact ⟨0, fun job h => absurd h List.not_mem_nil⟩
      | cons job jobs ih' =>
        rw [List.forall_mem_cons] at ih
        obtain ⟨first, hfirst⟩ := ih.1
        obtain ⟨rest, hrest⟩ := ih' ih.2
        refine ⟨max first rest, List.forall_mem_cons.2 ⟨fun path h => ?_, fun job' hjob' path h => ?_⟩⟩
        · exact (hfirst path h).trans (Nat.le_max_left _ _)
        · exact (hrest job' hjob' path h).trans (Nat.le_max_right _ _)
    obtain ⟨height, hheight⟩ := hall
    refine ⟨height + 1, fun path hpath => ?_⟩
    cases path with
    | nil => exact Nat.zero_le _
    | cons i path =>
      rw [at?] at hpath
      cases hjob : jobs[i]? with
      | none => simp [hjob] at hpath
      | some job =>
        rw [hjob, Option.bind_some] at hpath
        exact Nat.succ_le_succ (hheight job (List.mem_of_getElem? hjob) path hpath)

theorem endAt_retimed_of_isSingle {path : List ℕ} (h : job.isSingle = true) :
    (job.retimed time path).endAt (.ofPath path) = ⟨path.length + time path, path⟩ := by
  cases job with
  | value turns v => rfl
  | failure turns tree => rfl
  | nested jobs => cases h

/-- **Single jobs complete in any order**, whichever places their paths are given. -/
theorem exists_time (job : Job α) (place : List ℕ → ℕ) :
    ∃ time, ∀ (path path' : List ℕ) (a b : Job α), job.at? path = some a → job.at? path' = some b →
      a.isSingle = true → b.isSingle = true → place path < place path' →
        ((a.retimed time path).endAt (.ofPath path)).before
          ((b.retimed time path').endAt (.ofPath path')) = true := by
  obtain ⟨height, hheight⟩ := exists_length_le job
  -- the longer its path, the fewer turns a job takes
  refine ⟨fun path => (place path + 1) * (height + 1) - path.length, ?_⟩
  intro path path' a b ha hb hsingle hsingle' hplace
  have hturn (path : List ℕ) (h : path.length ≤ height) :
      path.length + ((place path + 1) * (height + 1) - path.length) =
        (place path + 1) * (height + 1) := by
    refine Nat.add_sub_cancel' (h.trans ?_)
    exact (Nat.le_succ height).trans (Nat.le_mul_of_pos_left _ (Nat.succ_pos _))
  rw [endAt_retimed_of_isSingle hsingle, endAt_retimed_of_isSingle hsingle']
  refine Moment.before_of_turn_lt ?_
  dsimp only
  rw [hturn path (hheight path (by rw [ha]; rfl)), hturn path' (hheight path' (by rw [hb]; rfl))]
  exact Nat.mul_lt_mul_of_pos_right (Nat.succ_lt_succ hplace) (Nat.succ_pos height)

/-! ### Runs in any order -/

/-- **Whatever the order of completion**, a call comes to the values of all its jobs in the order of
the list if no job fails, and else to a single failure, the first leaf of what one of these jobs raises:
in each call, of those that fail, the job that ended first passes its failure on. -/
theorem run_nested_retimed (jobs : List (Job α)) (time : List ℕ → ℕ) :
    let call := (Job.nested jobs).retimed time []
    (∀ r, call.run.outcome = .ok r ↔ (Job.nested jobs).values? = some r) ∧
      (∀ e, call.run.outcome = .error e ↔ call.FailsWith {} e) ∧
      ((Job.nested jobs).values? = none ↔ (Job.nested jobs).failures ≠ []) ∧
      ∀ e, call.run.outcome = .error e →
        ∃ tree ∈ (Job.nested jobs).failures, tree.leaves.head? = some e := by
  intro call
  refine ⟨fun r => ?_, fun e => outcome_runFrom_eq_error_iff, values?_eq_none_iff, fun e he => ?_⟩
  · have hvalues : call.values? = (Job.nested jobs).values? := values?_retimed _ []
    rw [← hvalues]
    exact outcome_runFrom_eq_ok_iff
  · have hfailures : call.failures = (Job.nested jobs).failures := failures_retimed _ []
    rw [← hfailures]
    exact (outcome_runFrom_eq_error_iff.1 he).exists_mem_failures

end Job

end SwapRouter
