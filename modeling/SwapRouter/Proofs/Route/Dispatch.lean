import SwapRouter.Proofs.LookUp.Malformed
import SwapRouter.Proofs.Route.HopChunks

/-!
# The choice and the function agree

A function of the router is chosen for an order by its forks and its groups, after its protocols were
checked.  The function computes the groups, the encoders and the table of tokens again, and could
meet what was excluded: several groups or a fraction where it wants one group, a protocol without an
encoder, a token that the table does not list.

None of this happens.  The choice and the function group the same swaps in the same way; every
protocol of a group is one of a swap; the table is made of the tokens of the same groups.  Hence the
outcome of a function is that of its other steps, and a failure is one of those.

* `Strategies.FailsAt`: where a function that was chosen can fail.
* `Strategies.failsOnly_encodeFor`: it fails nowhere else.
* `Strategies.agreesWithChoice`: **what was chosen meets none of its own shape and look-up failures**,
  and an order without forks is chosen by the number of its groups.
-/

namespace SwapRouter

/-! ## Failures of one kind -/

namespace Encode

variable {α β : Type} {P : Failure → Prop}

/-- A computation fails, whatever the circumstances, with failures of one kind only. -/
def FailsOnly (x : Encode α) (P : Failure → Prop) : Prop :=
  ∀ c e, x.outcome c = .error e → P e

variable {x : Encode α}

theorem FailsOnly.bind {f : α → Encode β} (hx : x.FailsOnly P)
    (hf : ∀ a, (∃ c, x.outcome c = .ok a) → (f a).FailsOnly P) : (x >>= f).FailsOnly P := by
  intro c e h
  cases hout : x.outcome c with
  | error e' =>
    rw [outcome_bind_of_error hout] at h
    cases h
    exact hx c e hout
  | ok a =>
    obtain ⟨c', hc'⟩ := exists_outcome_bind hout f
    rw [hc'] at h
    exact hf a ⟨c, hout⟩ c' e h

theorem failsOnly_pure (a : α) : (Pure.pure a : Encode α).FailsOnly P := fun _ _ h => by cases h

theorem failsOnly_ofExcept {r : Except Failure α} (h : ∀ e, r = .error e → P e) :
    (ofExcept r).FailsOnly P := fun c e he => h e ((outcome_ofExcept (c := c) r).symm.trans he)

theorem failsOnly_require {r : Except EncodingError α}
    (h : ∀ e, r = .error e → P (.encoding e)) : (require r).FailsOnly P := by
  cases r with
  | error e => exact fun _ _ he => by cases he; exact h e rfl
  | ok a => exact failsOnly_pure a

theorem failsOnly_sideBySide {jobs : List (Encode α)} (h : ∀ job ∈ jobs, job.FailsOnly P) :
    (sideBySide jobs).FailsOnly P := fun _ e he => by
  obtain ⟨job, hjob, c', -, hfailed⟩ := exists_of_outcome_sideBySide_eq_error he
  exact h job hjob c' e hfailed

end Encode

namespace Strategies

variable {t : Strategies} {f : RouterFunction} {order : Order} {router : Address}
  {approvals : Option ApprovalSource} {g : SwapGroup} {p : PlannedGroup}

/-! ## Look-ups -/

/-- Where a function is chosen, every group has an encoder. -/
theorem exists_encoder_of_choose (h : t.choose order = .ok f) (hg : g ∈ t.groupsOf order) :
    ∃ e, t.encoders.get g.protocol = .ok e := by
  have hfirst : g.first ∈ order.swaps := (Route.sublist_of_mem_group hg).subset List.mem_cons_self
  obtain ⟨e, he⟩ := Option.isSome_iff_exists.1 (contains_of_choose h hfirst)
  exact ⟨e, by rw [EncoderRegistry.get, SwapGroup.protocol, he]⟩

/-- The table of an order lists the tokens of its groups. -/
theorem exists_position_of_mem_groupsOf (hg : g ∈ t.groupsOf order) :
    (∃ n, Route.tokenPosition (t.tableOf order) g.tokenIn = .ok n) ∧
      ∃ n, Route.tokenPosition (t.tableOf order) g.tokenOut = .ok n :=
  ⟨Route.exists_tokenPosition_iff.2 (Route.mem_tokenTable hg (Or.inl rfl)),
    Route.exists_tokenPosition_iff.2 (Route.mem_tokenTable hg (Or.inr rfl))⟩

theorem eq_defect_of_fixed {size : ℕ} {n : Int} {e : Failure}
    (h : Wire.fixed size n = .error e) : e = .defect := by
  unfold Wire.fixed at h
  split at h
  · cases h
  · cases h
    rfl

/-- The three fields of a header fail at their width. -/
theorem eq_defect_of_fields {n m : ℕ} {parts : Int} {e : Failure}
    (h : (do
      let inByte ← Wire.fixed 1 n
      let outByte ← Wire.fixed 1 m
      let partBytes ← Wire.fixed 3 parts
      return inByte ++ outByte ++ partBytes : Except Failure Bytes) = .error e) : e = .defect := by
  rcases bind_eq_error_iff.1 h with hin | ⟨_, -, h⟩
  · exact eq_defect_of_fixed hin
  · rcases bind_eq_error_iff.1 h with hout | ⟨_, -, h⟩
    · exact eq_defect_of_fixed hout
    · rcases bind_eq_error_iff.1 h with hparts | ⟨_, -, h⟩
      · exact eq_defect_of_fixed hparts
      · cases h

/-- A header of tokens that have a place fails at a number alone. -/
theorem eq_defect_of_splitHeader {table : List Address} {later : List Swap} {e : Failure}
    (hin : ∃ n, Route.tokenPosition table g.tokenIn = .ok n)
    (hout : ∃ n, Route.tokenPosition table g.tokenOut = .ok n)
    (h : splitHeader table g later = .error e) : e = .defect := by
  obtain ⟨n, hn⟩ := hin
  obtain ⟨m, hm⟩ := hout
  unfold splitHeader at h
  rw [HopHeader.position_eq_ok_iff.2 hn, HopHeader.position_eq_ok_iff.2 hm] at h
  dsimp only at h
  split at h
  · exact eq_defect_of_fields h
  · rcases bind_eq_error_iff.1 h with hparts | ⟨parts, -, h⟩
    · unfold Wire.fractionParts at hparts
      split at hparts
      · cases hparts
      · cases hparts
        rfl
    · exact eq_defect_of_fields h

theorem eq_defect_of_splitHeaders {table : List Address} {groups : List SwapGroup} {e : Failure}
    (hplaces : ∀ g ∈ groups, (∃ n, Route.tokenPosition table g.tokenIn = .ok n) ∧
      ∃ n, Route.tokenPosition table g.tokenOut = .ok n)
    (h : splitHeaders table groups = .error e) : e = .defect := by
  induction groups with
  | nil => cases h
  | cons g groups ih =>
    obtain ⟨⟨hin, hout⟩, hgroups⟩ := List.forall_mem_cons.1 hplaces
    rcases bind_eq_error_iff.1 h with hfirst | ⟨_, -, h⟩
    · exact eq_defect_of_splitHeader hin hout hfirst
    · rcases bind_eq_error_iff.1 h with hothers | ⟨_, -, h⟩
      · exact ih hgroups hothers
      · cases h

/-! ## What is left to fail -/

/-- Where the encoding of an order for a function of the router can fail: a fraction or the path is
wrong, a number does not fit its field in a header, a swap is not encoded or its executor has no
address, a chunk is too long, or there is no permit. -/
inductive FailsAt (t : Strategies) (f : RouterFunction) (order : Order) (router : Address) :
    Failure → Prop
  | fractions {e : EncodingError} (hf : f = .split) (h : Route.checkSplits order.swaps = .error e) :
    FailsAt t f order router (.encoding e)
  | path {e : EncodingError} (h : t.checkPath order = .error e) : FailsAt t f order router (.encoding e)
  | header (hf : f = .split)
    (h : splitHeaders (t.tableOf order) (t.groupsOf order) = .error .defect) :
    FailsAt t f order router .defect
  | swap {s : Swap} {e : SwapEncoder} {context : SwapContext} {c : Circumstances} {failure : Failure}
    (hs : s ∈ order.swaps) (he : t.encoders.get s.protocol = .ok e)
    (h : (e.encode s context).outcome c = .error failure) : FailsAt t f order router failure
  | executor {s : Swap} {e : SwapEncoder} {failure : Failure}
    (hs : s ∈ order.swaps) (he : t.encoders.get s.protocol = .ok e)
    (h : e.executor.fieldBytes "executor address" = .error failure) : FailsAt t f order router failure
  | chunk {n : ℕ} (h : Wire.maxChunk < n) : FailsAt t f order router (.encoding (.chunkTooLong n))
  | permit {c : Circumstances} {failure : Failure}
    (h : (t.signedPermit order router).outcome c = .error failure) : FailsAt t f order router failure

theorem failsAt_of_join {bodies : List Bytes} {e : EncodingError}
    (h : Wire.join bodies = .error e) : FailsAt t f order router (.encoding e) := by
  obtain ⟨-, bs, hbs⟩ | ⟨b, -, hlong, herror⟩ := Wire.join_cases bodies
  · rw [hbs] at h
    cases h
  · rw [herror] at h
    cases h
    exact .chunk hlong

theorem failsAt_of_joinGroup {parts : List Bytes} {e : EncodingError}
    (h : joinGroup parts = .error e) : FailsAt t f order router (.encoding e) := by
  cases parts with
  | nil => cases h
  | cons first later =>
    rcases bind_eq_error_iff.1 h with hjoin | ⟨_, -, h⟩
    · exact failsAt_of_join hjoin
    · cases h

/-- A group whose protocol has an encoder fails at one of its swaps, or at the executor. -/
theorem failsOnly_encodeGroup (hgroup : p.group ∈ t.groupsOf order)
    (hencoder : ∃ e, t.encoders.get p.group.protocol = .ok e) :
    (t.encodeGroup p).FailsOnly (t.FailsAt f order router) := by
  obtain ⟨e, he⟩ := hencoder
  have hswaps : p.group.swaps ⊆ order.swaps := (Route.sublist_of_mem_group hgroup).subset
  have hget : ∀ s ∈ p.group.swaps, t.encoders.get s.protocol = .ok e := fun s hs => by
    rw [Route.protocol_of_mem_group hgroup hs, he]
  unfold encodeGroup
  refine (Encode.failsOnly_require fun e' he' => ?_).bind fun e' ⟨c, he'⟩ => ?_
  · rw [he] at he'
    cases he'
  · rw [Encode.outcome_require_eq_ok_iff, he, Except.ok.injEq] at he'
    subst he'
    have hjobs : ∀ job ∈ p.group.swaps.map fun s => e.encode s p.context,
        job.FailsOnly (t.FailsAt f order router) :=
      List.forall_mem_map.2 fun s hs c failure h => .swap (hswaps hs) (hget s hs) h
    refine (Encode.failsOnly_sideBySide hjobs).bind fun parts _ => ?_
    refine (Encode.failsOnly_require fun e h => failsAt_of_joinGroup h).bind fun data _ => ?_
    have hfirst : p.group.first ∈ p.group.swaps := List.mem_cons_self
    refine (Encode.failsOnly_ofExcept fun failure h =>
      .executor (hswaps hfirst) (hget _ hfirst) h).bind fun executor _ => ?_
    exact Encode.failsOnly_pure _

theorem failsOnly_finish {swaps : Bytes} {count : ℕ} :
    (t.finish f order router swaps count).FailsOnly (t.FailsAt f order router) := by
  intro c e h
  rw [outcome_finish] at h
  cases hsigned : (t.signedPermit order router).outcome c with
  | error failure =>
    rw [hsigned] at h
    cases h
    exact .permit hsigned
  | ok signed =>
    rw [hsigned] at h
    cases h

/-- The groups of a plan of the order, side by side, and what is made of them. -/
theorem failsOnly_joinCalls {plan : List PlannedGroup} {chunksOf : List Bytes → List Bytes} {count : ℕ}
    (hplan : ∀ p ∈ plan, p.group ∈ t.groupsOf order)
    (hencoders : ∀ g ∈ t.groupsOf order, ∃ e, t.encoders.get g.protocol = .ok e) :
    (t.joinCalls f order router plan chunksOf count).FailsOnly (t.FailsAt f order router) := by
  have hjobs : ∀ job ∈ plan.map t.encodeGroup, job.FailsOnly (t.FailsAt f order router) :=
    List.forall_mem_map.2 fun p hp =>
      failsOnly_encodeGroup (hplan p hp) (hencoders p.group (hplan p hp))
  refine (Encode.failsOnly_sideBySide hjobs).bind fun calls _ => ?_
  exact (Encode.failsOnly_require fun e h => failsAt_of_join h).bind fun swaps _ => failsOnly_finish

theorem failsOnly_checkPath : (Encode.require (t.checkPath order)).FailsOnly (t.FailsAt f order router) :=
  Encode.failsOnly_require fun _ h => .path h

/-- **A function that was chosen fails where its steps do**, and nowhere else. -/
theorem failsOnly_encodeFor (h : t.choose order = .ok f) :
    (t.encodeFor f order router approvals).FailsOnly (t.FailsAt f order router) := by
  have hencoders : ∀ g ∈ t.groupsOf order, ∃ e, t.encoders.get g.protocol = .ok e :=
    fun g => exists_encoder_of_choose h
  have hplan : ∀ p ∈ t.planFor f order router approvals, p.group ∈ t.groupsOf order := fun p hp => by
    rw [← map_group_planFor t f order router approvals]
    exact List.mem_map_of_mem hp
  cases f with
  | single =>
    obtain ⟨g, p, hg, -, hp, hsingle⟩ := exists_encodeSingle_of_choose h router approvals
    have hmem : p.group ∈ t.groupsOf order := by
      refine hplan p ?_
      rw [planFor, groupsOf, hg, hp]
      exact List.mem_singleton_self p
    rw [encodeFor, hsingle]
    refine failsOnly_checkPath.bind fun _ _ => ?_
    exact (failsOnly_encodeGroup hmem (hencoders _ hmem)).bind fun swaps _ => failsOnly_finish
  | sequential =>
    rw [encodeFor, encodeSequential_eq]
    exact failsOnly_checkPath.bind fun _ _ => failsOnly_joinCalls hplan hencoders
  | split =>
    rw [encodeFor, encodeSplit_eq]
    refine (Encode.failsOnly_require fun e h => .fractions rfl h).bind fun _ _ => ?_
    refine failsOnly_checkPath.bind fun _ _ => ?_
    refine (Encode.failsOnly_ofExcept fun e h => ?_).bind fun headers _ =>
      failsOnly_joinCalls hplan hencoders
    have hdefect := eq_defect_of_splitHeaders (fun g hg => exists_position_of_mem_groupsOf hg) h
    subst hdefect
    exact .header rfl h

/-! ## Agreement -/

/-- An order that sells a given amount along a line is chosen by the number of its groups. -/
theorem choose_of_line (hout : order.exactOut = false) (hnodup : (order.swaps.map Swap.tokenIn).Nodup)
    (hzero : ∀ s ∈ order.swaps, s.split.isZero = true) :
    t.choose order ≠ .ok .split ∧
      (t.choose order = .ok .single ↔ t.checkProtocols order = .ok () ∧
        Route.checkOrder t.config.chain order = .ok () ∧ (t.groupsOf order).length = 1) := by
  have hfork : Route.hasFork order.swaps = false := Route.hasFork_eq_false_iff.2 ⟨hzero, hnodup⟩
  have hsplit : t.choose order ≠ .ok .split := fun h => by
    rw [(hasFork_iff_of_choose h).2 rfl] at hfork
    cases hfork
  refine ⟨hsplit, ?_, fun ⟨hprotocols, horder, hlen⟩ => ?_⟩
  · intro h
    obtain ⟨g, hg⟩ := exists_group_eq_singleton_of_choose h
    refine ⟨checkProtocols_of_choose h, (checks_of_choose h).1, ?_⟩
    rw [groupsOf, hg, List.length_singleton]
  · -- whatever is chosen is chosen by the groups
    obtain ⟨f, hf⟩ := exists_choose (checkProtocols_eq_ok_iff.1 hprotocols) horder hout
    have hsingle : f = .single := by
      rw [eq_of_choose hf, hfork, if_neg Bool.false_ne_true]
      exact if_pos hlen
    rw [hf, hsingle]

/-- What a choice promises to the function that is chosen, and how an order without forks is chosen. -/
structure AgreesWithChoice (t : Strategies) (order : Order) : Prop where
  /-- The function for one group finds one group, without a fraction, and goes on with it. -/
  oneGroup : t.choose order = .ok .single → ∀ router approvals, ∃ g p,
    t.groupsOf order = [g] ∧ g.split.isZero = true ∧
      t.planFor .single order router approvals = [p] ∧
      t.encodeFor .single order router approvals = (do
        .require (t.checkPath order)
        let swaps ← t.encodeGroup p
        t.finish .single order router swaps 0)
  /-- Every function finds an encoder for each of its groups. -/
  encoders : ∀ f, t.choose order = .ok f → ∀ router approvals,
    ∀ p ∈ t.planFor f order router approvals, ∃ e, t.encoders.get p.group.protocol = .ok e
  /-- The function for forks finds the tokens of its groups in the table. -/
  places : t.choose order = .ok .split → ∀ g ∈ t.groupsOf order,
    (∃ n, Route.tokenPosition (t.tableOf order) g.tokenIn = .ok n) ∧
      ∃ n, Route.tokenPosition (t.tableOf order) g.tokenOut = .ok n
  /-- What is left to fail are the other steps of a function. -/
  failures : ∀ f, t.choose order = .ok f → ∀ router approvals c failure,
    (t.encodeFor f order router approvals).outcome c = .error failure →
      t.FailsAt f order router failure
  /-- Without a fork the number of groups decides. -/
  line : order.exactOut = false → (order.swaps.map Swap.tokenIn).Nodup →
    (∀ s ∈ order.swaps, s.split.isZero = true) →
    t.choose order ≠ .ok .split ∧
      (t.choose order = .ok .single ↔ t.checkProtocols order = .ok () ∧
        Route.checkOrder t.config.chain order = .ok () ∧ (t.groupsOf order).length = 1)

/-- **What was chosen meets none of its own shape and look-up failures**, and an order without forks
is chosen by the number of its groups. -/
theorem agreesWithChoice (t : Strategies) (order : Order) : t.AgreesWithChoice order where
  oneGroup h router approvals := by
    obtain ⟨g, p, hg, hzero, hp, hsingle⟩ := exists_encodeSingle_of_choose h router approvals
    refine ⟨g, p, hg, hzero, ?_, hsingle⟩
    rw [planFor, groupsOf, hg, hp]
  encoders f h router approvals p hp := by
    refine exists_encoder_of_choose h ?_
    rw [← map_group_planFor t f order router approvals]
    exact List.mem_map_of_mem hp
  places _ _ hg := exists_position_of_mem_groupsOf hg
  failures f h router approvals c failure hfailed := failsOnly_encodeFor h c failure hfailed
  line := choose_of_line

end Strategies

end SwapRouter
