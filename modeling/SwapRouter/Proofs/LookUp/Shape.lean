import SwapRouter.Proofs.Batch
import SwapRouter.Proofs.LookUp.Instant
import SwapRouter.Proofs.Route.HopChunks

/-!
# Where approvals are looked up

The encoding of an order looks approvals up in one place only: the swaps of all groups run side by
side, and the encoder of a swap looks at most one approval up.  What stands in front of that look-up is
done at once, and what stands behind it is done at once, too.  So which approvals are looked up does
not depend on what the look-ups come to, and can be read off the order.

`Encode.LooksUp` says of a computation that it is put together like this, and which approvals it looks
up if it succeeds; one that fails may look up fewer of them.  The questions that are asked besides are
of some kind, which the predicate has as a parameter.

* `Encode.LooksUp`: the shape of the computations.
* `SwapEncoder.approvalKey?`, `Strategies.keysOfGroup`, `RouterEncoder.keysOfOrder`: **the approvals of
  a swap, a group and an order.**
* `SwapEncoder.looksUp_encode`, `Strategies.looksUp_encodeFor`, `RouterEncoder.looksUp_encodeOrder`:
  that these are looked up.
-/

namespace SwapRouter

/-! ## The shape of computations -/

namespace Encode

/-- A computation looks up approvals of a source, under these keys if it succeeds, and asks questions of
one kind besides. -/
inductive LooksUp (P : Question → Prop) (approvals : Option ApprovalSource) :
    {α : Type} → List ApprovalKey → Encode α → Prop
  /-- An outcome that is reached at once; only a failure may leave something to look up. -/
  | instant {α : Type} {x : Encode α} {outcome : Except Failure α} {asked : List Question}
    {keys : List ApprovalKey} :
    x.IsInstant outcome asked → (∀ q ∈ asked, P q) → (∀ a, outcome = .ok a → keys = []) →
    LooksUp P approvals keys x
  | lookUp {source : ApprovalSource} {token owner spender : Address} {key : ApprovalKey} :
    approvals = some source → ApprovalKey.ofAddresses token owner spender = .ok key →
    LooksUp P approvals [key] (source.isNeeded token owner spender)
  /-- What is done at once may stand in front. -/
  | after {α β : Type} {x : Encode α} {f : α → Encode β} {a : α} {asked : List Question}
    {keys : List ApprovalKey} :
    x.IsInstant (.ok a) asked → (∀ q ∈ asked, P q) → LooksUp P approvals keys (f a) →
    LooksUp P approvals keys (x >>= f)
  /-- What is done at once may stand behind. -/
  | before {α β : Type} {x : Encode α} {f : α → Encode β} {keys : List ApprovalKey} :
    LooksUp P approvals keys x → (∀ a, (f a).AsksAtOnce P) → LooksUp P approvals keys (x >>= f)
  | sideBySide {α : Type} {jobs : List (List ApprovalKey × Encode α)} :
    (∀ job ∈ jobs, LooksUp P approvals job.1 job.2) →
    LooksUp P approvals (jobs.flatMap Prod.fst) (.sideBySide (jobs.map Prod.snd))

namespace LooksUp

variable {P : Question → Prop} {approvals : Option ApprovalSource} {α β : Type} {x : Encode α}
  {f : α → Encode β} {keys : List ApprovalKey}

theorem fail (e : Failure) : LooksUp P approvals keys (fail e : Encode α) :=
  .instant (isInstant_fail e) (fun _ hq => absurd hq List.not_mem_nil) fun a h => by cases h

theorem atOnce (hx : x.AsksAtOnce P) : LooksUp P approvals [] x := by
  obtain ⟨outcome, asked, hx, hasked⟩ := hx
  exact .instant hx hasked fun _ _ => rfl

/-- After an outcome that is reached at once. -/
theorem instant_bind {outcome : Except Failure α} {asked : List Question}
    (hx : x.IsInstant outcome asked) (hasked : ∀ q ∈ asked, P q)
    (hf : ∀ a, outcome = .ok a → LooksUp P approvals keys (f a)) :
    LooksUp P approvals keys (x >>= f) := by
  cases outcome with
  | error e => exact .instant hx.bind_of_error hasked fun a h => by cases h
  | ok a => exact .after hx hasked (hf a rfl)

theorem atOnce_bind (hx : x.AsksAtOnce P) (hf : ∀ a, LooksUp P approvals keys (f a)) :
    LooksUp P approvals keys (x >>= f) := by
  obtain ⟨outcome, asked, hx, hasked⟩ := hx
  exact instant_bind hx hasked fun a _ => hf a

theorem ofExcept_bind {r : Except Failure α} (hf : ∀ a, r = .ok a → LooksUp P approvals keys (f a)) :
    LooksUp P approvals keys (ofExcept r >>= f) :=
  instant_bind (isInstant_ofExcept r) (fun _ hq => absurd hq List.not_mem_nil) hf

theorem require_bind {r : Except EncodingError α}
    (hf : ∀ a, r = .ok a → LooksUp P approvals keys (f a)) :
    LooksUp P approvals keys (require r >>= f) := by
  cases r with
  | error e => exact fail (.encoding e)
  | ok a => exact .after (isInstant_pure a) (fun _ hq => absurd hq List.not_mem_nil) (hf a rfl)

/-- **The entries of a list side by side.** -/
theorem sideBySide_map {γ : Type} {l : List γ} {keysOf : γ → List ApprovalKey} {job : γ → Encode α}
    (h : ∀ entry ∈ l, LooksUp P approvals (keysOf entry) (job entry)) :
    LooksUp P approvals (l.flatMap keysOf) (Encode.sideBySide (l.map job)) := by
  have hjobs : ∀ pair ∈ l.map fun entry => (keysOf entry, job entry),
      LooksUp P approvals pair.1 pair.2 := by
    intro pair hpair
    obtain ⟨entry, hentry, rfl⟩ := List.mem_map.1 hpair
    exact h entry hentry
  have hwhole := LooksUp.sideBySide hjobs
  rwa [List.flatMap_map, List.map_map] at hwhole

end LooksUp

/-- Addresses that make no key are refused whether approvals are kept or not. -/
theorem isInstant_isNeeded_of_error (source : ApprovalSource) {token owner spender : Address}
    {e : EncodingError} (h : ApprovalKey.ofAddresses token owner spender = .error e) :
    (source.isNeeded token owner spender).IsInstant (.error (.encoding e)) [] := by
  have hnone := source.isInstant_lookUp_of_error h
  have hsome : (require (ApprovalKey.ofAddresses token owner spender) >>= fun key =>
      once key (source.lookUp key.token key.owner key.spender)).IsInstant (.error (.encoding e)) [] := by
    rw [h]
    exact isInstant_fail _
  have hcourse (c : Circumstances) : (source.isNeeded token owner spender).course c =
      if c.known.isSome then
        (require (ApprovalKey.ofAddresses token owner spender) >>= fun key =>
          once key (source.lookUp key.token key.owner key.spender)).course c
      else (source.lookUp token owner spender).course c := rfl
  constructor
  · intro c
    rw [hcourse]
    split
    · exact hsome.outcome c
    · exact hnone.outcome c
  · intro c
    rw [hcourse]
    split
    · exact hsome.ending c
    · exact hnone.ending c
  · intro c signal hsignal
    rw [hcourse]
    split
    · exact hsome.stopped c signal hsignal
    · exact hnone.stopped c signal hsignal

end Encode

variable {P : Question → Prop} {approvals : Option ApprovalSource}

/-! ## Swaps -/

namespace SwapEncoder

variable {e : SwapEncoder} {s : Swap} {context : SwapContext} {setting : String}

/-- The approval that is needed for the spender in a setting, if approvals are looked up and there is
such a spender. -/
def keyFor? (e : SwapEncoder) (s : Swap) (context : SwapContext) (setting : String) :
    Option ApprovalKey :=
  if context.approvals.isSome then
    (e.spender setting).toOption.bind fun spender =>
      (ApprovalKey.ofAddresses s.tokenIn context.holder spender).toOption
  else none

/-- **The approval of a swap**: for the input, from the one who holds it, for the spender of the
family; the native coin of a swap that is priced by quotes needs none. -/
def approvalKey? (e : SwapEncoder) (s : Swap) (context : SwapContext) : Option ApprovalKey :=
  if e.venue = .rfq ∧ s.tokenIn = Address.native then none
  else e.venue.spenderSetting?.bind (e.keyFor? s context)

theorem looksUp_isApprovalNeeded
    (hown : context.approvals = none → ∀ q : Question, q.isApproval = true → P q) :
    Encode.LooksUp P context.approvals (e.keyFor? s context setting).toList
      (e.isApprovalNeeded s context setting) := by
  unfold isApprovalNeeded keyFor?
  cases hsource : context.approvals with
  | some source =>
    refine Encode.LooksUp.ofExcept_bind fun spender hspender => ?_
    rw [Option.isSome_some, if_pos rfl, hspender]
    dsimp only [Except.toOption, Option.bind_some]
    cases hkey : ApprovalKey.ofAddresses s.tokenIn context.holder spender with
    | error failure =>
      exact .instant (Encode.isInstant_isNeeded_of_error source hkey)
        (fun _ hq => absurd hq List.not_mem_nil) fun _ h => by cases h
    | ok key => exact .lookUp rfl hkey
  | none =>
    cases e.approvals with
    | none => exact .atOnce (Encode.asksAtOnce_pure true)
    | some source =>
      refine Encode.LooksUp.ofExcept_bind fun spender _ => .atOnce ?_
      cases hkey : ApprovalKey.ofAddresses s.tokenIn context.holder spender with
      | error failure => exact (source.isInstant_lookUp_of_error hkey).asksAtOnce
      | ok key =>
        exact ⟨_, _, source.isInstant_lookUp hkey, fun q hq =>
          hown hsource q (ApprovalSource.isApproval_of_mem_questions hq)⟩

theorem approvalKey?_of_spenderSetting? (hvenue : e.venue.spenderSetting? = none) :
    e.approvalKey? s context = none := by
  rw [approvalKey?, hvenue, Option.bind_none, ite_self]

/-- **A swap looks its approval up**, if its family has a spender. -/
theorem looksUp_encode (hquote : ∀ name r, P (.quote name r))
    (hown : context.approvals = none → ∀ q : Question, q.isApproval = true → P q) :
    Encode.LooksUp P context.approvals (e.approvalKey? s context).toList (e.encode s context) := by
  have hplain : e.venue.spenderSetting? = none → ∀ r : Except Failure Bytes,
      Encode.LooksUp P context.approvals (e.approvalKey? s context).toList (.ofExcept r) := by
    intro hsetting r
    rw [approvalKey?_of_spenderSetting? hsetting]
    exact .atOnce (Encode.asksAtOnce_ofExcept r)
  unfold encode
  cases hvenue : e.venue with
  | uniswapV2 => exact hplain (by rw [hvenue]; rfl) _
  | uniswapV3 => exact hplain (by rw [hvenue]; rfl) _
  | slipstreams => exact hplain (by rw [hvenue]; rfl) _
  | uniswapV4 => exact hplain (by rw [hvenue]; rfl) _
  | balancerV2 =>
    have hkey : e.approvalKey? s context = e.keyFor? s context "vault_address" := by
      rw [approvalKey?, hvenue, if_neg fun h => by cases h.1]
      rfl
    rw [hkey]
    refine .ofExcept_bind fun tokenIn _ => .ofExcept_bind fun tokenOut _ => ?_
    refine .ofExcept_bind fun receiver _ => .require_bind fun pool _ => ?_
    exact .before (looksUp_isApprovalNeeded hown) fun approval => Encode.asksAtOnce_ofExcept _
  | rfq =>
    have hneeded : Encode.LooksUp P context.approvals (e.approvalKey? s context).toList
        (Rfq.isApprovalNeeded e s context) := by
      rw [Rfq.isApprovalNeeded, approvalKey?, hvenue]
      by_cases hnative : s.tokenIn = Address.native
      · rw [if_pos hnative, if_pos ⟨rfl, hnative⟩]
        exact .atOnce (Encode.asksAtOnce_pure false)
      · rw [if_neg hnative, if_neg fun h => hnative h.2]
        exact looksUp_isApprovalNeeded hown
    dsimp only
    rw [Rfq.encode]
    split
    · exact .fail _
    · split
      · exact .fail _
      · exact .fail _
      · exact .fail _
      · refine .ofExcept_bind fun tokenIn _ => .ofExcept_bind fun tokenOut _ => ?_
        refine .ofExcept_bind fun receiver _ => ?_
        refine .atOnce_bind (QuoteSource.asksAtOnce_request hquote _ _) fun quote => ?_
        split
        · exact .fail _
        · refine .before hneeded fun approval => ?_
          exact (Encode.asksAtOnce_ofExcept _).bind fun amountOut => Encode.asksAtOnce_pure _

end SwapEncoder

/-! ## Groups and orders -/

namespace Strategies

variable {t : Strategies} {order : Order} {router : Address}

/-- **The approvals of a group**, swap by swap. -/
def keysOfGroup (t : Strategies) (p : PlannedGroup) : List ApprovalKey :=
  match t.encoders.get p.group.protocol with
  | .ok e => p.group.swaps.flatMap fun s => (e.approvalKey? s p.context).toList
  | .error _ => []

/-- **The approvals of an order**, group by group. -/
def keysFor (t : Strategies) (f : RouterFunction) (order : Order) (router : Address)
    (approvals : Option ApprovalSource) : List ApprovalKey :=
  (t.planFor f order router approvals).flatMap t.keysOfGroup

theorem looksUp_encodeGroup {p : PlannedGroup} (hquote : ∀ name r, P (.quote name r))
    (hown : p.context.approvals = none → ∀ q : Question, q.isApproval = true → P q) :
    Encode.LooksUp P p.context.approvals (t.keysOfGroup p) (t.encodeGroup p) := by
  unfold encodeGroup keysOfGroup
  refine .require_bind fun e he => ?_
  rw [he]
  refine .before (.sideBySide_map fun s _ => SwapEncoder.looksUp_encode hquote hown) fun parts => ?_
  refine (Encode.asksAtOnce_require _).bind fun data => ?_
  exact (Encode.asksAtOnce_ofExcept _).bind fun executor => Encode.asksAtOnce_pure _

/-- The approvals of a group are looked up where the approvals of its order are. -/
theorem approvals_of_mem_planFor {f : RouterFunction} {p : PlannedGroup}
    (h : p ∈ t.planFor f order router approvals) : p.context.approvals = approvals := by
  have hlinear (groups : List SwapGroup) :
      ∀ p ∈ t.planLinear order router approvals groups, p.context.approvals = approvals := by
    intro p hp
    rw [planLinear, ← List.map_uncurry_zip_eq_zipWith] at hp
    obtain ⟨pair, -, rfl⟩ := List.mem_map.1 hp
    rfl
  cases f with
  | single => exact hlinear _ p h
  | sequential => exact hlinear _ p h
  | split =>
    obtain ⟨g, -, rfl⟩ := List.mem_map.1 h
    rfl

variable (hquote : ∀ name r, P (.quote name r))
  (hown : approvals = none → ∀ q : Question, q.isApproval = true → P q)
  (hfinish : ∀ f swaps count, (t.finish f order router swaps count).AsksAtOnce P)

include hquote hown in
theorem looksUp_encodeGroups {plan : List PlannedGroup}
    (hplan : ∀ p ∈ plan, p.context.approvals = approvals) :
    Encode.LooksUp P approvals (plan.flatMap t.keysOfGroup)
      (.sideBySide (plan.map t.encodeGroup)) :=
  .sideBySide_map fun p hp => by
    have happrovals := hplan p hp
    rw [← happrovals]
    exact looksUp_encodeGroup hquote fun h => hown (happrovals.symm.trans h)

include hquote hown hfinish in
theorem looksUp_joinCalls {f : RouterFunction} {plan : List PlannedGroup}
    (hplan : ∀ p ∈ plan, p.context.approvals = approvals) (chunksOf : List Bytes → List Bytes)
    (count : ℕ) :
    Encode.LooksUp P approvals (plan.flatMap t.keysOfGroup)
      (t.joinCalls f order router plan chunksOf count) :=
  .before (looksUp_encodeGroups hquote hown hplan) fun _ =>
    (Encode.asksAtOnce_require _).bind fun swaps => hfinish f swaps count

include hquote hown hfinish in
/-- **An order looks the approvals of its groups up.** -/
theorem looksUp_encodeFor (f : RouterFunction) :
    Encode.LooksUp P approvals (t.keysFor f order router approvals)
      (t.encodeFor f order router approvals) := by
  cases f with
  | single =>
    unfold encodeFor encodeSingle
    dsimp only
    split
    next g hgroups =>
      split
      · exact .fail _
      · refine .require_bind fun _ _ => ?_
        have hgroupsOf : t.groupsOf order = [g] := hgroups
        have hkeys : t.keysFor .single order router approvals =
            (t.planLinear order router approvals [g]).flatMap t.keysOfGroup := by
          rw [keysFor, planFor, hgroupsOf]
        have hplan : ∀ p ∈ t.planLinear order router approvals [g],
            p.context.approvals = approvals := fun p hp =>
          approvals_of_mem_planFor (t := t) (f := .single) (by rw [planFor, hgroupsOf]; exact hp)
        rw [hkeys]
        split
        next p hp =>
          rw [hp] at hplan ⊢
          have happrovals := hplan p List.mem_cons_self
          rw [List.flatMap_singleton, ← happrovals]
          exact .before (looksUp_encodeGroup hquote fun h => hown (happrovals.symm.trans h))
            fun swaps => hfinish .single swaps 0
        next => exact .fail _
    next => exact .fail _
  | sequential =>
    rw [encodeFor, encodeSequential_eq]
    exact .require_bind fun _ _ =>
      looksUp_joinCalls hquote hown hfinish (fun p hp => approvals_of_mem_planFor hp) id 0
  | split =>
    rw [encodeFor, encodeSplit_eq]
    refine .require_bind fun _ _ => .require_bind fun _ _ => .ofExcept_bind fun headers _ => ?_
    exact looksUp_joinCalls hquote hown hfinish (fun p hp => approvals_of_mem_planFor hp) _ _

end Strategies

/-! ## Calls -/

namespace RouterEncoder

variable {r : RouterEncoder} {order : Order}

/-- **The approvals of an order** for the router and the function that it is encoded for. -/
def keysOfOrder (r : RouterEncoder) (approvals : Option ApprovalSource) (order : Order) :
    List ApprovalKey :=
  match r.routerOf order, r.strategies.choose order with
  | .ok router, .ok f => r.strategies.keysFor f order router approvals
  | _, _ => []

/-- **The approvals of a call**, order by order. -/
def keysOfCall (r : RouterEncoder) (solutions : List Solution) : List ApprovalKey :=
  (solutions.flatMap Solution.orders).flatMap (r.keysOfOrder r.approvals)

theorem looksUp_encodeOrder (hquote : ∀ name r, P (.quote name r))
    (hown : approvals = none → ∀ q : Question, q.isApproval = true → P q)
    (hfinish : ∀ router, r.routerOf order = .ok router →
      ∀ f swaps count, (r.strategies.finish f order router swaps count).AsksAtOnce P) :
    Encode.LooksUp P approvals (r.keysOfOrder approvals order) (r.encodeOrder approvals order) := by
  unfold encodeOrder
  split
  · exact .fail _
  · refine .require_bind fun router hrouter => .ofExcept_bind fun f hf => ?_
    rw [keysOfOrder, hrouter, hf]
    exact .before (Strategies.looksUp_encodeFor hquote hown (hfinish router hrouter) f)
      fun encoded => Encode.asksAtOnce_ofExcept _

/-- **A call looks the approvals of its orders up**, and asks for quotes and reads for permits
besides. -/
theorem looksUp_encodeAligned (solutions : List Solution) (hsource : r.approvals.isSome = true) :
    Encode.LooksUp (fun q => q.isApproval = false) r.approvals (r.keysOfCall solutions)
      (r.encodeAligned solutions) := by
  refine .before (.sideBySide_map fun order _ => ?_) fun transactions => Encode.asksAtOnce_pure _
  refine looksUp_encodeOrder (fun _ _ => rfl) (fun hnone => ?_) fun router _ f swaps count => ?_
  · rw [hnone] at hsource
    cases hsource
  · refine Strategies.asksAtOnce_finish (fun _ signer _ => ?_) f swaps count
    exact signer.asksAtOnce_permit (fun _ _ => rfl) _ _ _ _

end RouterEncoder

end SwapRouter
