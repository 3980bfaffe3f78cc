import SwapRouter.Proofs.LookUp.Events
import SwapRouter.Proofs.Venue.SwapData

/-!
# Which quotes are asked for

A swap that is priced by quotes asks for one quote, and for no other one; the swaps of the other families
ask for none.  An approval is looked up behind the quote, and a permit is made behind all swaps, so
neither of them comes between.  What is done in front of a request is done at once.

A computation that succeeds has come to the end of all its parts, and has asked what each of them asks:
one part after the other, and where parts run side by side, in the order of the list.  So the quotes that
a call asks for, if it succeeds, can be read off its orders swap by swap.  A call that fails may have
asked for fewer of them.

* `Question.isQuote`: the questions for quotes.
* `Encode.AsksQuotes`: a computation that succeeds asks for these quotes.
* `SwapEncoder.quotesOf`, `Strategies.quotesOfGroup`, `RouterEncoder.quotesOfOrder`: **the quotes of a
  swap, a group and an order.**
* `SwapEncoder.asksQuotes_encode`, `Strategies.asksQuotes_encodeFor`, `RouterEncoder.asksQuotes_encodeOrder`,
  `RouterEncoder.asksQuotes_encodeAligned`: that these are asked for.
-/

namespace SwapRouter

open Event

/-- A question for a quote. -/
def Question.isQuote : Question → Bool
  | .quote _ _ => true
  | .approval _ | .read _ _ _ => false

theorem Question.isQuote_of_isApproval {q : Question} (h : q.isApproval = true) : q.isQuote = false := by
  cases q with
  | quote source request => cases h
  | approval key => rfl
  | read purpose contract data => rfl

/-- What is asked for a request. -/
def QuoteSource.question (source : QuoteSource) (r : QuoteRequest) : Question :=
  match source with
  | .prepared name _ => .quote (some name) r
  | .service _ => .quote none r

/-! ## The shape of computations -/

namespace Encode

variable {α β : Type} {x : Encode α} {f : α → Encode β} {qs qs' : List Question}
  {approvals : Option ApprovalSource} {keys : List ApprovalKey}

/-- If a computation succeeds, then these are the questions for quotes that it asks. -/
def AsksQuotes (qs : List Question) (x : Encode α) : Prop :=
  ∀ c a, x.outcome c = .ok a → (questions (x.askedIf c none)).filter Question.isQuote = qs

theorem asksQuotes_fail (e : Failure) : (fail e : Encode α).AsksQuotes qs := by
  intro c a h
  cases h

/-- What is asked by a computation that comes to its outcome at once. -/
theorem questions_askedIf_of_isInstant {outcome : Except Failure α} {asked : List Question}
    (hx : x.IsInstant outcome asked) (c : Circumstances) : questions (x.askedIf c none) = asked := by
  have hnever : ¬ ∃ s ∈ (none : Option Moment), s.before c.now = true := by
    rintro ⟨s, hs, -⟩
    exact Option.not_mem_none s hs
  rw [hx.askedIf, if_neg hnever, questions_asked]

theorem IsInstant.asksQuotes {outcome : Except Failure α} {asked : List Question}
    (hx : x.IsInstant outcome asked) : x.AsksQuotes (asked.filter Question.isQuote) := by
  intro c a _
  rw [questions_askedIf_of_isInstant hx]

theorem asksQuotes_pure (a : α) : (Pure.pure a : Encode α).AsksQuotes [] :=
  (isInstant_pure a).asksQuotes

theorem asksQuotes_ofExcept (r : Except Failure α) : (ofExcept r).AsksQuotes [] :=
  (isInstant_ofExcept r).asksQuotes

theorem asksQuotes_require (r : Except EncodingError α) : (require r).AsksQuotes [] :=
  (isInstant_require r).asksQuotes

/-- Where nothing but approvals is looked up, no quote is asked for. -/
theorem LooksUp.asksQuotes (hx : LooksUp (fun q => q.isQuote = false) approvals keys x) :
    x.AsksQuotes [] := by
  intro c a _
  rw [List.filter_eq_nil_iff]
  intro q hq
  rcases hx.isApproval_of_mem (mem_questions_iff.1 hq) with hother | happroval
  · exact Bool.eq_false_iff.1 hother
  · exact Bool.eq_false_iff.1 (Question.isQuote_of_isApproval happroval)

theorem AsksAtOnce.asksQuotes (hx : x.AsksAtOnce fun q => q.isQuote = false) : x.AsksQuotes [] :=
  (LooksUp.atOnce hx : LooksUp _ none [] x).asksQuotes

/-- **One computation after another one** asks what both of them ask. -/
theorem AsksQuotes.bind (hx : x.AsksQuotes qs)
    (hf : ∀ a, (∃ c, x.outcome c = .ok a) → (f a).AsksQuotes qs') :
    (x >>= f).AsksQuotes (qs ++ qs') := by
  intro c b h
  obtain ⟨a, ha, hb⟩ := outcome_bind_eq_ok_iff.1 h
  have hbehind : (f a).outcome (c.movedTo (x.course c).ending.moment) = .ok b :=
    (outcome_eq_ok_iff_of_known (Circumstances.known_movedTo c _)).2 hb
  have hasked : (x >>= f).askedIf c none =
      x.askedIf c none ++ (f a).askedIf (c.movedTo (x.course c).ending.moment) none := by
    rw [askedIf, bind_of_ok ha]
    rfl
  rw [hasked, questions_append, List.filter_append, hx c a ha, hf a ⟨c, ha⟩ _ b hbehind]

theorem AsksQuotes.bind_silent (hx : x.AsksQuotes qs) (hf : ∀ a, (f a).AsksQuotes []) :
    (x >>= f).AsksQuotes qs := by
  rw [← List.append_nil qs]
  exact hx.bind fun a _ => hf a

theorem asksQuotes_ofExcept_bind {r : Except Failure α} (hf : ∀ a, r = .ok a → (f a).AsksQuotes qs) :
    (ofExcept r >>= f).AsksQuotes qs :=
  (asksQuotes_ofExcept r).bind fun a ⟨_, ha⟩ => hf a ((outcome_ofExcept r).symm.trans ha)

theorem asksQuotes_require_bind {r : Except EncodingError α}
    (hf : ∀ a, r = .ok a → (f a).AsksQuotes qs) : (require r >>= f).AsksQuotes qs :=
  (asksQuotes_require r).bind fun a ⟨_, ha⟩ => hf a (outcome_require_eq_ok_iff.1 ha)

/-- **The entries of a list side by side** ask what each of them asks. -/
theorem asksQuotes_sideBySide_map {γ : Type} {l : List γ} {quotesOf : γ → List Question}
    {job : γ → Encode α} (h : ∀ entry ∈ l, (job entry).AsksQuotes (quotesOf entry)) :
    (sideBySide (l.map job)).AsksQuotes (l.flatMap quotesOf) := by
  intro c values hok
  exact Encode.filter_questions_sideBySide hok fun entry hentry _ a ha => h entry hentry _ a ha

end Encode

/-! ## Swaps -/

/-- A request asks its source, and that is all. -/
theorem QuoteSource.asksQuotes_request (source : QuoteSource) (r : QuoteRequest) :
    (source.request r).AsksQuotes [source.question r] := by
  cases source with
  | prepared name book =>
    exact (Encode.isInstant_ask _).asksQuotes.bind_silent fun _ => Encode.asksQuotes_ofExcept _
  | service service =>
    exact (Encode.isInstant_ask _).asksQuotes.bind_silent fun _ => Encode.asksQuotes_ofExcept _

namespace SwapEncoder

variable {e : SwapEncoder} {s : Swap} {context : SwapContext}

/-- **The quotes of a swap**: the one that is asked for it if it is priced by quotes. -/
def quotesOf (e : SwapEncoder) (s : Swap) (context : SwapContext) : List Question :=
  if e.venue = .rfq then
    ((Rfq.request? e s context).map fun (source, request) => source.question request).toList
  else []

theorem quotesOf_of_ne (h : e.venue ≠ .rfq) : e.quotesOf s context = [] := if_neg h

theorem asksQuotes_isApprovalNeeded (setting : String) :
    (e.isApprovalNeeded s context setting).AsksQuotes [] :=
  Encode.LooksUp.asksQuotes (looksUp_isApprovalNeeded fun _ _ hq => Question.isQuote_of_isApproval hq)

theorem asksQuotes_encodeRfq (hvenue : e.venue = .rfq) :
    (Rfq.encode e s context).AsksQuotes (e.quotesOf s context) := by
  have happroval : (Rfq.isApprovalNeeded e s context).AsksQuotes [] := by
    rw [Rfq.isApprovalNeeded]
    split
    · exact Encode.asksQuotes_pure false
    · exact asksQuotes_isApprovalNeeded _
  unfold Rfq.encode
  split
  · exact Encode.asksQuotes_fail _
  · split
    · exact Encode.asksQuotes_fail _
    · exact Encode.asksQuotes_fail _
    · exact Encode.asksQuotes_fail _
    next source router amount hsource hrouter hamount =>
      have hquotes : e.quotesOf s context =
          [source.question (Rfq.request s context router amount)] := by
        rw [quotesOf, if_pos hvenue,
          Rfq.request?_eq_some_iff.2 ⟨router, amount, hsource, hrouter, hamount, rfl⟩]
        rfl
      rw [hquotes]
      refine Encode.asksQuotes_ofExcept_bind fun tokenIn _ => ?_
      refine Encode.asksQuotes_ofExcept_bind fun tokenOut _ => ?_
      refine Encode.asksQuotes_ofExcept_bind fun receiver _ => ?_
      refine (source.asksQuotes_request _).bind_silent fun quote => ?_
      split
      · exact Encode.asksQuotes_fail _
      · refine happroval.bind_silent fun approval => ?_
        exact (Encode.asksQuotes_ofExcept _).bind_silent fun amountOut => Encode.asksQuotes_pure _

/-- **A swap asks for its quote.** -/
theorem asksQuotes_encode : (e.encode s context).AsksQuotes (e.quotesOf s context) := by
  unfold encode
  cases hvenue : e.venue with
  | rfq => exact asksQuotes_encodeRfq hvenue
  | balancerV2 =>
    rw [quotesOf_of_ne (by rw [hvenue]; decide)]
    refine Encode.asksQuotes_ofExcept_bind fun tokenIn _ => ?_
    refine Encode.asksQuotes_ofExcept_bind fun tokenOut _ => ?_
    refine Encode.asksQuotes_ofExcept_bind fun receiver _ => ?_
    refine Encode.asksQuotes_require_bind fun pool _ => ?_
    exact (asksQuotes_isApprovalNeeded _).bind_silent fun approval => Encode.asksQuotes_ofExcept _
  | uniswapV2 | uniswapV3 | slipstreams | uniswapV4 =>
    rw [quotesOf_of_ne (by rw [hvenue]; decide)]
    exact Encode.asksQuotes_ofExcept _

end SwapEncoder

/-! ## Groups and orders -/

namespace Strategies

variable {t : Strategies} {order : Order} {router : Address} {approvals : Option ApprovalSource}

/-- **The quotes of a group**, swap by swap. -/
def quotesOfGroup (t : Strategies) (p : PlannedGroup) : List Question :=
  match t.encoders.get p.group.protocol with
  | .ok e => p.group.swaps.flatMap fun s => e.quotesOf s p.context
  | .error _ => []

/-- **The quotes of an order**, group by group. -/
def quotesFor (t : Strategies) (f : RouterFunction) (order : Order) (router : Address)
    (approvals : Option ApprovalSource) : List Question :=
  (t.planFor f order router approvals).flatMap t.quotesOfGroup

theorem asksQuotes_encodeGroup (p : PlannedGroup) : (t.encodeGroup p).AsksQuotes (t.quotesOfGroup p) := by
  unfold encodeGroup quotesOfGroup
  refine Encode.asksQuotes_require_bind fun e he => ?_
  rw [he]
  refine (Encode.asksQuotes_sideBySide_map fun s _ => SwapEncoder.asksQuotes_encode).bind_silent
    fun parts => ?_
  refine (Encode.asksQuotes_require _).bind_silent fun data => ?_
  exact (Encode.asksQuotes_ofExcept _).bind_silent fun executor => Encode.asksQuotes_pure _

theorem asksQuotes_finish (f : RouterFunction) (swaps : Bytes) (count : ℕ) :
    (t.finish f order router swaps count).AsksQuotes [] :=
  Encode.AsksAtOnce.asksQuotes <| asksAtOnce_finish
    (fun _ signer _ => signer.asksAtOnce_permit (fun _ _ => rfl) _ _ _ _) f swaps count

theorem asksQuotes_joinCalls {f : RouterFunction} (plan : List PlannedGroup)
    (chunksOf : List Bytes → List Bytes) (count : ℕ) :
    (t.joinCalls f order router plan chunksOf count).AsksQuotes (plan.flatMap t.quotesOfGroup) :=
  (Encode.asksQuotes_sideBySide_map fun p _ => asksQuotes_encodeGroup p).bind_silent fun _ =>
    (Encode.asksQuotes_require _).bind_silent fun swaps => asksQuotes_finish f swaps count

/-- **An order asks for the quotes of its groups.** -/
theorem asksQuotes_encodeFor (f : RouterFunction) :
    (t.encodeFor f order router approvals).AsksQuotes (t.quotesFor f order router approvals) := by
  cases f with
  | single =>
    unfold encodeFor encodeSingle
    dsimp only
    split
    next g hgroups =>
      split
      · exact Encode.asksQuotes_fail _
      · refine Encode.asksQuotes_require_bind fun _ _ => ?_
        have hgroupsOf : t.groupsOf order = [g] := hgroups
        have hquotes : t.quotesFor .single order router approvals =
            (t.planLinear order router approvals [g]).flatMap t.quotesOfGroup := by
          rw [quotesFor, planFor, hgroupsOf]
        rw [hquotes]
        split
        next p hp =>
          rw [hp, List.flatMap_singleton]
          exact (asksQuotes_encodeGroup p).bind_silent fun swaps => asksQuotes_finish .single swaps 0
        next => exact Encode.asksQuotes_fail _
    next => exact Encode.asksQuotes_fail _
  | sequential =>
    rw [encodeFor, encodeSequential_eq]
    exact Encode.asksQuotes_require_bind fun _ _ => asksQuotes_joinCalls _ id 0
  | split =>
    rw [encodeFor, encodeSplit_eq]
    refine Encode.asksQuotes_require_bind fun _ _ => Encode.asksQuotes_require_bind fun _ _ => ?_
    exact Encode.asksQuotes_ofExcept_bind fun headers _ => asksQuotes_joinCalls _ _ _

end Strategies

/-! ## Calls -/

namespace RouterEncoder

variable {r : RouterEncoder} {order : Order} {approvals : Option ApprovalSource}

/-- **The quotes of an order** for the router and the function that it is encoded for. -/
def quotesOfOrder (r : RouterEncoder) (approvals : Option ApprovalSource) (order : Order) :
    List Question :=
  match r.routerOf order, r.strategies.choose order with
  | .ok router, .ok f => r.strategies.quotesFor f order router approvals
  | _, _ => []

/-- **The quotes of a call**, order by order. -/
def quotesOfCall (r : RouterEncoder) (solutions : List Solution) : List Question :=
  (solutions.flatMap Solution.orders).flatMap (r.quotesOfOrder r.approvals)

theorem asksQuotes_encodeOrder :
    (r.encodeOrder approvals order).AsksQuotes (r.quotesOfOrder approvals order) := by
  unfold encodeOrder
  split
  · exact Encode.asksQuotes_fail _
  · refine Encode.asksQuotes_require_bind fun router hrouter => ?_
    refine Encode.asksQuotes_ofExcept_bind fun f hf => ?_
    rw [quotesOfOrder, hrouter, hf]
    exact (Strategies.asksQuotes_encodeFor f).bind_silent fun encoded => Encode.asksQuotes_ofExcept _

/-- **A call asks for the quotes of its orders**, each of them as often as an order needs it. -/
theorem asksQuotes_encodeAligned (solutions : List Solution) :
    (r.encodeAligned solutions).AsksQuotes (r.quotesOfCall solutions) :=
  (Encode.asksQuotes_sideBySide_map fun _ _ => asksQuotes_encodeOrder).bind_silent fun _ =>
    Encode.asksQuotes_pure _

end RouterEncoder

end SwapRouter
