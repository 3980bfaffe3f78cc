import SwapRouter.Proofs.LookUp.Ending
import SwapRouter.Proofs.LookUp.NormalForm
import SwapRouter.Strategy

/-!
# Computations that come to an outcome at once

Nothing takes time but waiting for jobs and for look-ups that are shared.  Whatever else is done comes
to its outcome where it starts, having asked its questions there: the outcome and the questions depend
on no circumstances, and a signal stops it either before all of that or not at all.

One look-up that nobody shares is of this kind, too.  What a source answers to a key, and what is asked
on the way, is `ApprovalSource.answer` and `ApprovalSource.questions`.

* `Encode.IsInstant`: an outcome and questions that are reached at once.
* `Encode.AsksAtOnce`: the same where only the kind of the questions matters.
* `ApprovalSource.isInstant_lookUp`: **a look-up of its own.**
-/

namespace SwapRouter

variable {α β : Type}

namespace Encode

variable {x : Encode α} {f : α → Encode β} {outcome : Except Failure α}
  {outcome' : Except Failure β} {asked asked' : List Question} {c : Circumstances}
  {signal : Option Moment}

/-! ## Outcomes that are reached at once -/

/-- A computation comes to an outcome where it starts, and asks some questions there. -/
structure IsInstant (x : Encode α) (outcome : Except Failure α) (asked : List Question) : Prop where
  outcome : ∀ c, (x.course c).outcome = outcome
  ending : ∀ c, (x.course c).ending = ⟨c.now, asked.map .asked⟩
  stopped : ∀ c signal, signal.before c.now = true → (x.course c).stopped signal = ⟨c.now, []⟩

theorem isInstant_pure (a : α) : (Pure.pure a : Encode α).IsInstant (.ok a) [] :=
  ⟨fun _ => rfl, fun _ => rfl, fun _ _ _ => rfl⟩

theorem isInstant_fail (e : Failure) : (fail e : Encode α).IsInstant (.error e) [] :=
  ⟨fun _ => rfl, fun _ => rfl, fun _ _ _ => rfl⟩

theorem isInstant_ask (q : Question) : (ask q).IsInstant (.ok ()) [q] :=
  ⟨fun _ => rfl, fun _ => rfl, fun _ _ _ => rfl⟩

theorem isInstant_ofExcept (r : Except Failure α) : (ofExcept r).IsInstant r [] := by
  cases r with
  | error e => exact isInstant_fail e
  | ok a => exact isInstant_pure a

theorem isInstant_require (r : Except EncodingError α) :
    (require r).IsInstant (r.mapError .encoding) [] := by
  cases r with
  | error e => exact isInstant_fail _
  | ok a => exact isInstant_pure a

/-- Where a computation is at once, the one behind it starts in the same circumstances. -/
theorem IsInstant.movedTo (hx : x.IsInstant outcome asked) (c : Circumstances) :
    c.movedTo (x.course c).ending.moment = c := by
  rw [hx.ending]
  rfl

theorem IsInstant.bind_of_error {e : Failure} (hx : x.IsInstant (.error e) asked) :
    (x >>= f).IsInstant (.error e) asked where
  outcome c := by rw [Encode.bind_of_error (hx.outcome c)]; rfl
  ending c := by rw [Encode.bind_of_error (hx.outcome c)]; exact hx.ending c
  stopped c signal h := by rw [Encode.bind_of_error (hx.outcome c)]; exact hx.stopped c signal h

theorem IsInstant.bind_of_ok {a : α} (hx : x.IsInstant (.ok a) asked)
    (hf : (f a).IsInstant outcome' asked') : (x >>= f).IsInstant outcome' (asked ++ asked') where
  outcome c := by
    rw [Encode.bind_of_ok (hx.outcome c)]
    exact hf.outcome _
  ending c := by
    rw [Encode.bind_of_ok (hx.outcome c), hx.movedTo, Course.followedBy, hx.ending, hf.ending,
      List.map_append]
  stopped c signal h := by
    rw [Encode.bind_of_ok (hx.outcome c), Course.followedBy]
    dsimp only
    rw [hx.ending, if_pos h]
    exact hx.stopped c signal h

/-- After a computation that asks nothing, what the second one asks is all that is asked. -/
theorem IsInstant.bind_of_silent {a : α} (hx : x.IsInstant (.ok a) [])
    (hf : (f a).IsInstant outcome' asked') : (x >>= f).IsInstant outcome' asked' :=
  hx.bind_of_ok hf

/-- A computation that asks nothing more goes on with the outcome of the first one. -/
theorem IsInstant.bind_silent {g : α → Except Failure β} (hx : x.IsInstant outcome asked)
    (hf : ∀ a, (f a).IsInstant (g a) []) : (x >>= f).IsInstant (outcome >>= g) asked := by
  cases outcome with
  | error e => exact hx.bind_of_error
  | ok a =>
    have hwhole := hx.bind_of_ok (hf a)
    rwa [List.append_nil] at hwhole

/-- What is asked by the end of such a computation under a signal. -/
theorem IsInstant.endingIf (hx : x.IsInstant outcome asked) (c : Circumstances)
    (signal : Option Moment) :
    (x.course c).endingIf signal =
      if ∃ s ∈ signal, s.before c.now = true then ⟨c.now, []⟩ else ⟨c.now, asked.map .asked⟩ := by
  by_cases h : ∃ s ∈ signal, s.before c.now = true
  · obtain ⟨s, rfl, hs⟩ := h
    have hend : s.before (x.course c).ending.moment = true := by rwa [hx.ending]
    rw [if_pos ⟨s, rfl, hs⟩, Course.endingIf_of_before hend, hx.stopped c s hs]
  · rw [if_neg h, Course.endingIf_of_late, hx.ending]
    intro s hs
    rw [hx.ending]
    exact Bool.eq_false_iff.2 fun hbefore => h ⟨s, hs, hbefore⟩

/-! ## Questions of a kind -/

variable {P : Question → Prop}

/-- A computation comes to some outcome at once, and asks questions of one kind only. -/
def AsksAtOnce (P : Question → Prop) (x : Encode α) : Prop :=
  ∃ outcome asked, x.IsInstant outcome asked ∧ ∀ q ∈ asked, P q

theorem IsInstant.asksAtOnce (hx : x.IsInstant outcome []) : x.AsksAtOnce P :=
  ⟨outcome, [], hx, fun _ hq => absurd hq List.not_mem_nil⟩

theorem asksAtOnce_pure (a : α) : (Pure.pure a : Encode α).AsksAtOnce P :=
  (isInstant_pure a).asksAtOnce

theorem asksAtOnce_fail (e : Failure) : (fail e : Encode α).AsksAtOnce P :=
  (isInstant_fail e).asksAtOnce

theorem asksAtOnce_ofExcept (r : Except Failure α) : (ofExcept r).AsksAtOnce P :=
  (isInstant_ofExcept r).asksAtOnce

theorem asksAtOnce_require (r : Except EncodingError α) : (require r).AsksAtOnce P :=
  (isInstant_require r).asksAtOnce

theorem asksAtOnce_ask {q : Question} (hq : P q) : (ask q).AsksAtOnce P :=
  ⟨_, [q], isInstant_ask q, List.forall_mem_singleton.2 hq⟩

theorem AsksAtOnce.bind (hx : x.AsksAtOnce P) (hf : ∀ a, (f a).AsksAtOnce P) :
    (x >>= f).AsksAtOnce P := by
  obtain ⟨outcome, asked, hx, hasked⟩ := hx
  cases outcome with
  | error e => exact ⟨_, asked, hx.bind_of_error, hasked⟩
  | ok a =>
    obtain ⟨outcome', asked', hfa, hasked'⟩ := hf a
    exact ⟨outcome', asked ++ asked', hx.bind_of_ok hfa, List.forall_mem_append.2 ⟨hasked, hasked'⟩⟩

end Encode

/-! ## Quotes and permits -/

/-- A request for a quote is answered at once. -/
theorem QuoteSource.asksAtOnce_request {P : Question → Prop} (hP : ∀ name r, P (.quote name r))
    (source : QuoteSource) (r : QuoteRequest) : (source.request r).AsksAtOnce P := by
  cases source with
  | prepared name book =>
    exact (Encode.asksAtOnce_ask (hP _ r)).bind fun _ => Encode.asksAtOnce_ofExcept _
  | service s => exact (Encode.asksAtOnce_ask (hP _ r)).bind fun _ => Encode.asksAtOnce_ofExcept _

/-- A permit is had at once, with a read of the chain for it at most. -/
theorem Signer.asksAtOnce_permit {P : Question → Prop} (hP : ∀ contract data, P (.read .permit contract data))
    (s : Signer) (spender owner token : Address) (amount : ℤ) :
    (s.permit spender owner token amount).AsksAtOnce P := by
  have hnonce : (s.nonce owner.normal token spender).AsksAtOnce P := by
    unfold Signer.nonce
    cases s.reader with
    | none => exact Encode.asksAtOnce_fail _
    | some reader =>
      refine (Encode.asksAtOnce_ofExcept _).bind fun data => ?_
      refine (Encode.asksAtOnce_ask (hP _ data)).bind fun _ => ?_
      exact (Encode.asksAtOnce_ofExcept _).bind fun response => Encode.asksAtOnce_ofExcept _
  unfold Signer.permit
  split
  · exact Encode.asksAtOnce_fail _
  · split
    · exact Encode.asksAtOnce_fail _
    · refine hnonce.bind fun nonce => ?_
      exact (Encode.asksAtOnce_ofExcept _).bind fun start => Encode.asksAtOnce_pure _

/-- **An order is finished at once**, if its permit is had at once. -/
theorem Strategies.asksAtOnce_finish {P : Question → Prop} {t : Strategies} {order : Order}
    {router : Address}
    (hpermit : t.usesPermit order = true → ∀ signer, t.signer = some signer →
      (signer.permit router order.sender order.givenToken order.givenAmount.toNat).AsksAtOnce P)
    (f : RouterFunction) (swaps : Bytes) (count : ℕ) :
    (t.finish f order router swaps count).AsksAtOnce P := by
  unfold Strategies.finish
  cases huses : t.usesPermit order with
  | false => exact Encode.asksAtOnce_pure _
  | true =>
    rw [if_pos rfl]
    cases hsigner : t.signer with
    | none => exact Encode.asksAtOnce_pure _
    | some signer =>
      refine (hpermit huses signer hsigner).bind fun permit => ?_
      exact (Encode.asksAtOnce_ofExcept _).bind fun signature => Encode.asksAtOnce_pure _

/-! ## Look-ups of one's own -/

/-- A question by which an approval is looked up. -/
def Question.isApproval : Question → Bool
  | .approval _ | .read .approval _ _ => true
  | .quote _ _ | .read .permit _ _ => false

namespace ApprovalSource

variable {source : ApprovalSource} {token owner spender : Address} {key : ApprovalKey}

/-- What a source answers to a key. -/
def answer (source : ApprovalSource) (key : ApprovalKey) : Except Failure Bool :=
  match source with
  | .answers answer => answer key
  | .onChain reader => do
    let data ← Allowance.callData key.owner key.spender
    let response ← reader key.token data
    let allowance ← Allowance.ofResponse key.token response
    return allowance < Allowance.bound

/-- What is asked when a key is looked up. -/
def questions (source : ApprovalSource) (key : ApprovalKey) : List Question :=
  match source with
  | .answers _ => [.approval key]
  | .onChain _ =>
    match Allowance.callData key.owner key.spender with
    | .ok data => [.read .approval key.token data]
    | .error _ => []

theorem isApproval_of_mem_questions {q : Question} (h : q ∈ source.questions key) :
    q.isApproval = true := by
  cases source with
  | answers answer =>
    obtain rfl := List.mem_singleton.1 h
    rfl
  | onChain reader =>
    rw [questions] at h
    cases hdata : Allowance.callData key.owner key.spender with
    | error e =>
      rw [hdata] at h
      exact absurd h List.not_mem_nil
    | ok data =>
      rw [hdata] at h
      obtain rfl := List.mem_singleton.1 h
      rfl

/-- **A look-up of its own** comes to the answer of the source, and asks for it. -/
theorem isInstant_lookUp (source : ApprovalSource)
    (h : ApprovalKey.ofAddresses token owner spender = .ok key) :
    (source.lookUp token owner spender).IsInstant (source.answer key) (source.questions key) := by
  have hkey : (Encode.require (ApprovalKey.ofAddresses token owner spender)).IsInstant (.ok key) [] := by
    rw [h]
    exact Encode.isInstant_require (.ok key)
  cases source with
  | answers answer =>
    exact hkey.bind_of_ok ((Encode.isInstant_ask _).bind_of_ok (Encode.isInstant_ofExcept _))
  | onChain reader =>
    have hread : (Allowance.read reader token owner spender).IsInstant (do
        let data ← Allowance.callData key.owner key.spender
        let response ← reader key.token data
        Allowance.ofResponse key.token response) (questions (.onChain reader) key) := by
      refine hkey.bind_of_silent ?_
      rw [questions]
      cases Allowance.callData key.owner key.spender with
      | error e => exact (Encode.isInstant_ofExcept (.error e)).bind_of_error
      | ok data =>
        have hresponse := (Encode.isInstant_ofExcept (reader key.token data)).bind_silent
          fun response => Encode.isInstant_ofExcept (Allowance.ofResponse key.token response)
        refine (Encode.isInstant_ofExcept (.ok data)).bind_of_silent ?_
        exact (Encode.isInstant_ask _).bind_of_ok hresponse
    have hanswer : answer (.onChain reader) key = (do
        let data ← Allowance.callData key.owner key.spender
        let response ← reader key.token data
        Allowance.ofResponse key.token response) >>= fun allowance =>
          Except.ok (decide (allowance < Allowance.bound)) := by
      rw [answer, bind_assoc]
      refine bind_congr fun data => ?_
      rw [bind_assoc]
      rfl
    rw [hanswer]
    exact hread.bind_silent fun allowance => Encode.isInstant_pure _

/-- Addresses that make no key are refused, and nothing is asked. -/
theorem isInstant_lookUp_of_error (source : ApprovalSource) {e : EncodingError}
    (h : ApprovalKey.ofAddresses token owner spender = .error e) :
    (source.lookUp token owner spender).IsInstant (.error (.encoding e)) [] := by
  have hkey : (Encode.require (ApprovalKey.ofAddresses token owner spender)).IsInstant
      (.error (.encoding e)) [] := by
    rw [h]
    exact Encode.isInstant_require (.error e)
  cases source with
  | answers answer => exact hkey.bind_of_error
  | onChain reader => exact (hkey.bind_of_error (f := fun key => _)).bind_of_error

end ApprovalSource

end SwapRouter
