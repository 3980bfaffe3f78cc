import SwapRouter.Address
import SwapRouter.Course

/-!
# Asking the outside

An encoding asks quote services, approval sources and the chain.  What they answer are
functions of what is asked.  A session keeps the approvals already looked up, and the
record of what has been asked.

`Encode` is a computation that takes a course, so that computations can run side by side:
one that fails stops the others, and what these have asked by then is part of the record.
`Encode.bind_of_ok` and `Encode.bind_of_error` say how a computation goes on after
another one.

## Look-ups that are shared

Where approvals are kept, a look-up is a job of its own: it asks one turn later than the
computation that has it begin, and whoever waits for it goes on in the turn after that.
A computation that needs the same approval later joins it, and does not wait if it is over.
When a computation goes on thus depends on what others have looked up, and with it which of
several failures comes first.  What it succeeds with does not: that is `Encode.steady`, and
every computation carries the proof of it.

A computation alone does not know what the others look up.  `Encode.together` therefore lets
it run twice: the first time every look-up begins where it is needed, and the first beginning
of each is put down for the second time.
-/

namespace SwapRouter

/-- Which approval is asked for: the token, who owns it and who spends it, all of them
in their normal forms. -/
structure ApprovalKey where
  token : Address
  owner : Address
  spender : Address
  deriving DecidableEq, Repr

/-- What a signed quote is asked for. -/
structure QuoteRequest where
  tokenIn : Address
  tokenOut : Address
  amountIn : Int
  sender : Address
  receiver : Address
  deriving DecidableEq, Repr

/-- What the chain is read for. -/
inductive Purpose where
  | approval
  | permit
  deriving DecidableEq, Repr

/-- A question that was asked. -/
inductive Question where
  /-- A quote is asked for; prepared quotes have a name. -/
  | quote (source : Option String) (request : QuoteRequest)
  | approval (key : ApprovalKey)
  | read (purpose : Purpose) (contract : Address) (data : Bytes)
  deriving DecidableEq, Repr

/-- What is put down while encodings run. -/
inductive Event where
  | asked (question : Question)
  /-- A look-up that others can join begins at a moment; this is its outcome. -/
  | lookUp (key : ApprovalKey) (moment : Moment) (outcome : Except Failure Bool)

/-- The approvals already looked up, in the order of their first look-up; nothing if they
are not kept. -/
abbrev KnownApprovals := Option (List (ApprovalKey × Except Failure Bool))

/-- What is kept while encodings run. -/
structure Session where
  known : KnownApprovals := none
  /-- What has been asked, in this order. -/
  asked : List Question := []

/-- A session after some events. -/
def Session.after (s : Session) (events : List Event) : Session where
  known := s.known.map (· ++ events.filterMap fun
    | .lookUp key _ outcome => some (key, outcome)
    | .asked _ => none)
  asked := s.asked ++ events.filterMap fun
    | .asked q => some q
    | .lookUp .. => none

/-! ## Circumstances -/

/-- What a computation finds where it starts. -/
structure Circumstances where
  /-- The approvals looked up before. -/
  known : KnownApprovals := none
  /-- When the look-ups begin that are made meanwhile, by the computation itself or by
  others; the first entry of a key counts. -/
  begun : List (ApprovalKey × Moment) := []
  now : Moment := {}

namespace Circumstances

/-- The same at another moment. -/
def movedTo (c : Circumstances) (now : Moment) : Circumstances := { c with now }

@[simp] theorem known_movedTo (c : Circumstances) (now : Moment) :
    (c.movedTo now).known = c.known := rfl

/-- What a job finds that is started here. -/
def ofJob (c : Circumstances) (position : Nat) : Circumstances :=
  c.movedTo (c.now.ofJob position)

@[simp] theorem known_ofJob (c : Circumstances) (position : Nat) :
    (c.ofJob position).known = c.known := rfl

/-- Puts the beginning of a look-up down; the earlier one of two counts. -/
def noteBegun (begun : List (ApprovalKey × Moment)) : Event → List (ApprovalKey × Moment)
  | .asked _ => begun
  | .lookUp key moment _ =>
    match begun.lookup key with
    | none => (key, moment) :: begun
    | some earlier => if moment.before earlier then (key, moment) :: begun else begun

end Circumstances

/-- When a computation goes on that waits, from a moment on, for a look-up that began at
another one: two turns after that one, in the order in which the look-up was joined. -/
def Moment.told (begun joined : Moment) : Moment :=
  ⟨begun.turn + 2, begun.rank ++ joined.turn :: joined.rank⟩

namespace Course

/-- The course of a computation that has a look-up begin.  A signal that comes before the
look-up keeps it from asking. -/
def beginLookUp (now : Moment) (key : ApprovalKey) (t : Course Event Bool) : Course Event Bool :=
  let events := .lookUp key now t.outcome :: t.ending.asked
  ⟨t.outcome, ⟨now.told now, events⟩, fun signal =>
    ⟨now.told now, if signal.before (now.later 1) then [] else events⟩⟩

/-- The course of a computation that joins a look-up. -/
def joinLookUp (now begun : Moment) (outcome : Except Failure Bool) : Course Event Bool :=
  if (begun.later 1).before now then .immediate now outcome
  else ⟨outcome, ⟨begun.told now, []⟩, fun _ => ⟨begun.told now, []⟩⟩

end Course

/-- A computation that may ask the outside. -/
structure Encode (α : Type) where
  course : Circumstances → Course Event α
  /-- What it succeeds with depends on nothing but the approvals looked up before. -/
  steady : ∀ {c c' : Circumstances} {a : α}, c.known = c'.known →
    (course c).outcome = .ok a → (course c').outcome = .ok a

namespace Encode

variable {α β : Type}

/-- A value without a question. -/
def pure (a : α) : Encode α where
  course c := .immediate c.now (.ok a)
  steady _ h := h

/-- A failure. -/
def fail (f : Failure) : Encode α where
  course c := .immediate c.now (.error f)
  steady _ h := h

/-- One computation after another one. -/
def bind (x : Encode α) (f : α → Encode β) : Encode β where
  course c :=
    let t := x.course c
    match t.outcome with
    | .error e => t.withOutcome (.error e)
    | .ok a => t.followedBy ((f a).course (c.movedTo t.ending.moment))
  steady {c c' b} hknown h := by
    dsimp only at h ⊢
    split at h
    · cases h
    next a ha =>
      have hmoved : (c.movedTo (x.course c).ending.moment).known =
          (c'.movedTo (x.course c').ending.moment).known := by simpa using hknown
      rw [x.steady hknown ha]
      exact (f a).steady hmoved h

instance : Monad Encode where
  pure := pure
  bind := bind

/-- After a failure nothing else is asked. -/
theorem bind_of_error {x : Encode α} {f : α → Encode β} {c : Circumstances} {e : Failure}
    (failed : (x.course c).outcome = .error e) :
    (x >>= f).course c = (x.course c).withOutcome (.error e) := by
  simp [Bind.bind, bind, failed]

/-- After a value the second computation goes on where the first one ends. -/
theorem bind_of_ok {x : Encode α} {f : α → Encode β} {c : Circumstances} {a : α}
    (done : (x.course c).outcome = .ok a) :
    (x >>= f).course c =
      (x.course c).followedBy ((f a).course (c.movedTo (x.course c).ending.moment)) := by
  simp [Bind.bind, bind, done]

/-- An outcome that is reached at once. -/
def ofExcept : Except Failure α → Encode α
  | .ok a => pure a
  | .error f => fail f

/-- A check of the data that is made at once. -/
def require : Except EncodingError α → Encode α
  | .ok a => pure a
  | .error e => fail (.encoding e)

/-- Asks a question. -/
def ask (q : Question) : Encode Unit where
  course c := .ask c.now (.asked q)
  steady _ h := h

/-! ## Side by side -/

/-- The courses of the jobs that are started here, from a position of the list on. -/
def courses (c : Circumstances) : Nat → List (Encode α) → List (Course Event α)
  | _, [] => []
  | position, job :: jobs => job.course (c.ofJob position) :: courses c (position + 1) jobs

@[simp] theorem courses_cons (c : Circumstances) (position : Nat) (job : Encode α)
    (jobs : List (Encode α)) :
    courses c position (job :: jobs) =
      job.course (c.ofJob position) :: courses c (position + 1) jobs := rfl

/-- The values of jobs depend on the approvals looked up before alone. -/
theorem map_outcome_courses {c c' : Circumstances} (hknown : c.known = c'.known)
    {jobs : List (Encode α)} {position : Nat} {values : List α}
    (h : (courses c position jobs).map Course.outcome = values.map .ok) :
    (courses c' position jobs).map Course.outcome = values.map .ok := by
  induction jobs generalizing position values with
  | nil => exact h
  | cons job jobs ih =>
    cases values with
    | nil => simp at h
    | cons a values =>
      rw [courses_cons, List.map_cons, List.map_cons, List.cons.injEq] at h ⊢
      have hjob : (c.ofJob position).known = (c'.ofJob position).known := by simpa using hknown
      exact ⟨job.steady hjob h.1, ih h.2⟩

/-- Computations that run side by side. -/
def sideBySide (jobs : List (Encode α)) : Encode (List α) where
  course c := .all c.now (courses c 0 jobs)
  steady hknown h := by
    rw [Course.all_outcome_eq_ok_iff] at h ⊢
    exact map_outcome_courses hknown h

/-! ## Look-ups -/

/-- One computation where approvals are kept, and another one where they are not. -/
def ifKept (x y : Encode α) : Encode α where
  course c := if c.known.isSome then x.course c else y.course c
  steady {c c' a} hknown h := by
    rw [← hknown]
    split at h
    next hsome => rw [if_pos hsome]; exact x.steady hknown h
    next hnone => rw [if_neg hnone]; exact y.steady hknown h

/-- A look-up for a key that is made only once. -/
def once (key : ApprovalKey) (x : Encode Bool) : Encode Bool where
  course c :=
    match c.known.bind (·.lookup key) with
    | some outcome => .immediate c.now outcome
    | none =>
      let t := x.course c
      match c.begun.lookup key with
      | none => .beginLookUp c.now key t
      | some begun =>
        if begun = c.now then .beginLookUp c.now key t else .joinLookUp c.now begun t.outcome
  steady {c c' a} hknown h := by
    dsimp only at h ⊢
    rw [← hknown]
    split at h
    · exact h
    · have hx : (x.course c').outcome = .ok a := by
        refine x.steady hknown ?_
        rw [← h]
        split
        · rfl
        · split
          · rfl
          · rw [Course.joinLookUp]
            split <;> rfl
      rw [← hx]
      split
      · rfl
      · split
        · rfl
        · rw [Course.joinLookUp]
          split <;> rfl

/-- What a computation finds that shares its look-ups: when each of them begins. -/
def foreseen (x : Encode α) (c : Circumstances) : Circumstances :=
  match c.known with
  | none => c
  | some _ =>
    let alone := x.course { c with begun := [] }
    { c with begun := alone.ending.asked.foldl Circumstances.noteBegun [] }

theorem known_foreseen (x : Encode α) (c : Circumstances) : (x.foreseen c).known = c.known := by
  rw [foreseen]
  split <;> rfl

/-- A computation whose parts share their look-ups. -/
def together (x : Encode α) : Encode α where
  course c := x.course (x.foreseen c)
  steady {c c' a} hknown h := by
    refine x.steady ?_ h
    rw [known_foreseen, known_foreseen, hknown]

/-! ## Sessions -/

/-- Runs a computation in a session and records what it asks. -/
def run (x : Encode α) (s : Session) : Except Failure α × Session :=
  let t := x.together.course { known := s.known }
  (t.outcome, s.after t.ending.asked)

/-- Runs computations one after the other, whatever they come to. -/
def runAll : List (Encode α) → Session → List (Except Failure α) × Session
  | [], s => ([], s)
  | job :: jobs, s =>
    let (outcome, s) := job.run s
    let (outcomes, s) := runAll jobs s
    (outcome :: outcomes, s)

end Encode

end SwapRouter
