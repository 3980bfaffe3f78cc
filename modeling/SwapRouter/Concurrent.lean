import SwapRouter.Course

/-!
# Trees of jobs

A job comes to a value or a failure after some turns, or it waits for jobs of its own.  It
may fail with a whole group of failures; the first leaf of the group then counts.
`Job.run` computes the course of such a tree.
-/

namespace SwapRouter

/-- A failure or a group of them. -/
inductive FailureTree where
  | leaf (failure : Failure)
  | group (members : List FailureTree)
  deriving Inhabited

/-- The first leaf of a group; a group without members is a defect. -/
def FailureTree.firstLeaf : FailureTree → Failure
  | .leaf f => f
  | .group [] => .defect
  | .group (t :: _) => t.firstLeaf

/-- A job: it comes to a value or a failure after some turns, or waits for jobs of its
own. -/
inductive Job (α : Type) where
  | value (turns : Nat) (value : α)
  | failure (turns : Nat) (failure : FailureTree)
  | nested (jobs : List (Job α))
  deriving Inhabited

/-- The values of a tree of jobs. -/
inductive Results (α : Type) where
  | value (value : α)
  | list (results : List (Results α))
  deriving Inhabited

variable {α : Type}

mutual

/-- The course of a job that starts at a moment; there is nothing that it could ask. -/
def Job.runFrom (start : Moment) : Job α → Course Empty (Results α)
  | .value turns v => .idle start turns (.ok (.value v))
  | .failure turns f => .idle start turns (.error f.firstLeaf)
  | .nested jobs =>
    let whole := Course.all start (Job.runEach start 0 jobs)
    whole.withOutcome (whole.outcome.map .list)

/-- The courses of the jobs that a call starts, from a position of the list on. -/
def Job.runEach (start : Moment) : Nat → List (Job α) → List (Course Empty (Results α))
  | _, [] => []
  | position, job :: jobs =>
    job.runFrom (start.ofJob position) :: Job.runEach start (position + 1) jobs

end

/-- The course of a job. -/
def Job.run (job : Job α) : Course Empty (Results α) := job.runFrom {}

end SwapRouter
