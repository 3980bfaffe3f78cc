import SwapRouter.Json.Reader
import SwapRouter.Order.Reader

/-!
# Solutions in a text

A text holds one solution, a list of solutions, or an object that has such a list under
`solutions`.
-/

namespace SwapRouter.Solution

/-- The value that should be the list of solutions: an object without a list of its own
is a single solution. -/
def listed : Json → Json
  | .obj fields => (fields.lookup "solutions").getD (.arr [.obj fields])
  | j => j

/-- Reads the solutions in a text; more levels than there is room for are a defect. -/
def listOfText (s : String) (room : Option Nat := none) : Except Failure (List Solution) :=
  match Json.read s room with
  | .error .malformed => .error (.encoding .malformedInput)
  | .error _ => .error .defect
  | .ok j => match Reading.list Solution.read (listed j) with
    | .ok solutions => .ok solutions
    | .refused faults =>
      .error (.ofFaults (fun faults => .encoding (.malformedSolution faults)) faults)

end SwapRouter.Solution
