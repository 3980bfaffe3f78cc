import SwapRouter.CommandLine.Arguments
import SwapRouter.Json.Printer
import SwapRouter.Order.Input
import SwapRouter.Order.Printer
import SwapRouter.Surroundings

/-!
# A run of the command line

A run reads solutions from its input and prints their transactions as JSON, one list per
solution.  A refusal is reported on the error stream by one line.
-/

namespace SwapRouter.CommandLine

/-- How a run ends. -/
inductive Outcome where
  | printed (text : String)
  /-- Help was asked for. -/
  | help
  | refused (error : EncodingError)
  /-- The command line itself is in error. -/
  | misused
  deriving DecidableEq

namespace Outcome

/-- The exit code. -/
def exitCode : Outcome → Nat
  | .printed _ | .help => 0
  | .refused _ => 1
  | .misused => 2

/-- What is printed on the output stream. -/
def output : Outcome → String
  | .printed text => text
  | .help => Arguments.help
  | _ => ""

end Outcome

/-- The transactions as they are printed. -/
def report (transactions : List (List Transaction)) : String :=
  (Json.ofList (Json.ofList Transaction.toJson) transactions).toText (.indented 2) ++ "\n"

/-- The transactions for the solutions in an input. -/
def transactions (around : Surroundings) (a : Arguments) (input : String) :
    Except Failure (List (List Transaction)) := do
  let solutions ← Solution.listOfText input around.rooms.input
  let encoder ← RouterEncoder.ofSurroundings around a.chain a.executors a.signerKey
    (a.router.map Address.mk)
  ((encoder.encodeSolutions solutions).run {}).1

/-- Runs the command line; only a defect or a refused record is left to the caller. -/
def run (around : Surroundings) (words : List String) (input : String) :
    Except Failure Outcome :=
  match Arguments.ofWords words with
  | .error .misuse => .ok .misused
  | .error .help => .ok .help
  | .ok a => match transactions around a input with
    | .ok transactions => .ok (.printed (report transactions))
    | .error (.encoding e) => .ok (.refused e)
    | .error failure => .error failure

end SwapRouter.CommandLine
