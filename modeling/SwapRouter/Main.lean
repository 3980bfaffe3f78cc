import SwapRouter.CommandLine.Run

/-!
# The command

The command reads its environment, the file that it is given and its standard input, and
leaves the rest to `CommandLine.run`.  It has no network: the chain and the quote services
are out of reach.
-/

namespace SwapRouter.CommandLine

/-- The variables that a run may look at. -/
def variableNames : List String :=
  Settings.variableNames
    ++ Chain.all.flatMap fun chain => (Config.bundled chain).executors.map fun (protocol, _) =>
      quoteServiceVariable protocol

/-- The environment, as far as a run may look at it. -/
def readEnvironment : IO Environment :=
  variableNames.eraseDups.filterMapM fun name =>
    return (← IO.getEnv name).map fun value => (name, Text.ofChars value.toList)

/-- A text as it is printed. -/
def printed (s : String) : String := String.ofList (Text.plainChars s)

/-- The files that can be read, of those that the arguments name. -/
def readFiles (a : Arguments) : IO Files := do
  let entries ← a.executors.toList.filterMapM fun (path : String) => do
    try
      let text ← IO.FS.readFile (printed path)
      return some (path, Text.ofChars text.toList)
    catch _ => return none
  return { entries }

/-- Reads a stream to its end. -/
partial def readAll (input : IO.FS.Stream) (before : String) : IO String := do
  let line ← input.getLine
  if line.isEmpty then return before else readAll input (before ++ line)

/-- The line that reports a failure which is no refusal. -/
def failureLine : Failure → String
  | .encoding e => e.line
  | .value fault => fault.message
  | .record faults => "invalid record: "
      ++ Json.joined "; " (faults.map fun fault => Json.joined "." fault.path)
  | .defect => "internal error"

end SwapRouter.CommandLine

open SwapRouter CommandLine in
/-- Runs the command. -/
def main (words : List String) : IO UInt32 := do
  let words := words.map fun word => Text.ofChars word.toList
  let (files, input) ← match Arguments.ofWords words with
    | .ok a => pure (← readFiles a, Text.ofChars (← readAll (← IO.getStdin) "").toList)
    | .error _ => pure ({}, "")
  let environment ← readEnvironment
  match run { environment, files } words input with
  | .error failure =>
    IO.eprintln (printed (failureLine failure))
    return 1
  | .ok outcome =>
    match outcome with
    | .refused e => IO.eprintln (printed e.line)
    | .misused => IO.eprint Arguments.usage
    | .printed _ | .help => pure ()
    IO.print outcome.output
    return UInt32.ofNat outcome.exitCode
