import SwapRouter.Binary64.Numeral
import SwapRouter.Chain

/-!
# Settings from the environment

The settings of a run are read from environment variables.  A timeout that is no number
and a port that is no integer are defects.
-/

namespace SwapRouter

/-- The environment variables. -/
abbrev Environment := List (String × String)

/-- The settings of a run. -/
structure Settings where
  /-- Where the state of the chain is read; nothing if no reads are wanted. -/
  rpcUrl : Option String := none
  /-- How long a request may take, in seconds. -/
  requestTimeout : Binary64 := .ofInt 10
  host : String := "0.0.0.0"
  port : Int := 8000
  debug : Bool := false
  supportedChains : List String := ["ethereum"]

/-- A text that is not empty. -/
def nonEmpty? (s : String) : Option String := if s = "" then none else some s

namespace Settings

/-- The names in a list separated by commas, in lower case. -/
def nameList (s : String) : List String :=
  ((s.toList.splitOn ',').map (Text.trimBoth Text.isTrimmed)).filter (· ≠ [])
    |>.map fun name => Text.lowercase (String.ofList name)

/-- Whether a text means yes. -/
def isYes (s : String) : Bool := ["true", "1", "yes"].contains (Text.lowercase s)

/-- The variables that hold settings. -/
def variableNames : List String := [
  "RPC_URL", "ENCODER_REQUEST_TIMEOUT", "ENCODER_HOST", "ENCODER_PORT", "ENCODER_DEBUG",
  "ENCODER_SUPPORTED_CHAINS"]

/-- Reads the settings. -/
def ofEnvironment (env : Environment) : Except Failure Settings := do
  let requestTimeout ← match env.lookup "ENCODER_REQUEST_TIMEOUT" with
    | none => pure (.ofInt 10)
    | some s => match Numeral.wide? s with
      | some numeral => pure numeral.toBinary64
      | none => throw .defect
  let port ← match env.lookup "ENCODER_PORT" with
    | none => pure 8000
    | some s => match Text.decimalInteger? s with
      | some n => pure n
      | none => throw .defect
  return {
    rpcUrl := (env.lookup "RPC_URL").bind nonEmpty?
    requestTimeout
    host := (env.lookup "ENCODER_HOST").getD "0.0.0.0"
    port
    debug := isYes ((env.lookup "ENCODER_DEBUG").getD "false")
    supportedChains := (nameList ((env.lookup "ENCODER_SUPPORTED_CHAINS").getD "ethereum"))
  }

end Settings

/-- The variable that holds the key for the quote service of a protocol:
`RFQ_<NAME>_API_KEY` for the part of the protocol's name behind its first colon. -/
def quoteServiceVariable (protocol : String) : String :=
  let cs := protocol.toList
  let name := match cs.dropWhile (· ≠ ':') with
    | _ :: rest => rest
    | [] => cs
  let upper := Text.uppercase (String.ofList name)
  "RFQ_" ++ String.ofList (upper.toList.map fun c => if c = '-' then '_' else c) ++ "_API_KEY"

/-- The key for the quote service of a protocol. -/
def quoteServiceKey? (env : Environment) (protocol : String) : Option String :=
  (env.lookup (quoteServiceVariable protocol)).bind nonEmpty?

end SwapRouter
