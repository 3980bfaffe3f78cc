import SwapRouter.Config.Basic
import SwapRouter.Files
import SwapRouter.Json.Reader

/-!
# Reading a setup from files

The tables of executors, routers and protocol classes may be replaced by files.  A
table that cannot be read, an address that is not well formed and a chain without
executors are reasons to refuse the setup; a table of the wrong shape is a defect.
-/

namespace SwapRouter

/-- Which files replace the tables that come with the program. -/
structure TablePaths where
  executors : Option String := none
  routers : Option String := none
  capabilities : Option String := none

namespace Config

/-- Reads a table from a file.  An empty path is reported under the usual name. -/
def readTable (files : Files) (path usualName : String) (room : Option Nat) :
    Except Failure Json :=
  let name := if path = "" then usualName else path
  match files.read path with
  | .error .malformed => .error .defect
  | .error fault => .error (.encoding (.unreadableTable name (fault.message path)))
  | .ok text => match Json.read text room with
    | .ok table => .ok table
    | .error .malformed => .error (.encoding (.malformedTable name))
    | .error _ => .error .defect

/-- The normal form of a well-formed address in a table. -/
def tableAddress (role : String) (j : Json) : Except Failure Address :=
  match j with
  | .str s => if (Address.mk s).isWellFormed then .ok (Address.mk s).normal else refused
  | _ => refused
where
  /-- The refusal names the value. -/
  refused : Except Failure Address := .error (.encoding (.invalidTableAddress role j.show))

/-- Whether a text occurs in another one. -/
def occursIn (part : List Char) : List Char → Bool
  | [] => part.isEmpty
  | c :: cs => part.isPrefixOf (c :: cs) || occursIn part cs

/-- Whether a list holds a text. -/
def holdsText (text : String) (items : List Json) : Bool :=
  items.any fun
    | .str s => s = text
    | _ => false

/-- The executors that a table names for a chain. -/
def executorsOf (chain : Chain) (table : Json) : Except Failure (List (String × Address)) :=
  let absent : Except Failure (List (String × Address)) :=
    .error (.encoding (.noExecutors chain.name))
  match table with
  | .obj fields => match fields.lookup chain.name with
    | some (.obj entries) => entries.mapM fun (protocol, j) => do
      let executor ← tableAddress ("executor address for " ++ protocol) j
      return (protocol, executor)
    | some _ => .error .defect
    | none => absent
  | .arr items => if holdsText chain.name items then .error .defect else absent
  | .str s => if occursIn chain.name.toList s.toList then .error .defect else absent
  | _ => .error .defect

/-- The router that a table names for a chain. -/
def routerOf (chain : Chain) (table : Json) : Except Failure (Option Address) :=
  match table with
  | .obj fields => match fields.lookup chain.name with
    | none | some .null => .ok none
    | some j => (tableAddress "router address" j).map some
  | _ => .error .defect

/-- The setup of a chain, with the given tables in place of those of the program. -/
def load (files : Files) (paths : TablePaths) (chain : Chain) (room : Option Nat := none) :
    Except Failure Config := do
  let usual := bundled chain
  let executors ← match paths.executors with
    | some path => executorsOf chain (← readTable files path "executor_addresses.json" room)
    | none => pure usual.executors
  let router ← match paths.routers with
    | some path => routerOf chain (← readTable files path "router_addresses.json" room)
    | none => pure usual.router
  let capabilities ← match paths.capabilities with
    | some path => Capabilities.ofJson (← readTable files path "protocol_capabilities.json" room)
    | none => pure usual.capabilities
  return ⟨chain, executors, router, usual.settings, capabilities⟩

end Config

end SwapRouter
