import SwapRouter.Config.Bundled

/-!
# The setup of a chain

A setup names the executor of each protocol, the router, the settings of single
protocols and the classification of protocols.
-/

namespace SwapRouter

/-- The setup of one chain. -/
structure Config where
  chain : Chain
  executors : List (String × Address)
  router : Option Address
  settings : List (String × List (String × Json)) := []
  capabilities : Capabilities := {}

namespace Config

/-- The setup of a chain from the tables that come with the program. -/
def bundled (chain : Chain) : Config where
  chain := chain
  executors := Bundled.executors chain
  router := Bundled.router? chain
  settings := (Bundled.settings chain).map fun (protocol, settings) =>
    (protocol, settings.map fun (key, value) => (key, .str value))
  capabilities := Bundled.capabilities

instance : Inhabited Config := ⟨bundled .ethereum⟩

/-- The settings of a protocol: those under its own name, else those under the first
pattern with a `*` that it fits, else none. -/
def settingsOf (c : Config) (protocol : String) : List (String × Json) :=
  match c.settings.lookup protocol with
  | some settings => settings
  | none =>
    match c.settings.find? fun entry => namesProtocol entry.1 protocol with
    | some entry => entry.2
    | none => []

end Config

end SwapRouter
