import SwapRouter.Config.Tables
import SwapRouter.Router
import SwapRouter.Settings

/-!
# Encoders from the surroundings of a program

A program finds its settings in the environment and its tables in files; the chain and
the quote services answer it over the network.  From these, `RouterEncoder.ofSurroundings`
sets up the encoder of a chain: approvals and permits ask the chain exactly if the
settings say where it is read.
-/

namespace SwapRouter

/-- How many levels of a value there is room for where a program reads one, if calls may only be
nested so deep. -/
structure Rooms where
  input : Option Nat := none
  table : Option Nat := none
  body : Option Nat := none

/-- What a program finds around it. -/
structure Surroundings where
  environment : Environment := []
  files : Files := {}
  /-- The node behind an address of the network. -/
  node : String → ChainReader.Node := fun _ => ChainReader.offline
  /-- The quote services. -/
  reply : QuotePost → QuoteReply := fun _ => .offline
  /-- The time in whole seconds. -/
  now : Option Int := some 0
  rooms : Rooms := {}

/-- Sets up the encoder of a chain.  An empty key for permits counts as none. -/
def RouterEncoder.ofSurroundings (around : Surroundings) (chain : Chain)
    (executors : Option String := none) (signerKey : Option String := none)
    (router : Option Address := none) : Except Failure RouterEncoder := do
  let settings ← Settings.ofEnvironment around.environment
  let config ← Config.load around.files ⟨executors, none, none⟩ chain around.rooms.table
  let reader := settings.rpcUrl.map fun url => ChainReader.ofNode (around.node url)
  let signer ← match signerKey.bind nonEmpty? with
    | none => pure none
    | some key => match Signer.ofText chain key around.now reader with
      | .ok signer => pure (some signer)
      | .error e => throw (.encoding e)
  match RouterEncoder.create chain config (reader.map ApprovalSource.onChain) signer
      ⟨[], around.environment, settings.requestTimeout, around.reply⟩ router with
  | .ok encoder => return encoder
  | .error e => throw (.encoding e)

end SwapRouter
