import SwapRouter.Address

/-!
# Chains

The chains on which a router is deployed.
-/

namespace SwapRouter

/-- A chain with a router. -/
inductive Chain where
  | ethereum
  | base
  | unichain
  | arbitrum
  deriving DecidableEq, Repr

namespace Chain

/-- All chains. -/
def all : List Chain := [.ethereum, .base, .unichain, .arbitrum]

/-- The name of a chain. -/
def name : Chain → String
  | .ethereum => "ethereum"
  | .base => "base"
  | .unichain => "unichain"
  | .arbitrum => "arbitrum"

/-- The number that tells the chain apart in signatures. -/
def id : Chain → Nat
  | .ethereum => 1
  | .base => 8453
  | .unichain => 130
  | .arbitrum => 42161

/-- The token that wraps the native coin. -/
def wrappedToken : Chain → Address
  | .ethereum => ⟨"0xc02aaa39b223fe8d0a0e5c4f27ead9083c756cc2"⟩
  | .base => ⟨"0x4200000000000000000000000000000000000006"⟩
  | .unichain => ⟨"0x4200000000000000000000000000000000000006"⟩
  | .arbitrum => ⟨"0x82af49447d8a07e3bd95bd0d56f35241523fbab1"⟩

/-- The chain of a name in any letter case. -/
def ofName (s : String) : Except EncodingError Chain :=
  match all.find? (·.name = Text.lowercase s) with
  | some chain => .ok chain
  | none => .error (.unsupportedChain s)

end Chain

end SwapRouter
