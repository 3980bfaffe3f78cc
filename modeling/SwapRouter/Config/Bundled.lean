import SwapRouter.Capabilities
import SwapRouter.Chain

/-!
# The tables that come with the program

The executors, the routers, the settings of single protocols and the classification of
protocols, as they hold when no other table is given.
-/

namespace SwapRouter.Bundled

/-- The executor of each protocol on a chain. -/
def executors : Chain → List (String × Address)
  | .ethereum => [
      ("uniswap_v2", ⟨"0x5615deb798bb3e4dfa0139dfa1b3d433cc23b72f"⟩),
      ("sushiswap_v2", ⟨"0x2c6a3cd97c6283b95ac8c5a4459ebb0d5fd404f4"⟩),
      ("pancakeswap_v2", ⟨"0x996e6f1b2ce8a1a8e6bd6b9b3c4a3e1c5f7a0b21"⟩),
      ("uniswap_v3", ⟨"0x2e234dae75c793f67a35089c9d99245e1c58470b"⟩),
      ("pancakeswap_v3", ⟨"0x4c9edd5852cd905f086c759e8383e09bff1e68b3"⟩),
      ("uniswap_v4", ⟨"0xf62849f9a0b5bf2913b396098f7c7019b51a820a"⟩),
      ("uniswap_v4_hooks", ⟨"0x7c8999dc9a822c1f0df42023113edb4fdd543266"⟩),
      ("vm:balancer_v2", ⟨"0x1d1499e622d69689cdf9004d05ec547d650ff211"⟩),
      ("rfq:bebop", ⟨"0xa0cb889707d426a7a386870a03bc70d1b0697598"⟩),
      ("rfq:hashflow", ⟨"0x3d7ebc40af7092e3f1c81f2e996cba5cae2090d7"⟩)]
  | .base => [
      ("uniswap_v2", ⟨"0xf9a2c330a19e2fbfeb50fe7a7195b973bb0a3be9"⟩),
      ("uniswap_v3", ⟨"0x7c5d4f1a0c32e1d75e0b8dd8e0e1c3a3f0f83a01"⟩),
      ("uniswap_v4", ⟨"0xd5b5d3e46ab2e2ef4cc0a4ff1a2d1a0e09a7b6c2"⟩),
      ("aerodrome_slipstreams", ⟨"0x8f5e5d4a0c0d2e6e7b0c3f0d1e6a4b2f1e9c7d38"⟩),
      ("vm:balancer_v2", ⟨"0x6d1e1c1a0c2b8b0e4f4a0f3b2d7c1e5a9b8d6f04"⟩),
      ("rfq:bebop", ⟨"0x3b4e9f0a1c7d2e5f6a8b0c1d2e3f4a5b6c7d8e95"⟩)]
  | .unichain => [
      ("uniswap_v2", ⟨"0x00c055f2bfa85b6d1dd1e7e1f0a8d5c0e4b3a921"⟩),
      ("uniswap_v3", ⟨"0xd1f2c3b4a5968778695a4b3c2d1e0f1a2b3c4d57"⟩),
      ("uniswap_v4", ⟨"0x42ec9e1b6b5d77c6e0fc4a3f1d95a8c4a5e6f7a2"⟩),
      ("velodrome_slipstreams", ⟨"0x9a8b7c6d5e4f3a2b1c0d9e8f7a6b5c4d3e2f1a63"⟩)]
  | .arbitrum => [
      ("uniswap_v2", ⟨"0x1f1e1d1c1b1a19181716151413121110f0e0d0c4"⟩),
      ("uniswap_v3", ⟨"0x2a3b4c5d6e7f8091a2b3c4d5e6f708192a3b4c55"⟩),
      ("uniswap_v4", ⟨"0x3c4d5e6f708192a3b4c5d6e7f8091a2b3c4d5e66"⟩),
      ("vm:balancer_v2", ⟨"0x4d5e6f708192a3b4c5d6e7f8091a2b3c4d5e6f77"⟩)]

/-- The router of a chain. -/
def router? : Chain → Option Address
  | .ethereum => some ⟨"0xfd0b31d2e955fa55e3fa641fe90e08b677188d35"⟩
  | .base => some ⟨"0xea3207778e39eb02d72c9d3c4eac7e224ac5d369"⟩
  | .unichain => some ⟨"0xfac8d5c2d1e32a8d8e2e52d4d6f3a1e0c0b9a7b3"⟩
  | .arbitrum => none

/-- The settings of single protocols on a chain. -/
def settings : Chain → List (String × List (String × String))
  | .ethereum => [
      ("vm:balancer_v2", [("vault_address", "0xba12222222228d8ba445958a75a0704d566bf2c8")]),
      ("rfq:bebop", [("settlement_address", "0xbbbbbbb520d69a9775e85b458c58c648259fad5f"),
        ("quote_url", "https://api.bebop.xyz/pmm/ethereum/v3/quote")]),
      ("rfq:hashflow", [("settlement_address", "0x55084ee0fef03f14a305cd24286359a35d735151"),
        ("quote_url", "https://api.hashflow.com/taker/v3/rfq")])]
  | .base => [
      ("vm:balancer_v2", [("vault_address", "0xba12222222228d8ba445958a75a0704d566bf2c8")]),
      ("rfq:bebop", [("settlement_address", "0xbbbbbbb520d69a9775e85b458c58c648259fad5f"),
        ("quote_url", "https://api.bebop.xyz/pmm/base/v3/quote")])]
  | .arbitrum => [
      ("vm:balancer_v2", [("vault_address", "0xba12222222228d8ba445958a75a0704d566bf2c8")])]
  | .unichain => []

/-- The classification of protocols. -/
def capabilities : Capabilities where
  groupable.patterns := ["uniswap_v4", "uniswap_v4_hooks", "vm:balancer_v3", "ekubo_v2"]
  paidDirectly.patterns := ["uniswap_v2", "sushiswap_v2", "pancakeswap_v2"]
  unsupportedForChaining.patterns := ["uniswap_v3", "pancakeswap_v3", "aerodrome_slipstreams", "velodrome_slipstreams", "fluid_v1"]
  fundsInRouter.patterns := ["vm:balancer_v2", "vm:curve", "rfq:*"]
  isConsistent := by decide

end SwapRouter.Bundled
