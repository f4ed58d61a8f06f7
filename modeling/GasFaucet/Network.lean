import GasFaucet.Failure
import GasFaucet.Text.Lowercase

/-!
# Networks

The table of networks that the faucet can fund on.  Each entry fixes the chain id that a node has to
report, the gas price to fall back on, and how much is sent when the caller names no amount.
-/

namespace GasFaucet

def gwei (amount : UInt64) : Word :=
  BitVec.ofNat 256 (amount.toNat * 1000000000)

theorem toNat_gwei (amount : UInt64) : (gwei amount).toNat = amount.toNat * 1000000000 := by
  have := amount.toNat_lt
  simp only [gwei, BitVec.toNat_ofNat]
  exact Nat.mod_eq_of_lt (by omega)

structure Network where
  name : String
  chainId : UInt64
  fallbackGwei : UInt64
  fixedGwei : Option UInt64
  defaultGwei : UInt64
  deriving DecidableEq

namespace Network

def table : List Network :=
  [⟨"mainnet", 1, 30, none, 10000000⟩,
   ⟨"goerli", 5, 2, none, 50000000⟩,
   ⟨"sepolia", 11155111, 2, none, 50000000⟩,
   ⟨"xdai", 100, 1, some 1, 100000000⟩,
   ⟨"sokol", 77, 1, some 1, 100000000⟩,
   ⟨"matic", 137, 50, none, 100000000⟩,
   ⟨"mumbai", 80001, 5, none, 100000000⟩,
   ⟨"anvil", 31337, 1, none, 1000000000⟩]

/-- The table's name for a name under which a network is also known. -/
def canonicalName (name : String) : String :=
  if name = "gnosis" then "xdai"
  else if name = "polygon" then "matic"
  else if name = "ethereum" then "mainnet"
  else name

def byName? (name : String) : Option Network :=
  let name := canonicalName (String.ofList (Text.lower (Text.trim name.toList)))
  table.find? fun n => n.name = name

def fallbackGasPrice (n : Network) : Word :=
  gwei n.fallbackGwei

def fixedGasPrice (n : Network) : Option Word :=
  n.fixedGwei.map gwei

def defaultAmount (n : Network) : Word :=
  gwei n.defaultGwei

/-- Compares the chain id that a node reports, in all its 256 bits, with the network's. -/
def checkChainId (n : Network) (reported : Word) : Except Failure Unit :=
  if reported.toNat = n.chainId.toNat then .ok ()
  else .error (.networkMismatch n.name n.chainId.toNat reported)

end Network

end GasFaucet
