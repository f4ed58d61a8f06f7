import GasFaucet.Network
import GasFaucet.Notice

/-!
# Funding terms

How long the faucet waits between its attempts, how long it waits at all, and what it sends when the
caller names no amount.  All times are in milliseconds.

The gas price of a transfer is the configured one, or that of a network on which it is fixed.  Only
without either is the node asked, and what it fails to suggest is replaced by the network's fallback.
-/

namespace GasFaucet

/-- The part of the settings that governs funding, as a reader of the configuration writes it. -/
structure FundingSettings where
  retryIntervalMs : UInt64 := 5000
  pollIntervalMs : UInt64 := 5000
  maxLeaseWaitSecs : UInt64 := 300
  confirmationTimeoutSecs : UInt64 := 600
  healthCheckIntervalSecs : UInt64 := 60
  deriving DecidableEq, Inhabited

structure Terms where
  retryInterval : Nat
  pollInterval : Nat
  maxLeaseWait : Option Nat
  confirmationTimeout : Option Nat
  defaultAmount : Word
  gasLimit : Word
  deriving DecidableEq

namespace Terms

/-- A limit in milliseconds from one in seconds, where zero means that there is none. -/
def limitOfSecs (secs : UInt64) : Option Nat :=
  if secs = 0 then none else some (secs.toNat * 1000)

def ofSettings (s : FundingSettings) (defaultAmount gasLimit : Word) : Terms where
  retryInterval := s.retryIntervalMs.toNat
  pollInterval := s.pollIntervalMs.toNat
  maxLeaseWait := limitOfSecs s.maxLeaseWaitSecs
  confirmationTimeout := limitOfSecs s.confirmationTimeoutSecs
  defaultAmount := defaultAmount
  gasLimit := gasLimit

theorem limitOfSecs_eq_none_iff {secs : UInt64} : limitOfSecs secs = none ↔ secs = 0 := by
  unfold limitOfSecs
  split <;> simp_all

end Terms

def transferGas : Word := 21000

structure GasPricing where
  fixed : Option Word
  fallback : Word

namespace GasPricing

def ofNetwork (network : Network) (configuredGwei : Option UInt64) : GasPricing where
  fixed := (configuredGwei.map gwei).or network.fixedGasPrice
  fallback := network.fallbackGasPrice

/-- The price to use when the node was asked, and what is noted about it. -/
def settle (g : GasPricing) : Except Failure Word → Word × Notice
  | .ok price =>
      if price.toNat = 0 then (g.fallback, .gasPriceZero g.fallback)
      else (price, .gasPriceSuggested price)
  | .error f => (g.fallback, .gasPriceUnknown f g.fallback)

end GasPricing

end GasFaucet
