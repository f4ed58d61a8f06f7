import GasFaucet.Signer.Key
import GasFaucet.Transfer

/-!
# Signers

A signer is an account that pays for transfers on one chain.  Its place in the pool is not part of
it.
-/

namespace GasFaucet

structure Signer where
  account : Account
  chainId : UInt64

namespace Signer

def address (s : Signer) : Address :=
  s.account.address

/-- The signer whose key is written in `text`, which stands at place `index` of the list of keys. -/
def ofText (index : Nat) (text : String) (chainId : UInt64) : Except Failure Signer :=
  match parseKey text with
  | .ok key => .ok ⟨.ofKey key, chainId⟩
  | .error e => .error (.invalidKey index e.message)

def sign (s : Signer) (t : Transfer) : Except Failure SignedTransfer :=
  t.sign s.account s.chainId

def inspect (s : Signer) (index : Nat) (leased : Bool) : String :=
  s!"Signer \x7b index: {index}, address: " ++ s.address.text ++ s!", leased: {leased} \x7d"

end Signer

end GasFaucet
