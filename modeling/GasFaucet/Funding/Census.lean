import GasFaucet.Funding.Desk

/-!
# Censuses

A census asks for the balances of all signers at once.  Each line of it is written when that signer's
own balance comes back, with the signer's lease flag of that moment.
-/

namespace GasFaucet

/-- What is known of one signer; the balance is absent where it could not be read. -/
structure SignerLine where
  index : Nat
  address : Address
  leased : Bool
  balance : Option Word
  deriving DecidableEq

def Pool.line? (p : Pool) (index : Nat) (reply : Reply Word) : Option SignerLine :=
  match p.slots[index]?, reply with
  | some slot, .value balance => some ⟨index, slot.signer.address, slot.leased, some balance⟩
  | some slot, .failure _ => some ⟨index, slot.signer.address, slot.leased, none⟩
  | _, _ => none

/-- A census under way: a line for each signer that was answered for, or who broke down. -/
structure Census where
  lines : List (Option SignerLine)
  crashed : Option String

namespace Census

def start (p : Pool) : Census :=
  ⟨List.replicate p.size none, none⟩

def enter (c : Census) (p : Pool) (index : Nat) (reply : Reply Word) : Census :=
  match c.lines[index]?, reply with
  | some none, .crash m => { c with crashed := c.crashed.or (some m) }
  | some none, reply => { c with lines := c.lines.set index (p.line? index reply) }
  | _, _ => c

def report? (c : Census) : Option (List SignerLine) :=
  c.lines.mapM id

end Census

end GasFaucet
