import GasFaucet.Funding.Watch
import GasFaucet.Tally

/-!
# The desk

What all funding requests and watches share: the time, the pool, the counts, the watches, whether the
faucet is stopping, and the journal of everything that was noted, asked and answered.
-/

namespace GasFaucet

inductive Actor
  | request (number : Nat)
  | watch (number : Nat)
  | census (number : Nat) (index : Nat)
  deriving DecidableEq

inductive Entry
  | noted (notice : Notice)
  | asked (who : Actor) (query : Query)
  | answered (who : Actor) (query : Query) (answer : Answer)

/-- The shared state of a running faucet.  The journal has its latest line first. -/
structure Desk where
  now : Nat
  pool : Pool
  tally : Tally
  watches : List Watch
  stopped : Bool
  journal : List (Nat × Entry)

namespace Desk

def fresh (pool : Pool) : Desk where
  now := 0
  pool := pool
  tally := .empty
  watches := []
  stopped := false
  journal := []

def write (d : Desk) (e : Entry) : Desk :=
  { d with journal := (d.now, e) :: d.journal }

def note (d : Desk) (n : Notice) : Desk :=
  d.write (.noted n)

def lease? (d : Desk) (accepts : Lease → Bool) : Option (Lease × Desk) :=
  match d.pool.lease? accepts with
  | none => none
  | some (lease, pool) =>
      let d := { d with pool := pool, tally := d.tally.signerLeased }
      some (lease, d.note (.signerLeased lease.signer.address lease.index))

def release (d : Desk) (lease : Lease) : Desk :=
  let d := { d with pool := d.pool.release lease, tally := d.tally.signerReleased }
  d.note (.signerReleased lease.signer.address)

def skip (d : Desk) (reason : String) : Desk :=
  { d with tally := d.tally.signerSkip reason }

/-- Begins to wind the faucet up: no request starts another round. -/
def stop (d : Desk) : Desk :=
  { d with stopped := true }.note .stopping

end Desk

end GasFaucet
