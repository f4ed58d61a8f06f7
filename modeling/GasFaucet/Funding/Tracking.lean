import GasFaucet.Funding.Round

/-!
# Tracking

How a confirmation watch goes on: it sleeps, looks the receipt up, and at its end settles the signer
before it reports.  A watch that gives up clears the signer's nonce floor, since its transfer may
never land.
-/

namespace GasFaucet.Desk

def setWatch (d : Desk) (number : Nat) (progress : WatchProgress) : Desk :=
  { d with watches := d.watches.modify number fun w => { w with progress := progress } }

def sleepWatch (d : Desk) (p : Policy) (number since : Nat) : Desk :=
  d.setWatch number (.sleeping since (d.now + p.terms.pollInterval))

def concludingNotice (t : Transaction) (elapsedMs : Nat) : Conclusion → Notice
  | .confirmed => .transferConfirmed t.hash t.sender t.destination t.amount elapsedMs
  | .reverted => .transferReverted t.hash t.sender t.destination
  | .givenUp reason => .trackingStopped t.hash t.sender reason

/-- Ends a watch: the floor is cleared if it gave up, the end is counted, and the signer is released. -/
def concludeWatch (d : Desk) (p : Policy) (number : Nat) (w : Watch) (c : Conclusion) : Desk :=
  let elapsed := d.now - w.transaction.submittedAt
  let d :=
    match c with
    | .givenUp _ => { d with pool := d.pool.modifyFloor w.lease.index fun _ => .clear }
    | _ => d
  let d := d.note (concludingNotice w.transaction elapsed c)
  let d := { d with tally := d.tally.confirmation p.chainId c.label elapsed }
  (d.release w.lease).setWatch number (.concluded c)

/-- A planned watch begins, or a sleeping one whose time has come looks the receipt up. -/
def wakeWatch (d : Desk) (p : Policy) (number : Nat) : Desk :=
  match d.watches[number]? with
  | none => d
  | some w =>
      match w.progress with
      | .planned => d.sleepWatch p number d.now
      | .sleeping since wakeAt => if wakeAt ≤ d.now then d.setWatch number (.asking since) else d
      | _ => d

def onReceipt (d : Desk) (p : Policy) (number : Nat) (reply : Reply Bool) : Desk :=
  match d.watches[number]? with
  | none => d
  | some w =>
      match w.progress with
      | .asking since =>
          match reply with
          | .crash _ => (d.release w.lease).setWatch number .crashed
          | .value mined =>
              match Watch.judge p.terms.confirmationTimeout since d.now (.ok mined) with
              | some c => d.concludeWatch p number w c
              | none => d.sleepWatch p number since
          | .failure f =>
              match Watch.judge p.terms.confirmationTimeout since d.now (.error f) with
              | some c => d.concludeWatch p number w c
              | none => (d.note (.transferPending w.transaction.hash)).sleepWatch p number since
      | _ => d

end GasFaucet.Desk
