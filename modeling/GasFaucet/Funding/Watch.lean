import GasFaucet.Funding.Request

/-!
# Confirmation watches

Every broadcast transfer is watched until it is mined, its lookup fails or its time is up.  The watch
holds the signer's lease from the broadcast on.
-/

namespace GasFaucet

inductive Conclusion
  | confirmed
  | reverted
  | givenUp (reason : String)
  deriving DecidableEq

namespace Conclusion

def label : Conclusion → String
  | confirmed => "confirmed"
  | reverted => "failed"
  | givenUp _ => "given_up"

def transactionStatus : Conclusion → TransactionStatus
  | confirmed => .confirmed
  | reverted => .failed
  | givenUp _ => .unknown

def status (c : Conclusion) : String :=
  c.transactionStatus.text

end Conclusion

/-- How far a watch has come; `since` is when it began. -/
inductive WatchProgress
  | planned
  | sleeping (since wakeAt : Nat)
  | asking (since : Nat)
  | concluded (conclusion : Conclusion)
  | crashed
  deriving DecidableEq

structure Watch where
  transaction : Transaction
  lease : Lease
  progress : WatchProgress

namespace Watch

def lease? (w : Watch) : Option Lease :=
  match w.progress with
  | .concluded _ | .crashed => none
  | _ => some w.lease

def query? (w : Watch) : Option Query :=
  match w.progress with
  | .asking _ => some (.receipt w.transaction.hash)
  | _ => none

def report? (w : Watch) : Option Conclusion :=
  match w.progress with
  | .concluded c => some c
  | .crashed => some (.givenUp "tracker task ended without reporting")
  | _ => none

/-- What the answer to a receipt lookup at time `now` means for a watch: its end, or another wait. -/
def judge (limit : Option Nat) (since now : Nat) : Except Failure Bool → Option Conclusion
  | .ok true => some .confirmed
  | .ok false => some .reverted
  | .error (.receiptNotFound _) =>
      match limit with
      | none => none
      | some limit =>
          let limitSecs := limit / 1000
          if limit ≤ now - since then some (.givenUp s!"no receipt after {limitSecs}s") else none
  | .error f => some (.givenUp f.message)

end Watch

end GasFaucet
