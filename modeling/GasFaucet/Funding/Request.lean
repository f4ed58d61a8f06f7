import GasFaucet.Node.Query
import GasFaucet.Pool
import GasFaucet.Terms

/-!
# Funding requests

A request asks that a destination be topped up.  It first waits for the destination's balance, then
goes through rounds: in a round it leases the free signers one after the other, asking the node on
behalf of each, and between rounds it rests.
-/

namespace GasFaucet

/-- What a caller asks for: top up `destination` with `amount` unless it holds more than `cap`. -/
structure Request where
  destination : Address
  cap : Word
  amount : Word
  deriving DecidableEq

/-- The amount to send: what the caller names, or the default where that is zero. -/
def Request.effectiveAmount (r : Request) (terms : Terms) : Word :=
  if r.amount.toNat = 0 then terms.defaultAmount else r.amount

inductive TransactionStatus
  | submitted
  | confirmed
  | failed
  | unknown
  deriving DecidableEq

def TransactionStatus.text : TransactionStatus → String
  | submitted => "Submitted"
  | confirmed => "Confirmed"
  | failed => "Failed"
  | unknown => "Unknown"

/-- A transfer that was broadcast.  `hash` is the node's name for it. -/
structure Transaction where
  hash : Digest
  nonce : Word
  sender : Address
  destination : Address
  amount : Word
  submittedAt : Nat
  status : TransactionStatus := .submitted
  deriving DecidableEq

/-- What a caller gets for a transfer that is under way; `watch` numbers its confirmation watch. -/
structure Ticket where
  amount : Word
  transaction : Transaction
  watch : Nat
  deriving DecidableEq

/-- What the node is being asked on behalf of a leased signer. -/
inductive Stage
  | balance
  | gasPrice
  | nonce (gasPrice : Word)
  | broadcast (transfer : SignedTransfer)

inductive Verdict
  | alreadyFunded (balance : Word)
  | inFlight (ticket : Ticket)
  | failed (failure : Failure)
  deriving DecidableEq

namespace Verdict

def label : Verdict → String
  | alreadyFunded _ => "already_funded"
  | inFlight _ => "in_flight"
  | failed (.noSignerAvailable _) => "no_signer"
  | failed _ => "error"

def amountInFlight : Verdict → Word
  | inFlight ticket => ticket.amount
  | _ => 0

end Verdict

/--
How far a request has come.  `since` is when it passed the gate, and `tried` holds the addresses that
its present round has leased.  What it held when it broke down has been given back.
-/
inductive Progress
  | gate
  | trying (since : Nat) (tried : List Address) (lease : Lease) (stage : Stage)
  | resting (since wakeAt : Nat)
  | ended (verdict : Verdict)
  | crashed (message : String) (held : Option Lease)
  | cancelled

namespace Progress

def lease? : Progress → Option Lease
  | trying _ _ lease _ => some lease
  | _ => none

def query? (p : Progress) (r : Request) : Option Query :=
  match p with
  | gate => some (.balance r.destination)
  | trying _ _ lease .balance => some (.balance lease.signer.address)
  | trying _ _ _ .gasPrice => some .gasPrice
  | trying _ _ lease (.nonce _) => some (.nonce lease.signer.address)
  | trying _ _ _ (.broadcast transfer) => some (.broadcast transfer)
  | _ => none

def isOver : Progress → Bool
  | ended _ | crashed .. | cancelled => true
  | _ => false

end Progress

end GasFaucet
