import GasFaucet.Ledger

/-!
# Scripted nodes

A node whose accounts, latencies and faults are laid down in advance and may be changed between the
queries.
-/

namespace GasFaucet

inductive QuerySort
  | balance
  | gasPrice
  | nonce
  | broadcast
  | receipt
  deriving DecidableEq

def Query.sort : Query → QuerySort
  | .balance _ => .balance
  | .gasPrice => .gasPrice
  | .nonce _ => .nonce
  | .broadcast _ => .broadcast
  | .receipt _ => .receipt

def Query.account? : Query → Option Address
  | .balance a => some a
  | .nonce a => some a
  | .broadcast t => some t.sender
  | _ => none

/-- An error that a script orders: a failure, or the breakdown of the one who answers. -/
inductive Mishap
  | failure (f : Failure)
  | crash (message : String)

def Mishap.answer (m : Mishap) (q : Query) : Answer :=
  match m with
  | .failure f => q.failed f
  | .crash message => q.crashed message

/-- An error for queries of one sort, perhaps about one account only and a limited number of times. -/
structure Fault where
  sort : QuerySort
  account : Option Address
  times : Option Nat
  mishap : Mishap

def Fault.strikes (f : Fault) (q : Query) : Bool :=
  f.sort = q.sort && f.times ≠ some 0 &&
    match f.account with
    | none => true
    | some a => q.account? = some a

inductive Ending
  | success
  | revert
  | pending
  | mishap (m : Mishap)

/-- What becomes of a transaction: how many lookups find nothing, and how they end. -/
structure LookupPlan where
  polls : Nat
  ending : Ending

structure ScriptedNode where
  balances : Address → Word
  nonces : Address → Word
  gasPrice : Option Word
  plan : LookupPlan
  plans : Address → Option LookupPlan
  latencies : QuerySort → Nat
  faults : List Fault
  reportHash : Option Digest
  frozenNonce : Bool
  checkFunds : Bool
  stored : Digest → Option LookupPlan
  accepted : List SignedTransfer

namespace ScriptedNode

def fresh : ScriptedNode where
  balances := fun _ => 0
  nonces := fun _ => 0
  gasPrice := some 1000000000
  plan := ⟨0, .success⟩
  plans := fun _ => none
  latencies := fun _ => 0
  faults := []
  reportHash := none
  frozenNonce := false
  checkFunds := false
  stored := fun _ => none
  accepted := []

def strike? : List Fault → Query → Option (Mishap × List Fault)
  | [], _ => none
  | f :: rest, q =>
      if f.strikes q then some (f.mishap, { f with times := f.times.map (· - 1) } :: rest)
      else (strike? rest q).map fun (m, rest) => (m, f :: rest)

def broadcast (n : ScriptedNode) (t : SignedTransfer) : ScriptedNode × Reply Digest :=
  let cost := t.value.addSat (t.gasPrice.mulSat t.gasLimit)
  if n.checkFunds && n.balances t.sender < cost then
    (n, .failure (.broadcast t.sender.text "insufficient funds for gas * price + value"))
  else if t.nonce < n.nonces t.sender then (n, .failure (.broadcast t.sender.text "nonce too low"))
  else
    let paid := update n.balances t.sender ((n.balances t.sender).subSat t.value)
    let hash := n.reportHash.getD t.hash
    ({ n with
        nonces := if n.frozenNonce then n.nonces else update n.nonces t.sender (t.nonce.addSat 1)
        balances := update paid t.destination ((paid t.destination).addSat t.value)
        stored := update n.stored hash (some ((n.plans t.sender).getD n.plan))
        accepted := n.accepted ++ [t] },
      .value hash)

def receiptStatus (n : ScriptedNode) (hash : Digest) : ScriptedNode × Reply Bool :=
  let notFound : Reply Bool := .failure (.receiptNotFound hash.text)
  match n.stored hash with
  | none => (n, notFound)
  | some ⟨polls + 1, ending⟩ =>
      ({ n with stored := update n.stored hash (some ⟨polls, ending⟩) }, notFound)
  | some ⟨0, .success⟩ => (n, .value true)
  | some ⟨0, .revert⟩ => (n, .value false)
  | some ⟨0, .pending⟩ => (n, notFound)
  | some ⟨0, .mishap (.failure f)⟩ => (n, .failure f)
  | some ⟨0, .mishap (.crash m)⟩ => (n, .crash m)

def serve (n : ScriptedNode) (q : Query) : ScriptedNode × Answer :=
  match q with
  | .balance a => (n, .number (.value (n.balances a)))
  | .gasPrice =>
      match n.gasPrice with
      | some price => (n, .number (.value price))
      | none => (n, .number (.failure (.query "gas price" "no suggestion")))
  | .nonce a => (n, .number (.value (n.nonces a)))
  | .broadcast t => let (n, reply) := n.broadcast t; (n, .digest reply)
  | .receipt hash => let (n, reply) := n.receiptStatus hash; (n, .mined reply)

def answer (n : ScriptedNode) (q : Query) : ScriptedNode × Answer :=
  match strike? n.faults q with
  | some (m, faults) => ({ n with faults := faults }, m.answer q)
  | none => n.serve q

def model : NodeModel ScriptedNode where
  latency := fun n q => n.latencies q.sort
  answer := answer

end ScriptedNode

/-- A node that knows receipts only: each lookup is answered by the next of a list, whose last repeats. -/
structure ReceiptScript where
  next : Option (Reply Bool)
  rest : List (Reply Bool)
  latency : Nat

namespace ReceiptScript

def answer (s : ReceiptScript) (q : Query) : ReceiptScript × Answer :=
  match q with
  | .receipt _ =>
      let reply := s.next.getD (.failure (.receiptNotFound ""))
      match s.rest with
      | [] => (s, .mined reply)
      | r :: rest => ({ s with next := some r, rest := rest }, .mined reply)
  | q => (s, q.failed (.internal "only receipts are known"))

def model : NodeModel ReceiptScript where
  latency := fun s _ => s.latency
  answer := answer

end ReceiptScript

end GasFaucet
