import GasFaucet.Rehearsal
import GasFaucet.Signer.NonceFloor

/-!
# A chain held in memory

A ledger of balances and nonces that accepts transfers and answers receipt lookups by plan.  It
counts how many senders had an unmined transaction at once, and how often a sender sent another one
while it had one.
-/

namespace GasFaucet

/-- What becomes of a transaction: its receipt comes after so many lookups, breaks off, or never comes. -/
inductive MiningPlan
  | success (pendingPolls : Nat)
  | revert (pendingPolls : Nat)
  | nodeError
  | pending
  deriving DecidableEq

def update {α β : Type} [DecidableEq α] (f : α → β) (a : α) (b : β) : α → β :=
  fun x => if x = a then b else f x

@[simp]
theorem update_self {α β : Type} [DecidableEq α] (f : α → β) (a : α) (b : β) : update f a b a = b := by
  simp [update]

theorem update_of_ne {α β : Type} [DecidableEq α] {f : α → β} {a x : α} {b : β} (h : x ≠ a) :
    update f a b x = f x := by
  simp [update, h]

theorem update_eq_self {α β : Type} [DecidableEq α] (f : α → β) (a : α) : update f a (f a) = f := by
  funext x
  unfold update
  split <;> simp_all

theorem update_none_eq_some_iff {α β : Type} [DecidableEq α] {f : α → Option β} {a x : α} {b : β} :
    update f a none x = some b ↔ x ≠ a ∧ f x = some b := by
  by_cases same : x = a
  · simp [same]
  · simp [update_of_ne same, same]

/--
The state of the chain.  `pending` holds the sender and the rest of the plan of every transaction
whose receipt has not been given, and `locked` says that a broadcast broke down half-way.
-/
structure Ledger where
  balances : Address → Word
  nonces : Address → Word
  gasPrice : Option Word
  defaultPlan : MiningPlan
  plans : Address → Option MiningPlan
  failingBalance : List Address
  failingBroadcast : List Address
  pending : Digest → Option (Address × MiningPlan)
  broadcasts : List SignedTransfer
  balanceQueries : List Address
  inFlight : List Address
  maxInFlight : Nat
  doubleSends : Nat
  latency : Nat
  locked : Bool

namespace Ledger

def fresh (latency : Nat) : Ledger where
  balances := fun _ => 0
  nonces := fun _ => 0
  gasPrice := some 1000000000
  defaultPlan := .success 0
  plans := fun _ => none
  failingBalance := []
  failingBroadcast := []
  pending := fun _ => none
  broadcasts := []
  balanceQueries := []
  inFlight := []
  maxInFlight := 0
  doubleSends := 0
  latency := latency
  locked := false

/-- What everybody is told who touches the state after a broadcast broke down. -/
def lockedMessage : String :=
  "called " ++ String.singleton '\x60' ++ "Result::unwrap()" ++ String.singleton '\x60' ++ " on an " ++
    String.singleton '\x60' ++ "Err" ++ String.singleton '\x60' ++ " value: PoisonError \x7b .. \x7d"

def injected (operation : String) : Failure :=
  .query operation "injected failure"

def balanceOf (l : Ledger) (a : Address) : Ledger × Reply Word :=
  let l := { l with balanceQueries := l.balanceQueries ++ [a] }
  if l.failingBalance.contains a then (l, .failure (injected "balance")) else (l, .value (l.balances a))

def suggestGasPrice (l : Ledger) : Reply Word :=
  match l.gasPrice with
  | some price => .value price
  | none => .failure (injected "gas price")

def refusal? (l : Ledger) (t : SignedTransfer) : Option Failure :=
  if l.failingBroadcast.contains t.sender then some (.broadcast t.sender.text "injected failure")
  else if t.nonce < l.nonces t.sender then some (.broadcast t.sender.text "nonce too low")
  else none

def moveValue? (balances : Address → Word) (t : SignedTransfer) : Option (Address → Word) :=
  let balances := update balances t.sender ((balances t.sender).subSat t.value)
  ((balances t.destination).add? t.value).map fun sum => update balances t.destination sum

/-- An account's balance after the sender of a transfer has paid for it, as far as it can. -/
def debited (balances : Address → Word) (t : SignedTransfer) (a : Address) : Nat :=
  (balances a).toNat - if a = t.sender then min t.value.toNat (balances a).toNat else 0

theorem toNat_debit (balances : Address → Word) (t : SignedTransfer) (a : Address) :
    (update balances t.sender ((balances t.sender).subSat t.value) a).toNat = debited balances t a := by
  unfold debited
  by_cases pays : a = t.sender
  · subst pays
    rw [update_self, if_pos rfl, Word.toNat_subSat]
    omega
  · rw [update_of_ne pays, if_neg pays, Nat.sub_zero]

theorem toNat_moveValue? {balances moved : Address → Word} {t : SignedTransfer}
    (done : moveValue? balances t = some moved) (a : Address) :
    (moved a).toNat = debited balances t a + if a = t.destination then t.value.toNat else 0 := by
  obtain ⟨sum, added, rfl⟩ := Option.map_eq_some_iff.mp done
  rw [Word.add?_eq_some_iff] at added
  by_cases receives : a = t.destination
  · subst receives
    rw [update_self, if_pos rfl, added, toNat_debit]
  · rw [update_of_ne receives, if_neg receives, toNat_debit, Nat.add_zero]

theorem moveValue?_eq_none_iff {balances : Address → Word} {t : SignedTransfer} :
    moveValue? balances t = none ↔ Word.modulus ≤ debited balances t t.destination + t.value.toNat := by
  unfold moveValue?
  rw [Option.map_eq_none_iff, Word.add?_eq_none_iff, toNat_debit]

/-- Takes a transfer, or refuses it; a nonce or a balance past the largest word breaks the broadcast down. -/
def broadcast (l : Ledger) (t : SignedTransfer) : Ledger × Reply Digest :=
  match l.refusal? t with
  | some f => (l, .failure f)
  | none =>
      match t.nonce.add? 1, moveValue? l.balances t with
      | some next, some balances =>
          let again := l.inFlight.contains t.sender
          let inFlight := if again then l.inFlight else t.sender :: l.inFlight
          ({ l with
              balances := balances
              nonces := update l.nonces t.sender next
              pending := update l.pending t.hash (some (t.sender, (l.plans t.sender).getD l.defaultPlan))
              broadcasts := l.broadcasts ++ [t]
              inFlight := inFlight
              maxInFlight := max l.maxInFlight inFlight.length
              doubleSends := l.doubleSends + again.toNat },
            .value t.hash)
      | _, _ => ({ l with locked := true }, .crash overflowMessage)

def settleReceipt (l : Ledger) (hash : Digest) (sender : Address) (reply : Reply Bool) :
    Ledger × Reply Bool :=
  ({ l with pending := update l.pending hash none, inFlight := l.inFlight.filter (· ≠ sender) }, reply)

def receiptStatus (l : Ledger) (hash : Digest) : Ledger × Reply Bool :=
  let notFound : Reply Bool := .failure (.receiptNotFound hash.text)
  match l.pending hash with
  | none => (l, notFound)
  | some (sender, plan) =>
      match plan with
      | .pending => (l, notFound)
      | .success (n + 1) =>
          ({ l with pending := update l.pending hash (some (sender, .success n)) }, notFound)
      | .revert (n + 1) =>
          ({ l with pending := update l.pending hash (some (sender, .revert n)) }, notFound)
      | .success 0 => l.settleReceipt hash sender (.value true)
      | .revert 0 => l.settleReceipt hash sender (.value false)
      | .nodeError => l.settleReceipt hash sender (.failure (injected "receipt"))

def answer (l : Ledger) (q : Query) : Ledger × Answer :=
  if l.locked && q ≠ .gasPrice then (l, q.crashed lockedMessage)
  else
    match q with
    | .balance a => let (l, reply) := l.balanceOf a; (l, .number reply)
    | .gasPrice => (l, .number l.suggestGasPrice)
    | .nonce a => (l, .number (.value (l.nonces a)))
    | .broadcast t => let (l, reply) := l.broadcast t; (l, .digest reply)
    | .receipt hash => let (l, reply) := l.receiptStatus hash; (l, .mined reply)

theorem receiptStatus_frame (l : Ledger) (hash : Digest) :
    ∃ pending inFlight, (l.receiptStatus hash).1 = { l with pending := pending, inFlight := inFlight } := by
  unfold receiptStatus
  cases l.pending hash with
  | none => exact ⟨l.pending, l.inFlight, rfl⟩
  | some entry =>
    obtain ⟨sender, plan⟩ := entry
    cases plan with
    | pending => exact ⟨l.pending, l.inFlight, rfl⟩
    | nodeError => exact ⟨_, _, rfl⟩
    | success polls | revert polls => cases polls <;> exact ⟨_, _, rfl⟩

/-- Without a broadcast, only what waits for a receipt changes, and the record of balance queries. -/
theorem answer_frame (l : Ledger) {q : Query} (other : ∀ t, q ≠ .broadcast t) :
    ∃ pending inFlight balanceQueries, (l.answer q).1 =
      { l with pending := pending, inFlight := inFlight, balanceQueries := balanceQueries } := by
  have untouched : ∃ pending inFlight balanceQueries, l =
      { l with pending := pending, inFlight := inFlight, balanceQueries := balanceQueries } :=
    ⟨l.pending, l.inFlight, l.balanceQueries, rfl⟩
  unfold answer
  split
  · exact untouched
  · cases q with
    | broadcast t => exact absurd rfl (other t)
    | gasPrice | nonce _ => exact untouched
    | balance a =>
      refine ⟨l.pending, l.inFlight, l.balanceQueries ++ [a], ?_⟩
      dsimp only [balanceOf]
      split <;> rfl
    | receipt hash =>
      obtain ⟨pending, inFlight, frame⟩ := l.receiptStatus_frame hash
      exact ⟨pending, inFlight, l.balanceQueries, frame⟩

inductive Arrangement
  | balance (account : Address) (balance : Word)
  | nonce (account : Address) (nonce : UInt64)
  | gasPrice (price : Option Word)
  | defaultPlan (plan : MiningPlan)
  | plan (sender : Address) (plan : MiningPlan)
  | failingBalance (account : Address)
  | failingBroadcast (sender : Address)

def Arrangement.needsLock : Arrangement → Bool
  | gasPrice _ | defaultPlan _ => false
  | balance .. | nonce .. | plan .. | failingBalance _ | failingBroadcast _ => true

def arranged (l : Ledger) : Arrangement → Ledger
  | .balance a balance => { l with balances := update l.balances a balance }
  | .nonce a nonce => { l with nonces := update l.nonces a (BitVec.ofNat 256 nonce.toNat) }
  | .gasPrice price => { l with gasPrice := price }
  | .defaultPlan plan => { l with defaultPlan := plan }
  | .plan sender plan => { l with plans := update l.plans sender (some plan) }
  | .failingBalance a => { l with failingBalance := a :: l.failingBalance }
  | .failingBroadcast sender => { l with failingBroadcast := sender :: l.failingBroadcast }

def arrange (l : Ledger) (a : Arrangement) : Ledger × Reply Unit :=
  if l.locked && a.needsLock then (l, .crash lockedMessage) else (l.arranged a, .value ())

def look {α : Type} (l : Ledger) (part : Ledger → α) : Reply α :=
  if l.locked then .crash lockedMessage else .value (part l)

def model : NodeModel Ledger where
  latency := fun l q =>
    match q with
    | .balance _ | .broadcast _ => l.latency
    | _ => 0
  answer := answer

end Ledger

end GasFaucet
