import GasFaucet.Funding.Desk

/-!
# Rounds

How a funding request goes on when the node answers it, when it wakes from a rest, and when it is
cancelled.  Every function takes the desk as it is and returns the desk as the request leaves it,
with the request's new progress.
-/

namespace GasFaucet

structure Policy where
  chainId : UInt64
  pricing : GasPricing
  terms : Terms

namespace Desk

def conclude (d : Desk) (p : Policy) (v : Verdict) : Desk × Progress :=
  ({ d with tally := d.tally.fundRequest p.chainId v.label }, .ended v)

/-- Ends a round in which no signer could pay: the request fails where its wait is over, else it rests. -/
def endRound (d : Desk) (p : Policy) (since : Nat) : Desk × Progress :=
  let waited := d.now - since
  let rest (sleep : Nat) : Desk × Progress :=
    (d.note (.waiting sleep d.pool.leasedCount), .resting since (d.now + sleep))
  match p.terms.maxLeaseWait with
  | none => rest p.terms.retryInterval
  | some limit =>
      if limit ≤ waited then
        (d.note (.waitExhausted (waited / 1000) d.pool.size)).conclude p
          (.failed (.noSignerAvailable (waited / 1000)))
      else rest (min p.terms.retryInterval (limit - waited))

def tryNext (d : Desk) (p : Policy) (since : Nat) (tried : List Address) : Desk × Progress :=
  match d.lease? fun l => !tried.contains l.signer.address with
  | some (lease, d) => (d, .trying since (lease.signer.address :: tried) lease .balance)
  | none => d.endRound p since

def beginRound (d : Desk) (p : Policy) (since : Nat) : Desk × Progress :=
  if d.stopped then d.conclude p (.failed .shuttingDown) else d.tryNext p since []

def passGate (d : Desk) (p : Policy) (r : Request) : Reply Word → Desk × Progress
  | .crash m => (d, .crashed m none)
  | .failure f => d.conclude p (.failed f)
  | .value balance =>
      if r.cap < balance then
        (d.note (.alreadyFunded balance r.cap)).conclude p (.alreadyFunded balance)
      else d.beginRound p d.now

/-- Gives the signer back after a failed attempt; the failure decides whether the round goes on. -/
def abandon (d : Desk) (p : Policy) (since : Nat) (tried : List Address) (lease : Lease) (f : Failure) :
    Desk × Progress :=
  let d := d.release lease
  if f.skipsSigner then
    ((d.note (.attemptSkipped f)).skip "broadcast_error").tryNext p since tried
  else (d.note (.attemptFailed f)).conclude p (.failed f)

def breakDown (d : Desk) (lease : Lease) (message : String) : Desk × Progress :=
  (d.release lease, .crashed message (some lease))

def onBalance (d : Desk) (p : Policy) (r : Request) (since : Nat) (tried : List Address)
    (lease : Lease) : Reply Word → Desk × Progress
  | .crash m => d.breakDown lease m
  | .failure f =>
      (((d.note (.balanceUnknown lease.signer.address f)).skip "balance_error").release
        lease).tryNext p since tried
  | .value balance =>
      let amount := r.effectiveAmount p.terms
      if amount ≤ balance then
        let d := d.note (.signerSelected lease.signer.address balance)
        match p.pricing.fixed with
        | some price => (d, .trying since tried lease (.nonce price))
        | none => (d, .trying since tried lease .gasPrice)
      else
        (((d.note (.balanceTooLow lease.signer.address balance amount)).skip
          "insufficient_balance").release lease).tryNext p since tried

def onGasPrice (d : Desk) (p : Policy) (since : Nat) (tried : List Address) (lease : Lease) :
    Reply Word → Desk × Progress
  | .crash m => d.breakDown lease m
  | .failure f =>
      let (price, notice) := p.pricing.settle (.error f)
      (d.note notice, .trying since tried lease (.nonce price))
  | .value suggested =>
      let (price, notice) := p.pricing.settle (.ok suggested)
      (d.note notice, .trying since tried lease (.nonce price))

/-- Hands a signed transfer to the node; the attempt fails where it could not be signed. -/
def offer (d : Desk) (p : Policy) (since : Nat) (tried : List Address) (lease : Lease) :
    Except Failure SignedTransfer → Desk × Progress
  | .error f => d.abandon p since tried lease f
  | .ok transfer => (d, .trying since tried lease (.broadcast transfer))

/-- Chooses the nonce above the signer's floor, signs the transfer and hands it to the node. -/
def onNonce (d : Desk) (p : Policy) (r : Request) (since : Nat) (tried : List Address)
    (lease : Lease) (gasPrice : Word) : Reply Word → Desk × Progress
  | .crash m => d.breakDown lease m
  | .failure f => d.abandon p since tried lease f
  | .value reported =>
      let floor := d.pool.floor lease.index
      let d :=
        match floor.ahead? reported with
        | some last => d.note (.nonceBehind reported last)
        | none => d
      match floor.next? reported with
      | none => d.breakDown lease overflowMessage
      | some nonce =>
          d.offer p since tried lease (lease.signer.sign
            ⟨r.destination, r.effectiveAmount p.terms, nonce, p.terms.gasLimit, gasPrice⟩)

/-- The node took the transfer: the floor rises, and a watch takes the lease over. -/
def onBroadcast (d : Desk) (p : Policy) (since : Nat) (tried : List Address) (lease : Lease)
    (transfer : SignedTransfer) : Reply Digest → Desk × Progress
  | .crash m => d.breakDown lease m
  | .failure f => d.abandon p since tried lease f
  | .value hash =>
      let transaction : Transaction :=
        { hash := hash
          nonce := transfer.nonce
          sender := lease.signer.address
          destination := transfer.destination
          amount := transfer.value
          submittedAt := d.now }
      let d := { d with pool := d.pool.modifyFloor lease.index (·.record transfer.nonce) }
      let d := d.note (.transferBroadcast transfer hash)
      let number := d.watches.length
      let watch : Watch := { transaction := transaction, lease := lease, progress := .planned }
      let d :=
        { d with
          tally := d.tally.transferSubmitted p.chainId
          watches := d.watches ++ [watch] }
      d.conclude p (.inFlight { amount := transfer.value, transaction := transaction, watch := number })

/-- The request goes on with an answer; an answer that it does not wait for leaves it as it is. -/
def resume (d : Desk) (p : Policy) (r : Request) : Progress → Answer → Desk × Progress
  | .gate, .number reply => d.passGate p r reply
  | .trying since tried lease .balance, .number reply => d.onBalance p r since tried lease reply
  | .trying since tried lease .gasPrice, .number reply => d.onGasPrice p since tried lease reply
  | .trying since tried lease (.nonce price), .number reply =>
      d.onNonce p r since tried lease price reply
  | .trying since tried lease (.broadcast transfer), .digest reply =>
      d.onBroadcast p since tried lease transfer reply
  | progress, _ => (d, progress)

def wake (d : Desk) (p : Policy) : Progress → Desk × Progress
  | .resting since wakeAt =>
      if wakeAt ≤ d.now then d.beginRound p since else (d, .resting since wakeAt)
  | progress => (d, progress)

def cancel (d : Desk) (progress : Progress) : Desk × Progress :=
  if progress.isOver then (d, progress)
  else
    match progress.lease? with
    | some lease => (d.release lease, .cancelled)
    | none => (d, .cancelled)

end Desk

end GasFaucet
