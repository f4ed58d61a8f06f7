import GasFaucet.Node.Call
import GasFaucet.Node.Decode
import GasFaucet.Node.Query
import GasFaucet.Url
import GasFaucet.Settings

/-!
# Links

A link is the faucet's access to one node, made after the node has reported the chain id of the
configured network.  Every call is bounded by the link's timeout: what has not come by then comes to
nothing, and what comes counts only if it is of the expected sort.
-/

namespace GasFaucet

/-- What comes of a call: a result, or the transport's complaint. -/
inductive Outcome
  | result (j : Json)
  | refusal (message : String)

def Outcome.rejected (code : Int) (message : String) (data : Option Json) : Outcome :=
  let data :=
    match data with
    | some j => "Some(" ++ j.inspect ++ ")"
    | none => "None"
  .refusal (s!"(code: {code}, message: {message}, data: " ++ data ++ ")")

/-- What comes of a call, and after how many milliseconds. -/
structure Delivery where
  delay : Nat
  outcome : Outcome

/-- What has come when a time limit is over; on the limit still counts. -/
def Delivery.within (d : Delivery) (limit : Nat) : Option Outcome :=
  if d.delay ≤ limit then some d.outcome else none

theorem Delivery.within_of_le {d : Delivery} {limit : Nat} (inTime : d.delay ≤ limit) :
    d.within limit = some d.outcome :=
  if_pos inTime

theorem Delivery.within_of_lt {d : Delivery} {limit : Nat} (late : limit < d.delay) :
    d.within limit = none :=
  if_neg (Nat.not_le_of_lt late)

/--
A line to a node: the time, what will be delivered for the calls to come, the calls made so far, and
what was noted about them.
-/
structure Wire where
  now : Nat
  script : List Delivery
  calls : List (Nat × Call)
  notices : List (Nat × Notice)

namespace Wire

def fresh (script : List Delivery) : Wire :=
  ⟨0, script, [], []⟩

def next (w : Wire) : Delivery :=
  w.script.headD ⟨0, .refusal "no reply scripted"⟩

/-- Makes a call and waits for what comes of it; nothing comes when the time is up first. -/
def exchange (w : Wire) (limit : Nat) (call : Call) : Option Outcome × Wire :=
  let d := w.next
  (d.within limit,
    { w with
      now := w.now + min d.delay limit
      script := w.script.tail
      calls := w.calls ++ [(w.now, call)] })

def note (w : Wire) (n : Notice) : Wire :=
  { w with notices := w.notices ++ [(w.now, n)] }

end Wire

def undecodable : String :=
  "undecodable result"

def heard {α : Type} (operation : String) (decode : Json → Option α) :
    Option Outcome → Except Failure α
  | none => .error (.timeout operation)
  | some (.refusal message) => .error (.query operation message)
  | some (.result j) =>
      match decode j with
      | some a => .ok a
      | none => .error (.query operation undecodable)

def heardBroadcast (sender : Address) : Option Outcome → Except Failure Digest
  | none => .error (.timeout "broadcast")
  | some (.refusal message) => .error (.broadcast sender.text message)
  | some (.result j) =>
      match j.digest? with
      | some hash => .ok hash
      | none => .error (.broadcast sender.text undecodable)

def heardReceipt (transaction : Digest) (outcome : Option Outcome) : Except Failure Bool :=
  match heard "receipt" Json.receipt? outcome with
  | .error f => .error f
  | .ok (some succeeded) => .ok succeeded
  | .ok none => .error (.receiptNotFound transaction.text)

def heardAlive (outcome : Option Outcome) : Bool :=
  match heard "block number" (Json.quantity? 16) outcome with
  | .ok _ => true
  | .error _ => false

def Reply.ofExcept {α : Type} : Except Failure α → Reply α
  | .ok a => .value a
  | .error f => .failure f

def Query.heard : Query → Option Outcome → Answer
  | .balance _, o => .number (.ofExcept (GasFaucet.heard "balance" Json.word? o))
  | .gasPrice, o => .number (.ofExcept (GasFaucet.heard "gas price" Json.word? o))
  | .nonce _, o => .number (.ofExcept (GasFaucet.heard "nonce" Json.word? o))
  | .broadcast t, o => .digest (.ofExcept (heardBroadcast t.sender o))
  | .receipt transaction, o => .mined (.ofExcept (heardReceipt transaction o))

def Query.call : Query → Call
  | .balance account => .balance account .latest
  | .gasPrice => .gasPrice
  | .nonce account => .nonce account
  | .broadcast t => .broadcast t.raw
  | .receipt transaction => .receipt transaction

/-- Access to one node of a network; `timeout` is in milliseconds. -/
structure Link where
  network : Network
  endpoint : String
  timeout : Nat
  gasLimit : Word
  defaultAmount : Word

namespace Link

def timeoutText (secs : UInt64) : String :=
  if secs = 0 then "0ns" else toString secs.toNat ++ "s"

def plan (s : NetworkSettings) : Except Failure Link :=
  match Network.byName? s.name with
  | none => .error (.unknownNetwork s.name)
  | some network =>
      match s.amountOn network with
      | .error _ => .error (.config (amountComplaint (s.defaultAmount.getD "")))
      | .ok amount =>
          .ok {
            network := network
            endpoint := s.endpoint
            timeout := s.timeoutSecs.toNat * 1000
            gasLimit := (s.gasLimit.map fun g => BitVec.ofNat 256 g.toNat).getD transferGas
            defaultAmount := amount }

/-- Whether the node serves the link's network, by the outcome of asking it for its chain id. -/
def verify (l : Link) (secs : UInt64) : Option Outcome → Except Failure Unit
  | none => .error (.connect l.endpoint ("no answer within " ++ timeoutText secs))
  | some (.refusal message) => .error (.connect l.endpoint message)
  | some (.result j) =>
      match j.word? with
      | none => .error (.connect l.endpoint undecodable)
      | some reported => l.network.checkChainId reported

def establish (s : NetworkSettings) (w : Wire) : Except Failure Link × Wire :=
  match plan s with
  | .error f => (.error f, w)
  | .ok link =>
      let (outcome, w) := w.exchange link.timeout .chainId
      match link.verify s.timeoutSecs outcome with
      | .error f => (.error f, w)
      | .ok _ => (.ok link, w.note (.connected link.network.name link.network.chainId.toNat link.endpoint))

def connect (s : NetworkSettings) (w : Wire) : Except Failure Link × Wire :=
  match Url.check s.endpoint with
  | .error fault => (.error (.connect s.endpoint fault.message), w)
  | .ok _ => establish s w

def balanceOf (l : Link) (account : Address) (block : BlockTag) (w : Wire) : Except Failure Word × Wire :=
  let (outcome, w) := w.exchange l.timeout (.balance account block)
  (heard "balance" Json.word? outcome, w)

def suggestGasPrice (l : Link) (w : Wire) : Except Failure Word × Wire :=
  let (outcome, w) := w.exchange l.timeout .gasPrice
  (heard "gas price" Json.word? outcome, w)

def nextNonce (l : Link) (account : Address) (w : Wire) : Except Failure Word × Wire :=
  let (outcome, w) := w.exchange l.timeout (.nonce account)
  (heard "nonce" Json.word? outcome, w)

/-- Hands a transfer to the node; the result is the hash that the node gives it. -/
def broadcast (l : Link) (t : SignedTransfer) (w : Wire) : Except Failure Digest × Wire :=
  let (outcome, w) := w.exchange l.timeout (.broadcast t.raw)
  match heardBroadcast t.sender outcome with
  | .ok hash => (.ok hash, if hash = t.hash then w else w.note (.hashDiffers t.hash hash))
  | .error f => (.error f, w)

def receiptStatus (l : Link) (transaction : Digest) (w : Wire) : Except Failure Bool × Wire :=
  let (outcome, w) := w.exchange l.timeout (.receipt transaction)
  (heardReceipt transaction outcome, w)

def isAlive (l : Link) (w : Wire) : Bool × Wire :=
  let (outcome, w) := w.exchange l.timeout .blockNumber
  (heardAlive outcome, w)

/-- The gas price of the next transfer; the node is asked only if no price is fixed. -/
def gasPrice (l : Link) (pricing : GasPricing) (w : Wire) : Word × Wire :=
  match pricing.fixed with
  | some price => (price, w)
  | none =>
      let (suggestion, w) := l.suggestGasPrice w
      let (price, notice) := pricing.settle suggestion
      (price, w.note notice)

end Link

end GasFaucet
