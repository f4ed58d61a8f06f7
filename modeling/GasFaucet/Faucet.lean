import GasFaucet.Funding.Census
import GasFaucet.Funding.Tracking

/-!
# The running faucet

All requests, watches and censuses of one faucet over one desk.  Between two events nobody runs; an
event lets one of them run until it waits again.  What the node answers, how long it takes and in
which order everybody goes on is left open: any list of events is a possible run.
-/

namespace GasFaucet

structure Faucet where
  desk : Desk
  requests : List (Request × Progress)
  censuses : List Census

/-- What may happen to a running faucet. -/
inductive Event
  | request (r : Request)
  | answerRequest (number : Nat) (answer : Answer)
  | wakeRequest (number : Nat)
  | cancelRequest (number : Nat)
  | wakeWatch (number : Nat)
  | answerWatch (number : Nat) (answer : Answer)
  | census
  | answerCensus (number index : Nat) (answer : Answer)
  | stop
  | pass (ms : Nat)

def holdings (requests : List (Request × Progress)) (watches : List Watch) : Actor → Option Lease
  | .request number => requests[number]?.bind (·.2.lease?)
  | .watch number => watches[number]?.bind Watch.lease?
  | .census .. => none

namespace Faucet

def fresh (pool : Pool) : Faucet :=
  ⟨.fresh pool, [], []⟩

def leaseOf? (f : Faucet) : Actor → Option Lease :=
  holdings f.requests f.desk.watches

def query? (f : Faucet) : Actor → Option Query
  | .request number => f.requests[number]?.bind fun (r, progress) => progress.query? r
  | .watch number => f.desk.watches[number]?.bind Watch.query?
  | .census number index =>
      match f.censuses[number]? with
      | none => none
      | some c =>
          match c.lines[index]?, f.desk.pool.slots[index]? with
          | some none, some slot => some (.balance slot.signer.address)
          | _, _ => none

def wakeAt? (f : Faucet) : Actor → Option Nat
  | .request number =>
      match f.requests[number]? with
      | some (_, .resting _ wakeAt) => some wakeAt
      | _ => none
  | .watch number =>
      match f.desk.watches[number]? with
      | some ⟨_, _, .sleeping _ wakeAt⟩ => some wakeAt
      | _ => none
  | .census .. => none

/-- Writes into the journal what an actor now asks, if anything. -/
def writeQuery (f : Faucet) (who : Actor) : Faucet :=
  match f.query? who with
  | some q => { f with desk := f.desk.write (.asked who q) }
  | none => f

/-- Writes an answer into the journal, if the actor waits for an answer of its sort. -/
def hear? (f : Faucet) (who : Actor) (answer : Answer) : Option Faucet :=
  match f.query? who with
  | some q =>
      if q.admits answer then some { f with desk := f.desk.write (.answered who q answer) } else none
  | none => none

def runRequest (f : Faucet) (number : Nat) (run : Desk → Request → Progress → Desk × Progress) :
    Faucet :=
  match f.requests[number]? with
  | none => f
  | some (r, progress) =>
      let (desk, progress) := run f.desk r progress
      writeQuery { f with desk := desk, requests := f.requests.set number (r, progress) }
        (.request number)

def accept (f : Faucet) (r : Request) : Faucet :=
  writeQuery { f with requests := f.requests ++ [(r, .gate)] } (.request f.requests.length)

def answerRequest (p : Policy) (f : Faucet) (number : Nat) (answer : Answer) : Faucet :=
  match f.hear? (.request number) answer with
  | none => f
  | some f => f.runRequest number fun d r progress => d.resume p r progress answer

def wakeRequest (p : Policy) (f : Faucet) (number : Nat) : Faucet :=
  match f.wakeAt? (.request number) with
  | some wakeAt =>
      if wakeAt ≤ f.desk.now then f.runRequest number fun d _ progress => d.wake p progress else f
  | none => f

def cancelRequest (f : Faucet) (number : Nat) : Faucet :=
  match f.requests[number]? with
  | none => f
  | some (r, progress) =>
      let (desk, progress) := f.desk.cancel progress
      { f with desk := desk, requests := f.requests.set number (r, progress) }

def wakeWatch (p : Policy) (f : Faucet) (number : Nat) : Faucet :=
  match f.query? (.watch number) with
  | some _ => f
  | none => writeQuery { f with desk := f.desk.wakeWatch p number } (.watch number)

def answerWatch (p : Policy) (f : Faucet) (number : Nat) (answer : Answer) : Faucet :=
  match answer, f.hear? (.watch number) answer with
  | .mined reply, some f => { f with desk := f.desk.onReceipt p number reply }
  | _, _ => f

/-- A census begins: it asks for all balances in the order of the pool. -/
def beginCensus (f : Faucet) : Faucet :=
  let number := f.censuses.length
  let f := { f with censuses := f.censuses ++ [.start f.desk.pool] }
  (List.range f.desk.pool.size).foldl (fun f index => f.writeQuery (.census number index)) f

def answerCensus (f : Faucet) (number index : Nat) (answer : Answer) : Faucet :=
  match answer, f.hear? (.census number index) answer with
  | .number reply, some f =>
      { f with censuses := f.censuses.modify number fun c => c.enter f.desk.pool index reply }
  | _, _ => f

def step (p : Policy) (f : Faucet) : Event → Faucet
  | .request r => f.accept r
  | .answerRequest number answer => f.answerRequest p number answer
  | .wakeRequest number => f.wakeRequest p number
  | .cancelRequest number => f.cancelRequest number
  | .wakeWatch number => f.wakeWatch p number
  | .answerWatch number answer => f.answerWatch p number answer
  | .census => f.beginCensus
  | .answerCensus number index answer => f.answerCensus number index answer
  | .stop => { f with desk := f.desk.stop }
  | .pass ms => { f with desk := { f.desk with now := f.desk.now + ms } }

def run (p : Policy) (f : Faucet) (events : List Event) : Faucet :=
  events.foldl (step p) f

end Faucet

end GasFaucet
