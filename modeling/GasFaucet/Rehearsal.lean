import GasFaucet.Faucet

/-!
# Rehearsals

A run of a faucet against a model of its node on a clock that moves only when everybody waits.  A
sleeper is due when its time has come and a query when its latency has passed; those due in the same
millisecond run in the order in which they began to wait, each until it waits again, and a watch that
one of them begins runs before the next of them.
-/

namespace GasFaucet

/-- A model of a node: how long a query takes, and what is answered after that time. -/
structure NodeModel (σ : Type) where
  latency : σ → Query → Nat
  answer : σ → Query → σ × Answer

/-- What happens when a time has come: an actor runs on, or a request is dropped. -/
inductive Turn
  | run (who : Actor)
  | expire (number : Nat)

/-- A faucet and its node; `waiting` holds the turns that wait for a time, and `ready` who may run now. -/
structure Rehearsal (σ : Type) where
  faucet : Faucet
  node : σ
  waiting : List (Nat × Turn)
  ready : List Actor

namespace Rehearsal

variable {σ : Type}

def start (pool : Pool) (node : σ) : Rehearsal σ :=
  ⟨.fresh pool, node, [], []⟩

def now (r : Rehearsal σ) : Nat :=
  r.faucet.desk.now

def wait (r : Rehearsal σ) (time : Nat) (turn : Turn) : Rehearsal σ :=
  { r with waiting := r.waiting ++ [(time, turn)] }

def happen (p : Policy) (r : Rehearsal σ) (e : Event) : Rehearsal σ :=
  let begun := r.faucet.desk.watches.length
  let faucet := r.faucet.step p e
  let fresh := (List.range (faucet.desk.watches.length - begun)).map fun k => Actor.watch (begun + k)
  { r with faucet := faucet, ready := r.ready ++ fresh }

def answerEvent (who : Actor) (answer : Answer) : Event :=
  match who with
  | .request number => .answerRequest number answer
  | .watch number => .answerWatch number answer
  | .census number index => .answerCensus number index answer

def answerNow (m : NodeModel σ) (p : Policy) (r : Rehearsal σ) (who : Actor) (q : Query) : Rehearsal σ :=
  let (node, answer) := m.answer r.node q
  { r with node := node }.happen p (answerEvent who answer)

/--
Lets an actor run on until it waits for a time.  Answers without latency come at once; `fuel` bounds
their number.
-/
def settle (m : NodeModel σ) (p : Policy) : (fuel : Nat) → Rehearsal σ → Actor → Rehearsal σ
  | 0, r, _ => r
  | fuel + 1, r, who =>
      match r.faucet.query? who with
      | some q =>
          let latency := m.latency r.node q
          if latency = 0 then settle m p fuel (answerNow m p r who q) who
          else r.wait (r.now + latency) (.run who)
      | none =>
          match r.faucet.wakeAt? who with
          | some wakeAt => r.wait wakeAt (.run who)
          | none => r

/-- More answers than an actor can receive between two rests: one at the gate, four for each signer. -/
def settleFuel (r : Rehearsal σ) : Nat :=
  4 * r.faucet.desk.pool.size + 8

def runActor (m : NodeModel σ) (p : Policy) (r : Rehearsal σ) (who : Actor) : Rehearsal σ :=
  let r :=
    match r.faucet.query? who with
    | some q => answerNow m p r who q
    | none =>
        match who with
        | .request number => r.happen p (.wakeRequest number)
        | .watch number => r.happen p (.wakeWatch number)
        | .census .. => r
  settle m p r.settleFuel r who

def nextDue? (r : Rehearsal σ) : Option Nat :=
  (r.waiting.map (·.1)).min?

/-- The first turn whose time has come, with the rehearsal after it was taken out. -/
def takeDue? (r : Rehearsal σ) : Option (Turn × Rehearsal σ) :=
  match r.nextDue? with
  | none => none
  | some t =>
      if t ≤ r.now then
        (r.waiting.find? fun w => w.1 == t).map fun w =>
          (w.2, { r with waiting := r.waiting.eraseP fun w => w.1 == t })
      else none

def runTurn (m : NodeModel σ) (p : Policy) (r : Rehearsal σ) : Turn → Rehearsal σ
  | .run who => runActor m p r who
  | .expire number => r.happen p (.cancelRequest number)

/-- Lets everybody run who can run at the present time; `fuel` bounds the number of their turns. -/
def drain (m : NodeModel σ) (p : Policy) : (fuel : Nat) → Rehearsal σ → Rehearsal σ
  | 0, r => r
  | fuel + 1, r =>
      match r.ready with
      | who :: ready => drain m p fuel (runActor m p { r with ready := ready } who)
      | [] =>
          match r.takeDue? with
          | some (turn, r) => drain m p fuel (runTurn m p r turn)
          | none => r

def drainFuel : Nat := 100000

def rest (m : NodeModel σ) (p : Policy) (r : Rehearsal σ) : Rehearsal σ :=
  drain m p drainFuel r

def moveTo (p : Policy) (r : Rehearsal σ) (t : Nat) : Rehearsal σ :=
  r.happen p (.pass (t - r.now))

/-- Lets time go by until the condition holds or the deadline has come; `fuel` bounds the clock's jumps. -/
def waitLoop (m : NodeModel σ) (p : Policy) (holds : Faucet → Bool) (deadline : Nat) :
    (fuel : Nat) → Rehearsal σ → Rehearsal σ
  | 0, r => r
  | fuel + 1, r =>
      if holds r.faucet then r
      else
        match r.nextDue? with
        | some t =>
            if t ≤ deadline then waitLoop m p holds deadline fuel ((r.moveTo p t).rest m p)
            else r.moveTo p deadline
        | none => r.moveTo p deadline

def waitFor (m : NodeModel σ) (p : Policy) (r : Rehearsal σ) (holds : Faucet → Bool) (limit : Nat) :
    Rehearsal σ :=
  let r := r.rest m p
  waitLoop m p holds (r.now + limit) (limit + 2) r

def advance (m : NodeModel σ) (p : Policy) (r : Rehearsal σ) (ms : Nat) : Rehearsal σ :=
  r.waitFor m p (fun _ => false) ms

/-- Takes a request in and lets it run until it waits; it is dropped when its limit, if any, has passed. -/
def request (m : NodeModel σ) (p : Policy) (r : Rehearsal σ) (request : Request) (limit : Option Nat) :
    Nat × Rehearsal σ :=
  let number := r.faucet.requests.length
  let r := r.happen p (.request request)
  let r := settle m p r.settleFuel r (.request number)
  let r :=
    match limit with
    | some limit => r.wait (r.now + limit) (.expire number)
    | none => r
  (number, r.rest m p)

def ask (m : NodeModel σ) (p : Policy) (r : Rehearsal σ) (q : Query) : Answer × Rehearsal σ :=
  let latency := m.latency r.node q
  let r := if latency = 0 then r else r.advance m p latency
  let (node, answer) := m.answer r.node q
  (answer, { r with node := node })

/-- Takes a census; the queries are made together, and answered when their latency has passed. -/
def census (m : NodeModel σ) (p : Policy) (r : Rehearsal σ) : Census × Rehearsal σ :=
  let number := r.faucet.censuses.length
  let r := r.happen p .census
  let actors := (List.range r.faucet.desk.pool.size).map (Actor.census number)
  let latency := ((actors.filterMap r.faucet.query?).map (m.latency r.node)).foldl max 0
  let r := if latency = 0 then r else r.advance m p latency
  let r := actors.foldl (fun r who =>
    match r.faucet.query? who with
    | some q => answerNow m p r who q
    | none => r) r
  ((r.faucet.censuses[number]?).getD ⟨[], none⟩, r)

end Rehearsal

end GasFaucet
