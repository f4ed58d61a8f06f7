import GasFaucet.Rehearsal

/-!
# Sessions

A rehearsal conducted step by step by one person, who gives names to the requests, keeps tickets and
leases under names, and reads the journal from where the last reading ended.
-/

namespace GasFaucet

structure Session (σ : Type) where
  model : NodeModel σ
  policy : Policy
  rehearsal : Rehearsal σ
  names : List String
  started : List (String × Nat)
  tickets : List (String × Nat)
  leases : List (String × Lease)
  noticesRead : Nat
  queriesRead : Nat

inductive RequestEnd
  | verdict (v : Verdict)
  | crashed (message : String)
  | cancelled

def dropName {α : Type} (entries : List (String × α)) (name : String) : List (String × α) :=
  entries.filter fun e => e.1 ≠ name

def Desk.notices (d : Desk) : List (Nat × Notice) :=
  d.journal.reverse.filterMap fun (t, e) =>
    match e with
    | .noted n => some (t, n)
    | _ => none

def Desk.queries (d : Desk) : List (Nat × Actor × Query) :=
  d.journal.reverse.filterMap fun (t, e) =>
    match e with
    | .asked who q => some (t, who, q)
    | _ => none

namespace Session

variable {σ : Type}

def start (model : NodeModel σ) (policy : Policy) (pool : Pool) (node : σ) : Session σ where
  model := model
  policy := policy
  rehearsal := .start pool node
  names := []
  started := []
  tickets := []
  leases := []
  noticesRead := 0
  queriesRead := 0

def now (s : Session σ) : Nat :=
  s.rehearsal.now

def desk (s : Session σ) : Desk :=
  s.rehearsal.faucet.desk

def setDesk (s : Session σ) (d : Desk) : Session σ :=
  { s with rehearsal := { s.rehearsal with faucet := { s.rehearsal.faucet with desk := d } } }

def modifyNode (s : Session σ) (f : σ → σ) : Session σ :=
  { s with rehearsal := { s.rehearsal with node := f s.rehearsal.node } }

def happen (s : Session σ) (e : Event) : Session σ :=
  { s with rehearsal := s.rehearsal.happen s.policy e }

def progress? (f : Faucet) (number : Nat) : Option Progress :=
  f.requests[number]?.map (·.2)

def isOver (f : Faucet) (number : Nat) : Bool :=
  ((progress? f number).map Progress.isOver).getD true

def begin (s : Session σ) (name : String) (r : Request) (limit : Option Nat) : Nat × Session σ :=
  let (number, rehearsal) := s.rehearsal.request s.model s.policy r limit
  (number, { s with rehearsal := rehearsal, names := s.names ++ [name] })

/-- Waits for a request, drops it when the limit has passed, and keeps its ticket under the name. -/
def await (s : Session σ) (name : String) (number limit : Nat) : RequestEnd × Session σ :=
  let s := { s with
    rehearsal := s.rehearsal.waitFor s.model s.policy (fun f => isOver f number) limit }
  match progress? s.rehearsal.faucet number with
  | some (.ended v) =>
      match v with
      | .inFlight ticket =>
          (.verdict v, { s with tickets := (name, ticket.watch) :: dropName s.tickets name })
      | _ => (.verdict v, s)
  | some (.crashed m _) => (.crashed m, s)
  | _ => (.cancelled, s.happen (.cancelRequest number))

def fund (s : Session σ) (name : String) (r : Request) (limit : Nat) : RequestEnd × Session σ :=
  let (number, s) := s.begin name r (some limit)
  s.await name number limit

/-- Makes a request in the background; the result says whether it is over already. -/
def startRequest (s : Session σ) (name : String) (r : Request) : Bool × Session σ :=
  let (number, s) := s.begin name r none
  (isOver s.rehearsal.faucet number, { s with started := (name, number) :: dropName s.started name })

def check (s : Session σ) (name : String) : Option Bool :=
  (s.started.lookup name).map (isOver s.rehearsal.faucet)

def join (s : Session σ) (name : String) (limit : Nat) : Option RequestEnd × Session σ :=
  match s.started.lookup name with
  | none => (none, s)
  | some number =>
      let (e, s) := { s with started := dropName s.started name }.await name number limit
      (some e, s)

/-- Drops a request in the background; the result says whether there was one. -/
def cancel (s : Session σ) (name : String) : Bool × Session σ :=
  match s.started.lookup name with
  | none => (false, s)
  | some number => (true, { s with started := dropName s.started name }.happen (.cancelRequest number))

def report? (f : Faucet) (watch : Nat) : Option Conclusion :=
  f.desk.watches[watch]?.bind Watch.report?

/-- Waits for the watch of a kept ticket, which is no longer kept; nothing comes of it past the limit. -/
def confirm (s : Session σ) (name : String) (limit : Nat) : Option (Option Conclusion) × Session σ :=
  match s.tickets.lookup name with
  | none => (none, s)
  | some watch =>
      let rehearsal :=
        s.rehearsal.waitFor s.model s.policy (fun f => (report? f watch).isSome) limit
      (some (report? rehearsal.faucet watch),
        { s with rehearsal := rehearsal, tickets := dropName s.tickets name })

/-- Puts a transaction under watch on a kept lease, and waits for what the watch has to tell. -/
def follow (s : Session σ) (t : Transaction) (lease : Lease) (limit : Nat) :
    Option Conclusion × Session σ :=
  let watch := s.desk.watches.length
  let d := s.desk
  let followed : Watch := { transaction := t, lease := lease, progress := .planned }
  let s := s.setDesk { d with watches := d.watches ++ [followed] }
  let rehearsal := { s.rehearsal with ready := s.rehearsal.ready ++ [Actor.watch watch] }
  let rehearsal := rehearsal.waitFor s.model s.policy (fun f => (report? f watch).isSome) limit
  (report? rehearsal.faucet watch, { s with rehearsal := rehearsal })

def dropTicket (s : Session σ) (name : String) : Bool × Session σ :=
  ((s.tickets.lookup name).isSome, { s with tickets := dropName s.tickets name })

def advance (s : Session σ) (ms : Nat) : Session σ :=
  { s with rehearsal := s.rehearsal.advance s.model s.policy ms }

/-- Gives the lease back that is kept under a name; the result says whether there was one. -/
def release (s : Session σ) (name : String) : Bool × Session σ :=
  match s.leases.lookup name with
  | none => (false, s)
  | some lease =>
      (true, { s.setDesk (s.desk.release lease) with leases := dropName s.leases name })

/--
Leases a signer and keeps the lease under a name.  A lease that was kept under it is given back after
the new one was taken, and stays if none could be taken.
-/
def lease (s : Session σ) (name : String) (accepts : Lease → Bool) : Option Nat × Session σ :=
  match s.desk.lease? accepts with
  | none => (none, s)
  | some (lease, desk) =>
      let (_, s) := (s.setDesk desk).release name
      (some lease.index, { s with leases := (name, lease) :: s.leases })

def record (s : Session σ) (name : String) (nonce : Word) : Bool × Session σ :=
  match s.leases.lookup name with
  | none => (false, s)
  | some lease =>
      let d := s.desk
      (true, s.setDesk { d with pool := d.pool.modifyFloor lease.index (·.record nonce) })

def readNotices (s : Session σ) : List (Nat × Notice) × Session σ :=
  let all := s.desk.notices
  (all.drop s.noticesRead, { s with noticesRead := all.length })

def readQueries (s : Session σ) : List (Nat × Actor × Query) × Session σ :=
  let all := s.desk.queries
  (all.drop s.queriesRead, { s with queriesRead := all.length })

def census (s : Session σ) : Census × Session σ :=
  let (census, rehearsal) := s.rehearsal.census s.model s.policy
  (census, { s with rehearsal := rehearsal })

def ask (s : Session σ) (q : Query) : Answer × Session σ :=
  let (answer, rehearsal) := s.rehearsal.ask s.model s.policy q
  (answer, { s with rehearsal := rehearsal })

def actorName (s : Session σ) : Actor → String
  | .request number => s.names.getD number ""
  | .watch _ => "tracker"
  | .census .. => "main"

end Session

end GasFaucet
