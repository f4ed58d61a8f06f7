import GasFaucet.Funding.Census
import GasFaucet.Node.Link
import GasFaucet.Pages
import GasFaucet.Tally.Exposition

/-!
# The pages of the servers

The status pages tell that the faucet runs, whether its node is alive, what its signers own and
which are on lease, and how much the pool has been used.  The only page of the metrics server shows
all counts.
-/

namespace GasFaucet.Pages

def version : String :=
  "0.1.0"

def signerValue (l : SignerLine) : Json :=
  .object
    [("index", .ofNat l.index), ("address", .string l.address.text), ("leased", .bool l.leased),
     ("balance", match l.balance with | some b => .string b.quantity | none => .null)]

def poolValue (s : PoolStats) : Json :=
  .object
    [("size", .ofNat s.size), ("leased", .ofNat s.leased), ("total_leases", .ofNat s.totalLeases),
     ("total_releases", .ofNat s.totalReleases)]

/-- What is known of all signers, with the node answering each call on a link as `node` says. -/
def survey (l : Link) (p : Pool) (node : Call → Delivery) : List SignerLine :=
  p.slots.zipIdx.filterMap fun (slot, index) =>
    let query := Query.balance slot.signer.address
    match query.heard ((node query.call).within l.timeout) with
    | .number reply => p.line? index reply
    | _ => none

structure FaucetView where
  link : Link
  pool : Pool
  uptimeSecs : Nat
  node : Call → Delivery

def status (s : FaucetView) : Site := fun path =>
  if path = "/health" then
    some (200, .json (.object [("status", .string "ok"), ("version", .string version)]))
  else if path = "/ready" then
    let ready := heardAlive ((s.node .blockNumber).within s.link.timeout)
    some (if ready then 200 else 503, .json (.object
      [("ready", .bool ready), ("network", .string s.link.network.name),
       ("chain_id", .ofNat s.link.network.chainId.toNat)]))
  else if path = "/signers" then
    some (200, .json (.object [("signers", .array ((survey s.link s.pool s.node).map signerValue))]))
  else if path = "/stats" then
    some (200, .json (.object
      [("uptime_seconds", .ofNat s.uptimeSecs), ("pool", poolValue s.pool.stats)]))
  else none

/-- What the server of the status pages reports when its port is taken. -/
def statusPortTaken (host port : String) : Failure :=
  .internal ("Cannot bind " ++ host ++ ":" ++ port ++ ": " ++ addressInUse)

def metrics (t : Tally) : Site := fun path =>
  if path = "/metrics" then some (200, .lines t.lines) else none

def metricsPortTaken : Failure :=
  .internal ("Cannot bind metrics port: " ++ addressInUse)

end GasFaucet.Pages
