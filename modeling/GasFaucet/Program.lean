import GasFaucet.Funding.Round
import GasFaucet.Pages.Servers
import GasFaucet.Program.Announcement
import GasFaucet.Settings.Load

/-!
# The program

From the loading of the settings to the end: the node is asked for its chain before any key is read,
then the pool is made and its signers are counted, the servers start, and the faucet runs until it is
told to stop.
-/

namespace GasFaucet

/-- What the program finds around it: variables, files, how a node answers, and ports in use. -/
structure Surroundings where
  env : String → Option String
  read : String → Option ByteArray
  node : Call → Delivery
  isTaken : UInt16 → Bool

/-- A faucet whose node serves the configured network and whose keys have all been read. -/
structure Installation where
  settings : Settings
  link : Link
  pool : Pool

inductive Launch
  | misconfigured (e : SettingsError)
  | refused (settings : Settings) (said : List Announcement) (failure : Failure)
  | running (installation : Installation) (said : List Announcement)

namespace Installation

def terms (p : Installation) : Terms :=
  .ofSettings p.settings.faucet p.link.defaultAmount p.link.gasLimit

def policy (p : Installation) : Policy where
  chainId := p.link.network.chainId
  pricing := .ofNetwork p.link.network p.settings.network.gasPriceGwei
  terms := p.terms

def inventory (p : Installation) (node : Call → Delivery) : List Announcement :=
  [.poolReady p.pool.size] ++
    (if p.terms.maxLeaseWait.isNone then [.waitUnbounded] else []) ++
    (Pages.survey p.link p.pool node).map .signerFound

def opening (p : Installation) : List Announcement :=
  [.running] ++
    (if p.settings.api.enabled then [.serving p.settings.api.host p.settings.api.port] else []) ++
    (if p.settings.metrics.enabled then [.exposing p.settings.metrics.port] else [])

/-- What the servers say whose ports are taken; the metrics find the port of the status pages taken. -/
def serverFaults (p : Installation) (isTaken : UInt16 → Bool) : List Announcement :=
  let api := p.settings.api
  let metrics := p.settings.metrics
  let isTakenNow (port : UInt16) : Bool := isTaken port || (api.enabled && api.port = port && port ≠ 0)
  (if api.enabled && isTaken api.port then
    [.serverFailed (Pages.statusPortTaken api.host (toString api.port.toNat))] else []) ++
    (if metrics.enabled && isTakenNow metrics.port then [.exposureFailed Pages.metricsPortTaken] else [])

def healthNotices (p : Installation) (node : Call → Delivery) : List Announcement :=
  if heardAlive ((node .blockNumber).within p.link.timeout) then [] else [.nodeSilent p.link.endpoint]

def statusSite (p : Installation) (node : Call → Delivery) (uptimeSecs : Nat) : Site :=
  Pages.status ⟨p.link, p.pool, uptimeSecs, node⟩

/-- The page of metrics after some checks of the node; no signer has been leased yet. -/
def metricsSite (_ : Installation) (checks : List Bool) : Site :=
  Pages.metrics (checks.foldl Tally.healthCheck { Tally.empty with showsLeases := false })

end Installation

namespace Launch

def ofSettings (s : Settings) (node : Call → Delivery) : Launch :=
  let greeting : List Announcement :=
    [.starting, .configured s.network.name s.signers.privateKeys.length]
  match (Link.connect s.network (.fresh [node .chainId])).1 with
  | .error f => .refused s (greeting ++ [.startRefused f]) f
  | .ok link =>
      match Pool.ofKeys s.signers.privateKeys link.network.chainId with
      | .error f => .refused s greeting f
      | .ok pool =>
          let p : Installation := ⟨s, link, pool⟩
          .running p (greeting ++ p.inventory node ++ p.opening)

def start (w : Surroundings) : Launch :=
  match Settings.load w.env w.read (Settings.path w.env) with
  | .error e => .misconfigured e
  | .ok s => ofSettings s w.node

def settings? : Launch → Option Settings
  | misconfigured _ => none
  | refused s .. => some s
  | running p _ => some p.settings

def exitCode : Launch → Nat
  | running .. => 0
  | _ => 1

def complaint? : Launch → Option String
  | misconfigured e => some ("Error: " ++ e.message)
  | refused _ _ f => some ("Error: " ++ f.message)
  | running .. => none

/-- All that the program says, with so many checks of the node before it is told to stop. -/
def said (w : Surroundings) (checks : Nat) : Launch → List Announcement
  | misconfigured _ => []
  | refused _ said _ => said
  | running p said =>
      said ++ p.serverFaults w.isTaken ++
        (List.replicate checks (p.healthNotices w.node)).flatten ++ [.signalled, .stopped]

def filter (l : Launch) (w : Surroundings) : Logging.Filter × List String :=
  match l.settings? with
  | some s => Logging.chosen (w.env "RUST_LOG") s.logging.filter
  | none => (⟨[]⟩, [])

def log (l : Launch) (w : Surroundings) (checks : Nat) : List Announcement :=
  (l.said w checks).filter fun a => (l.filter w).1.admits a.event

def complaints (l : Launch) (w : Surroundings) : List String :=
  (l.filter w).2 ++ l.complaint?.toList

end Launch

end GasFaucet
