import GasFaucet.Funding.Census
import GasFaucet.Json
import GasFaucet.Logging.Filter
import GasFaucet.Pages.Servers

/-!
# Announcements

What the program says about itself while it starts, runs and stops, and the two forms in which its log
is written: with the fields as JSON values, or with all on one line.
-/

namespace GasFaucet

/-- The value of a field: a number, a truth value, text as it is, or text between quotes. -/
inductive FieldValue
  | number (n : Nat)
  | flag (b : Bool)
  | shown (text : String)
  | quoted (text : String)

namespace FieldValue

def text : FieldValue → String
  | number n => toString n
  | flag b => toString b
  | shown s => s
  | quoted s => Text.quote s

def json : FieldValue → Json
  | number n => .ofNat n
  | flag b => .bool b
  | shown s | quoted s => .string s

end FieldValue

inductive Announcement
  | starting
  | configured (network : String) (signers : Nat)
  | startRefused (failure : Failure)
  | poolReady (signers : Nat)
  | waitUnbounded
  | signerFound (line : SignerLine)
  | running
  | serving (host : String) (port : UInt16)
  | exposing (port : UInt16)
  | serverFailed (failure : Failure)
  | exposureFailed (failure : Failure)
  | nodeSilent (endpoint : String)
  | signalled
  | stopped

namespace Announcement

def target : String :=
  "entity_faucet"

def severity : Announcement → Severity
  | startRefused _ | serverFailed _ | exposureFailed _ => .error
  | waitUnbounded | nodeSilent _ => .warn
  | signerFound line => if line.balance.isSome then .info else .warn
  | _ => .info

def message : Announcement → String
  | starting => "Starting Entity Faucet v" ++ Pages.version
  | configured .. => "Loaded configuration"
  | startRefused f => "Cannot start: " ++ f.message
  | poolReady n => s!"Signer pool ready with {n} signers"
  | waitUnbounded => "max_lease_wait_secs is 0, funding requests may wait forever for a signer"
  | signerFound line =>
      if line.balance.isSome then "Signer loaded" else "Signer loaded but its balance could not be read"
  | running => "Entity Faucet is running"
  | serving host port => "API server: http://" ++ host ++ ":" ++ toString port.toNat
  | exposing port => "Metrics: http://0.0.0.0:" ++ toString port.toNat ++ "/metrics"
  | serverFailed f => "API server error: " ++ f.message
  | exposureFailed f => "Metrics server error: " ++ f.message
  | nodeSilent _ => "Node health check failed"
  | signalled => "Shutdown signal received, stopping..."
  | stopped => "Entity Faucet stopped"

def fields : Announcement → List (String × FieldValue)
  | configured network signers => [("network", .shown network), ("signers", .number signers)]
  | startRefused f => [("fatal", .flag f.isFatal)]
  | signerFound line =>
      [("index", .number line.index), ("address", .shown line.address.text)] ++
        match line.balance with
        | some b => [("balance", .shown b.decimal)]
        | none => []
  | nodeSilent endpoint => [("endpoint", .quoted endpoint)]
  | _ => []

/-- The event as the filter of the log sees it; the sentence is a field as well. -/
def event (a : Announcement) : Logging.Event :=
  ⟨target, a.severity, "message" :: a.fields.map (·.1)⟩

def line (a : Announcement) : String :=
  " ".intercalate (a.message :: a.fields.map fun (name, v) => name ++ "=" ++ v.text)

end Announcement

end GasFaucet
