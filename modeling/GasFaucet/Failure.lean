import GasFaucet.Text.Characters
import GasFaucet.Word

/-!
# Failures

Every way in which the faucet reports that something went wrong, its message, and what follows from
it: a fatal failure ends the start-up, and one that skips the signer sends a funding request on to
the next signer.
-/

namespace GasFaucet

inductive Failure
  | config (message : String)
  | unknownNetwork (name : String)
  | connect (endpoint message : String)
  | networkMismatch (network : String) (expected : Nat) (actual : Word)
  | query (operation message : String)
  | timeout (operation : String)
  | broadcast (signer message : String)
  | receiptNotFound (transaction : String)
  | signing (message : String)
  | invalidKey (index : Nat) (message : String)
  | noSignerAvailable (waitedSecs : Nat)
  | shuttingDown
  | internal (message : String)
  deriving DecidableEq

namespace Failure

def message : Failure → String
  | config m => s!"Configuration error: {m}"
  | unknownNetwork n => s!"Unknown network '{n}'"
  | connect e m => s!"Cannot connect to {e}: {m}"
  | networkMismatch n expected actual =>
      s!"Network mismatch for {n}: expected chain id {expected}, node reports " ++ actual.decimal
  | query o m => s!"Query '{o}' failed: {m}"
  | timeout o => s!"Timeout waiting for {o}"
  | broadcast s m => s!"Broadcast from {s} failed: {m}"
  | receiptNotFound t => s!"Receipt for transaction {t} not found"
  | signing m => s!"Signing error: {m}"
  | invalidKey i m => s!"Invalid signer key #{i}: {m}"
  | noSignerAvailable w => s!"No funded signer became available after {w}s"
  | shuttingDown => "Funding engine is shutting down"
  | internal m => s!"Internal error: {m}"

def kind : Failure → String
  | config .. => "Config"
  | unknownNetwork .. => "UnknownNetwork"
  | connect .. => "Connect"
  | networkMismatch .. => "NetworkMismatch"
  | query .. => "Query"
  | timeout .. => "Timeout"
  | broadcast .. => "Broadcast"
  | receiptNotFound .. => "ReceiptNotFound"
  | signing .. => "Signing"
  | invalidKey .. => "InvalidKey"
  | noSignerAvailable .. => "NoSignerAvailable"
  | shuttingDown => "ShuttingDown"
  | internal .. => "Internal"

/-- How the values of a failure are laid out when it is shown with its kind. -/
inductive Layout
  | bare
  | positional (value : String)
  | named (fields : List (String × String))

def layout : Failure → Layout
  | config m | unknownNetwork m | signing m | internal m => .positional (Text.quote m)
  | connect e m => .named [("endpoint", Text.quote e), ("message", Text.quote m)]
  | networkMismatch n expected actual =>
      .named [("network", Text.quote n), ("expected", toString expected), ("actual", actual.decimal)]
  | query o m => .named [("operation", Text.quote o), ("message", Text.quote m)]
  | timeout o => .named [("operation", Text.quote o)]
  | broadcast s m => .named [("signer", Text.quote s), ("message", Text.quote m)]
  | receiptNotFound t => .named [("tx_hash", Text.quote t)]
  | invalidKey i m => .named [("index", toString i), ("message", Text.quote m)]
  | noSignerAvailable w => .named [("waited_secs", toString w)]
  | shuttingDown => .bare

def inspect (f : Failure) : String :=
  match f.layout with
  | .bare => f.kind
  | .positional v => f.kind ++ "(" ++ v ++ ")"
  | .named fields =>
      f.kind ++ " \x7b " ++ ", ".intercalate (fields.map fun (name, v) => name ++ ": " ++ v) ++ " \x7d"

/-- Whether the failure ends the start-up: retrying cannot mend it. -/
def isFatal : Failure → Bool
  | config .. | unknownNetwork .. | connect .. | networkMismatch .. | invalidKey .. => true
  | _ => false

def skipsSigner : Failure → Bool
  | query .. | timeout .. | broadcast .. | signing .. => true
  | _ => false

end Failure

end GasFaucet
