import GasFaucet.Settings
import GasFaucet.Toml.Document

/-!
# Settings from a document

Each section of the settings is a table.  It may also be a list of its fields' values in their order,
and where all its fields may be absent, a date counts as an empty table.  What is not known is passed
over; what is known has to be of its sort.
-/

namespace GasFaucet

open Toml (Value)

namespace Settings

def natural? : Value → Option Nat
  | .integer n => if 0 ≤ n then some n.toNat else none
  | _ => none

/-- A whole number of 64 bits without a sign. -/
def uint64? (v : Value) : Option UInt64 :=
  (natural? v).bind fun n => if n < UInt64.size then some (UInt64.ofNat n) else none

def port? (v : Value) : Option UInt16 :=
  (natural? v).bind fun n => if n < UInt16.size then some (UInt16.ofNat n) else none

def text? : Value → Option String
  | .string s => some s
  | _ => none

def flag? : Value → Option Bool
  | .boolean b => some b
  | _ => none

def texts? : Value → Option (List String)
  | .array items => items.mapM text?
  | _ => none

def field? (v : Value) (position : Nat) (name : String) : Option Value :=
  match v with
  | .table entries => entries.lookup name
  | .array items => items[position]?
  | _ => none

def orElse {α : Type} (decode : Value → Option α) (default : α) : Option Value → Option α
  | none => some default
  | some v => decode v

def optional {α : Type} (decode : Value → Option α) : Option Value → Option (Option α)
  | none => some none
  | some v => (decode v).map some

/-- Whether a value can be a section all of whose fields may be absent. -/
def isLaxSection : Value → Bool
  | .table _ | .array _ | .date _ => true
  | _ => false

/-- Whether a value can be a section that has no defaults for its last fields: a list is complete. -/
def isStrictSection (size : Nat) : Value → Bool
  | .table _ => true
  | .array items => size ≤ items.length
  | _ => false

def faucet? (v : Value) : Option FundingSettings :=
  let d : FundingSettings := {}
  if isLaxSection v then do
    some {
      retryIntervalMs := ← orElse uint64? d.retryIntervalMs (field? v 0 "retry_interval_ms")
      pollIntervalMs := ← orElse uint64? d.pollIntervalMs (field? v 1 "poll_interval_ms")
      maxLeaseWaitSecs := ← orElse uint64? d.maxLeaseWaitSecs (field? v 2 "max_lease_wait_secs")
      confirmationTimeoutSecs :=
        ← orElse uint64? d.confirmationTimeoutSecs (field? v 3 "confirmation_timeout_secs")
      healthCheckIntervalSecs :=
        ← orElse uint64? d.healthCheckIntervalSecs (field? v 4 "health_check_interval_secs") }
  else none

def network? (v : Value) : Option NetworkSettings :=
  if isStrictSection 6 v then do
    some {
      name := ← (field? v 0 "name").bind text?
      endpoint := ← (field? v 1 "endpoint").bind text?
      timeoutSecs := ← orElse uint64? 10 (field? v 2 "timeout_secs")
      gasLimit := ← optional uint64? (field? v 3 "gas_limit")
      defaultAmount := ← optional text? (field? v 4 "default_amount")
      gasPriceGwei := ← optional uint64? (field? v 5 "gas_price_gwei") }
  else none

def signers? (v : Value) : Option SignerSettings :=
  if isStrictSection 1 v then (field? v 0 "private_keys").bind texts? |>.map SignerSettings.mk else none

def api? (v : Value) : Option ApiSettings :=
  if isLaxSection v then do
    some {
      enabled := ← orElse flag? true (field? v 0 "enabled")
      host := ← orElse text? "127.0.0.1" (field? v 1 "host")
      port := ← orElse port? 8080 (field? v 2 "port") }
  else none

def metrics? (v : Value) : Option MetricsSettings :=
  if isLaxSection v then do
    some {
      enabled := ← orElse flag? false (field? v 0 "enabled")
      port := ← orElse port? 9090 (field? v 1 "port") }
  else none

def logging? (v : Value) : Option LoggingSettings :=
  if isLaxSection v then do
    some {
      json := ← orElse flag? false (field? v 0 "json")
      filter := ← optional text? (field? v 1 "filter") }
  else none

/-- Reads all sections; only the network and the signers have to be there. -/
def ofEntries? (entries : List (String × Value)) : Option Settings := do
  some {
    faucet := ← orElse faucet? {} (entries.lookup "faucet")
    network := ← (entries.lookup "network").bind network?
    signers := ← (entries.lookup "signers").bind signers?
    api := ← orElse api? {} (entries.lookup "api")
    metrics := ← orElse metrics? {} (entries.lookup "metrics")
    logging := ← orElse logging? {} (entries.lookup "logging") }

def parse? (text : String) : Option Settings :=
  (Toml.document? text).bind ofEntries?

end Settings

end GasFaucet
