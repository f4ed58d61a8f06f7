import GasFaucet.Settings.Amount
import GasFaucet.Terms

/-!
# Settings

What an operator lays down before the faucet starts: the network and its node, the keys of the
signers, how funding waits, and which pages and logs there are.
-/

namespace GasFaucet

def inspectRecord (name : String) (fields : List (String × String)) : String :=
  name ++ " \x7b " ++ ", ".intercalate (fields.map fun (field, value) => field ++ ": " ++ value) ++ " \x7d"

def inspectOption : Option String → String
  | none => "None"
  | some value => "Some(" ++ value ++ ")"

def FundingSettings.inspect (s : FundingSettings) : String :=
  inspectRecord "FaucetConfig"
    [("retry_interval_ms", toString s.retryIntervalMs), ("poll_interval_ms", toString s.pollIntervalMs),
      ("max_lease_wait_secs", toString s.maxLeaseWaitSecs),
      ("confirmation_timeout_secs", toString s.confirmationTimeoutSecs),
      ("health_check_interval_secs", toString s.healthCheckIntervalSecs)]

/-- The network to fund on and the node through which to do it. -/
structure NetworkSettings where
  name : String
  endpoint : String
  timeoutSecs : UInt64 := 10
  gasLimit : Option UInt64 := none
  defaultAmount : Option String := none
  gasPriceGwei : Option UInt64 := none
  deriving DecidableEq

def NetworkSettings.inspect (s : NetworkSettings) : String :=
  inspectRecord "NetworkConfig"
    [("name", Text.quote s.name), ("endpoint", Text.quote s.endpoint),
      ("timeout_secs", toString s.timeoutSecs), ("gas_limit", inspectOption (s.gasLimit.map toString)),
      ("default_amount", inspectOption (s.defaultAmount.map Text.quote)),
      ("gas_price_gwei", inspectOption (s.gasPriceGwei.map toString))]

/-- The amount that is sent when a caller names none: the configured one, else the network's. -/
def NetworkSettings.amountOn (s : NetworkSettings) (n : Network) : Except AmountError Word :=
  match s.defaultAmount with
  | some text => parseWei text
  | none => .ok n.defaultAmount

def amountComplaint (text : String) : String :=
  s!"Invalid wei amount '{text}'"

structure SignerSettings where
  privateKeys : List String
  deriving DecidableEq

/-- A description that gives away no more than the number of keys. -/
def SignerSettings.inspect (s : SignerSettings) : String :=
  inspectRecord "SignersConfig" [("private_keys", Text.quote s!"<{s.privateKeys.length} redacted>")]

structure ApiSettings where
  enabled : Bool := true
  host : String := "127.0.0.1"
  port : UInt16 := 8080
  deriving DecidableEq

def ApiSettings.inspect (s : ApiSettings) : String :=
  inspectRecord "ApiConfig"
    [("enabled", toString s.enabled), ("host", Text.quote s.host), ("port", toString s.port)]

structure MetricsSettings where
  enabled : Bool := false
  port : UInt16 := 9090
  deriving DecidableEq

def MetricsSettings.inspect (s : MetricsSettings) : String :=
  inspectRecord "MetricsConfig" [("enabled", toString s.enabled), ("port", toString s.port)]

structure LoggingSettings where
  json : Bool := false
  filter : Option String := none
  deriving DecidableEq

def LoggingSettings.inspect (s : LoggingSettings) : String :=
  inspectRecord "LoggingConfig"
    [("json", toString s.json), ("filter", inspectOption (s.filter.map Text.quote))]

structure Settings where
  faucet : FundingSettings
  network : NetworkSettings
  signers : SignerSettings
  api : ApiSettings
  metrics : MetricsSettings
  logging : LoggingSettings
  deriving DecidableEq

def Settings.inspect (s : Settings) : String :=
  inspectRecord "Settings"
    [("faucet", s.faucet.inspect), ("network", s.network.inspect), ("signers", s.signers.inspect),
      ("api", s.api.inspect), ("metrics", s.metrics.inspect), ("logging", s.logging.inspect)]

end GasFaucet
