import GasFaucet.Settings
import GasFaucet.Signer.Key

/-!
# Checking settings

Settings are accepted only if the faucet can run on them: the network is known, there is an endpoint,
times and amounts are positive, and no signer key is empty or given twice.
-/

namespace GasFaucet

inductive SettingsError
  | unreadable (path : String)
  | unparsable
  | unsupportedNetwork (name : String)
  | noEndpoint (network : String)
  | zeroTimeout
  | zeroGasLimit
  | badAmount (text : String) (cause : AmountError)
  | zeroAmount
  | zeroInterval
  | noKeys
  | emptyKey (index : Nat)
  | duplicateKey (index : Nat)
  deriving DecidableEq

namespace SettingsError

def message : SettingsError → String
  | unreadable path => "Failed to read config file: " ++ Text.quotePath path
  | unparsable => "Failed to parse configuration"
  | unsupportedNetwork name => "Unsupported network " ++ name
  | noEndpoint network => "Network " ++ network ++ " has no endpoint configured"
  | zeroTimeout => "network.timeout_secs must be positive"
  | zeroGasLimit => "network.gas_limit must be positive"
  | badAmount text _ => amountComplaint text
  | zeroAmount => "Default funding amount must be positive"
  | zeroInterval => "Faucet retry and poll intervals must be positive"
  | noKeys => "At least one signer key must be configured"
  | emptyKey index => s!"Signer key #{index} is empty (unset environment variable?)"
  | duplicateKey index => s!"Signer key #{index} is a duplicate"

def causes? : SettingsError → Option (List String)
  | unreadable _ | unparsable => none
  | badAmount _ cause => some [cause.message]
  | _ => some []

end SettingsError

/-- What two texts of one key have in common: white space, marks in front and letter case do not count. -/
def normalizedKey (text : String) : List Char :=
  Text.lower (dropHexMarks (Text.trim text.toList))

namespace Settings

/-- Checks the keys from place `index` on, where `seen` holds what was found before. -/
def checkKeys : (index : Nat) → (seen : List (List Char)) → List String → Except SettingsError Unit
  | _, _, [] => .ok ()
  | index, seen, key :: keys =>
      let normalized := normalizedKey key
      if normalized = [] then .error (.emptyKey index)
      else if normalized ∈ seen then .error (.duplicateKey index)
      else checkKeys (index + 1) (normalized :: seen) keys

def checkSigners (s : SignerSettings) : Except SettingsError Unit :=
  if s.privateKeys.isEmpty then .error .noKeys else checkKeys 0 [] s.privateKeys

def checkNetwork (s : NetworkSettings) : Except SettingsError Unit :=
  match Network.byName? s.name with
  | none => .error (.unsupportedNetwork s.name)
  | some network =>
      if s.endpoint.isEmpty then .error (.noEndpoint network.name)
      else if s.timeoutSecs = 0 then .error .zeroTimeout
      else if s.gasLimit = some 0 then .error .zeroGasLimit
      else
        match s.amountOn network with
        | .error cause => .error (.badAmount (s.defaultAmount.getD "") cause)
        | .ok amount => if amount = 0 then .error .zeroAmount else .ok ()

def checkFaucet (s : FundingSettings) : Except SettingsError Unit :=
  if s.retryIntervalMs = 0 ∨ s.pollIntervalMs = 0 then .error .zeroInterval else .ok ()

def check (s : Settings) : Except SettingsError Unit :=
  match checkNetwork s.network with
  | .error e => .error e
  | .ok _ =>
      match checkFaucet s.faucet with
      | .error e => .error e
      | .ok _ => checkSigners s.signers

end Settings

end GasFaucet
