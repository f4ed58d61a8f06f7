import GasFaucet.Text.Shortest
import GasFaucet.Time
import GasFaucet.Transfer

/-!
# Notices

What the faucet writes into its log: the event, how grave it is, its sentence, and its fields.
-/

namespace GasFaucet

/-- How grave a notice is. -/
inductive Severity
  | trace
  | debug
  | info
  | warn
  | error
  deriving DecidableEq

def Severity.text : Severity → String
  | trace => "TRACE"
  | debug => "DEBUG"
  | info => "INFO"
  | warn => "WARN"
  | error => "ERROR"

inductive Notice
  | signerLeased (signer : Address) (index : Nat)
  | signerReleased (signer : Address)
  | alreadyFunded (balance cap : Word)
  | signerSelected (signer : Address) (balance : Word)
  | balanceTooLow (signer : Address) (balance required : Word)
  | balanceUnknown (signer : Address) (failure : Failure)
  | gasPriceSuggested (price : Word)
  | gasPriceZero (fallback : Word)
  | gasPriceUnknown (failure : Failure) (fallback : Word)
  | nonceBehind (reported lastSent : Word)
  | transferBroadcast (transfer : SignedTransfer) (hash : Digest)
  | attemptSkipped (failure : Failure)
  | attemptFailed (failure : Failure)
  | waitExhausted (waitedSecs poolSize : Nat)
  | waiting (retryInMs leased : Nat)
  | transferPending (hash : Digest)
  | transferConfirmed (hash : Digest) (signer destination : Address) (amount : Word) (elapsedMs : Nat)
  | transferReverted (hash : Digest) (signer destination : Address)
  | trackingStopped (hash : Digest) (signer : Address) (reason : String)
  | connected (network : String) (chainId : Nat) (endpoint : String)
  | hashDiffers (own node : Digest)
  | stopping
  deriving DecidableEq

namespace Notice

def severity : Notice → Severity
  | signerLeased .. | signerReleased .. | signerSelected .. | gasPriceSuggested .. | waiting ..
  | transferPending .. | hashDiffers .. => .debug
  | alreadyFunded .. | balanceTooLow .. | transferBroadcast .. | transferConfirmed .. | connected ..
  | stopping => .info
  | balanceUnknown .. | gasPriceZero .. | gasPriceUnknown .. | nonceBehind .. | attemptSkipped ..
  | attemptFailed .. | waitExhausted .. | transferReverted .. | trackingStopped .. => .warn

def message : Notice → String
  | signerLeased .. => "Signer leased"
  | signerReleased .. => "Signer released"
  | alreadyFunded .. => "Destination already funded, nothing to send"
  | signerSelected .. => "Signer selected"
  | balanceTooLow .. => "Signer balance too low, skipping"
  | balanceUnknown .. => "Signer balance check failed, skipping"
  | gasPriceSuggested .. => "Using node suggested gas price"
  | gasPriceZero .. => "Node suggested a zero gas price, using fallback"
  | gasPriceUnknown .. => "Gas price suggestion failed, using fallback"
  | nonceBehind .. => "Node nonce is behind the last broadcast, using local floor"
  | transferBroadcast .. => "Funding transaction broadcast"
  | attemptSkipped .. => "Funding attempt failed, trying another signer"
  | attemptFailed .. => "Funding attempt failed"
  | waitExhausted .. => "No funded signer became available"
  | waiting .. => "No funded signer available"
  | transferPending .. => "Transaction pending"
  | transferConfirmed .. => "Funding transaction confirmed"
  | transferReverted .. => "Funding transaction mined but reverted"
  | trackingStopped .. => "Stopped tracking funding transaction"
  | connected .. => "Connected to network node"
  | hashDiffers .. => "Node reported a different transaction hash"
  | stopping => "Funding engine shutdown initiated"

/-- The named values of the event, as text. -/
def fields : Notice → List (String × String)
  | signerLeased signer index => [("signer", signer.text), ("index", toString index)]
  | signerReleased signer => [("signer", signer.text)]
  | alreadyFunded balance cap => [("balance", balance.decimal), ("max_accepted", cap.decimal)]
  | signerSelected signer balance => [("signer", signer.text), ("balance", balance.decimal)]
  | balanceTooLow signer balance required =>
      [("signer", signer.text), ("balance", balance.decimal), ("required", required.decimal)]
  | balanceUnknown signer failure => [("signer", signer.text), ("error", failure.message)]
  | gasPriceSuggested price => [("gas_price", price.decimal)]
  | gasPriceZero fallback => [("fallback", fallback.decimal)]
  | gasPriceUnknown failure fallback => [("error", failure.message), ("fallback", fallback.decimal)]
  | nonceBehind reported lastSent => [("chain_nonce", reported.decimal), ("last_sent", lastSent.decimal)]
  | transferBroadcast t hash =>
      [("tx_hash", hash.text), ("signer", t.sender.text), ("nonce", t.nonce.decimal),
       ("amount", t.value.decimal), ("gas_price", t.gasPrice.decimal)]
  | attemptSkipped failure => [("error", failure.message)]
  | attemptFailed failure => [("error", failure.message)]
  | waitExhausted waitedSecs poolSize =>
      [("waited_secs", toString waitedSecs), ("pool_size", toString poolSize)]
  | waiting retryInMs leased => [("retry_in_ms", toString retryInMs), ("leased", toString leased)]
  | transferPending hash => [("tx_hash", hash.text)]
  | transferConfirmed hash signer destination amount elapsedMs =>
      [("tx_hash", hash.text), ("signer", signer.text), ("destination", destination.text),
       ("amount", amount.decimal), ("elapsed_secs", Text.shortestWithPlace (Time.seconds elapsedMs))]
  | transferReverted hash signer destination =>
      [("tx_hash", hash.text), ("signer", signer.text), ("destination", destination.text)]
  | trackingStopped hash signer reason =>
      [("tx_hash", hash.text), ("signer", signer.text), ("reason", reason)]
  | connected network chainId endpoint =>
      [("network", network), ("chain_id", toString chainId), ("endpoint", endpoint)]
  | hashDiffers own node => [("local", own.text), ("node", node.text)]
  | stopping => []

end Notice

end GasFaucet
