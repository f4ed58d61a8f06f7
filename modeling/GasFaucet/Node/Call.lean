import GasFaucet.Bytes
import GasFaucet.Transfer

/-!
# Calls

The requests of JSON-RPC that the faucet makes of a node: their methods and parameters.
-/

namespace GasFaucet

inductive BlockTag
  | latest
  | finalized
  | safe
  | earliest
  | pending
  | number (n : UInt64)
  deriving DecidableEq

namespace BlockTag

/-- The tag as a parameter; numbers are in hex without leading zeros. -/
def text : BlockTag → String
  | latest => "latest"
  | finalized => "finalized"
  | safe => "safe"
  | earliest => "earliest"
  | pending => "pending"
  | number n => "0x" ++ String.ofList (Nat.toDigits 16 n.toNat)

end BlockTag

inductive Call
  | chainId
  | blockNumber
  | gasPrice
  | balance (account : Address) (block : BlockTag)
  | nonce (account : Address)
  | broadcast (raw : Bytes)
  | receipt (transaction : Digest)
  deriving DecidableEq

namespace Call

def method : Call → String
  | chainId => "eth_chainId"
  | blockNumber => "eth_blockNumber"
  | gasPrice => "eth_gasPrice"
  | balance .. => "eth_getBalance"
  | nonce _ => "eth_getTransactionCount"
  | broadcast _ => "eth_sendRawTransaction"
  | receipt _ => "eth_getTransactionReceipt"

def params? : Call → Option (List String)
  | chainId | blockNumber | gasPrice => none
  | balance account block => some [account.text, block.text]
  | nonce account => some [account.text, "pending"]
  | broadcast raw => some [Bytes.hex raw]
  | receipt transaction => some [transaction.text]

end Call

end GasFaucet
