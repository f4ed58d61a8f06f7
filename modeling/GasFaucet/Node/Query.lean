import GasFaucet.Transfer

/-!
# Queries to a node

What the faucet asks of a node of its network, and what may come back: a value, a failure, or the
breakdown of the one who should have answered.
-/

namespace GasFaucet

inductive Query
  | balance (account : Address)
  | gasPrice
  | nonce (account : Address)
  | broadcast (transfer : SignedTransfer)
  | receipt (transaction : Digest)
  deriving DecidableEq

/-- What comes back for a request. -/
inductive Reply (α : Type)
  | value (a : α)
  | failure (f : Failure)
  | crash (message : String)
  deriving DecidableEq

/--
An answer.  Balances, gas prices and nonces are numbers, a broadcast is answered by the hash of the
transaction, and a receipt says whether the transaction succeeded.
-/
inductive Answer
  | number (r : Reply Word)
  | digest (r : Reply Digest)
  | mined (r : Reply Bool)
  deriving DecidableEq

namespace Query

def admits : Query → Answer → Bool
  | balance _, .number _ | gasPrice, .number _ | nonce _, .number _ => true
  | broadcast _, .digest _ => true
  | receipt _, .mined _ => true
  | _, _ => false

def failed (f : Failure) : Query → Answer
  | balance _ | gasPrice | nonce _ => .number (.failure f)
  | broadcast _ => .digest (.failure f)
  | receipt _ => .mined (.failure f)

def crashed (message : String) : Query → Answer
  | balance _ | gasPrice | nonce _ => .number (.crash message)
  | broadcast _ => .digest (.crash message)
  | receipt _ => .mined (.crash message)

end Query

end GasFaucet
