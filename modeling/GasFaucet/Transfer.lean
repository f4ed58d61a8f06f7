import GasFaucet.Address
import GasFaucet.Crypto.Keccak
import GasFaucet.Crypto.Secp256k1
import GasFaucet.Failure

/-!
# Transfers

A transfer moves an amount to a destination.  It is signed as a legacy transaction for one chain
(EIP-155): the chain id takes part in the hash that is signed and in the recovery number `v`.

Transactions are signed and sent as recursive length prefixes (`Rlp`), an encoding of byte strings and
lists in which every item starts with its length and numbers are byte strings without leading zeros.
-/

namespace GasFaucet

namespace Rlp

/-- The fewest bytes that write a number, most significant first; none for zero. -/
def minimalBytes (n : Nat) : Bytes :=
  if n = 0 then [] else minimalBytes (n / 256) ++ [n.toUInt8]
termination_by n
decreasing_by omega

/-- The length in front of an item: in one byte up to 55, else after the length of the length. -/
def lengthMark (base : Nat) (length : Nat) : Bytes :=
  if length ≤ 55 then [(base + length).toUInt8]
  else
    let digits := minimalBytes length
    (base + 55 + digits.length).toUInt8 :: digits

/-- Encodes a byte string; a single byte below 128 stands for itself. -/
def encodeBytes (b : Bytes) : Bytes :=
  match b with
  | [x] => if x < 0x80 then [x] else lengthMark 0x80 1 ++ [x]
  | _ => lengthMark 0x80 b.length ++ b

def encodeNat (n : Nat) : Bytes :=
  encodeBytes (minimalBytes n)

def encodeList (items : List Bytes) : Bytes :=
  let body := items.flatten
  lengthMark 0xc0 body.length ++ body

end Rlp

open Secp256k1 (PrivateKey Signature)

def addressOfKey (key : PrivateKey) : Address :=
  .ofBytes ((Keccak.hash key.publicKey).drop 12)

structure Account where
  key : PrivateKey
  address : Address
  address_eq : address = addressOfKey key

def Account.ofKey (key : PrivateKey) : Account :=
  ⟨key, addressOfKey key, rfl⟩

structure Transfer where
  destination : Address
  value : Word
  nonce : Word
  gasLimit : Word
  gasPrice : Word
  deriving DecidableEq

structure SignedTransfer extends Transfer where
  sender : Address
  hash : Digest
  raw : Bytes
  deriving DecidableEq

namespace Transfer

/-- The six items that say what is transferred, encoded; a transfer carries no data. -/
def items (t : Transfer) : List Bytes :=
  [Rlp.encodeNat t.nonce.toNat, Rlp.encodeNat t.gasPrice.toNat, Rlp.encodeNat t.gasLimit.toNat,
   Rlp.encodeBytes t.destination.bytes, Rlp.encodeNat t.value.toNat, Rlp.encodeBytes []]

def signingHash (t : Transfer) (chainId : UInt64) : Nat :=
  Bytes.toNat (Keccak.hash (Rlp.encodeList
    (t.items ++ [Rlp.encodeNat chainId.toNat, Rlp.encodeNat 0, Rlp.encodeNat 0])))

def recoveryNumber (chainId : UInt64) (s : Signature) : Nat :=
  35 + 2 * chainId.toNat + s.oddY.toNat

def envelope (t : Transfer) (chainId : UInt64) (s : Signature) : Bytes :=
  Rlp.encodeList
    (t.items ++ [Rlp.encodeNat (recoveryNumber chainId s), Rlp.encodeNat s.r, Rlp.encodeNat s.s])

def withSignature (t : Transfer) (account : Account) (chainId : UInt64) :
    Option Signature → Except Failure SignedTransfer
  | none => .error (.signing "signature error")
  | some s =>
      let raw := t.envelope chainId s
      .ok { toTransfer := t, sender := account.address, hash := .ofBytes (Keccak.hash raw), raw }

def sign (t : Transfer) (account : Account) (chainId : UInt64) : Except Failure SignedTransfer :=
  t.withSignature account chainId (Secp256k1.sign? account.key (t.signingHash chainId))

theorem sign_eq_ok {t : Transfer} {account : Account} {chainId : UInt64} {signed : SignedTransfer}
    (done : t.sign account chainId = .ok signed) :
    signed.toTransfer = t ∧ signed.sender = account.address := by
  unfold sign at done
  generalize Secp256k1.sign? account.key (t.signingHash chainId) = signature at done
  cases signature with
  | none => cases done
  | some s =>
    obtain rfl := Except.ok.inj done
    exact ⟨rfl, rfl⟩

theorem sign_eq_error {t : Transfer} {account : Account} {chainId : UInt64} {f : Failure}
    (failed : t.sign account chainId = .error f) : f = .signing "signature error" := by
  unfold sign at failed
  generalize Secp256k1.sign? account.key (t.signingHash chainId) = signature at failed
  cases signature with
  | none => exact (Except.error.inj failed).symm
  | some s => cases failed

theorem signature_of_sign {t : Transfer} {account : Account} {chainId : UInt64} {signed : SignedTransfer}
    (done : t.sign account chainId = .ok signed) :
    ∃ s, Secp256k1.sign? account.key (t.signingHash chainId) = some s ∧
      signed.raw = t.envelope chainId s := by
  unfold sign at done
  generalize Secp256k1.sign? account.key (t.signingHash chainId) = signature at done ⊢
  cases signature with
  | none => cases done
  | some s =>
    obtain rfl := Except.ok.inj done
    exact ⟨s, rfl, rfl⟩

end Transfer

end GasFaucet
