import GasFaucet.Address
import GasFaucet.Json
import GasFaucet.Word

/-!
# What the results of a node mean

A quantity is a text of hex digits, with `0x` before them or without.  Hashes, addresses and the
Bloom filter of a receipt have a fixed length.  Blanks among the digits are passed over, but count as
characters.  A receipt counts as success unless its status is zero.
-/

namespace GasFaucet.Json

def isHexBlank (c : Char) : Bool :=
  c = ' ' || c = '\t' || c = '\n' || c = '\r'

/-- The bytes of pairs of digits; a last digit without a partner is dropped. -/
def pairs : List Nat → Bytes
  | high :: low :: rest => (16 * high + low).toUInt8 :: pairs rest
  | _ => []

/-- The bytes that hex text spells; to an odd number of characters a digit zero comes first. -/
def hexBytes? (text : List Char) : Option Bytes :=
  ((text.filter (!isHexBlank ·)).mapM Bytes.hexValue?).map fun digits =>
    pairs (if text.length % 2 = 1 then 0 :: digits else digits)

def hexText? : Json → Option (List Char)
  | .string s =>
      match s.toList with
      | '0' :: 'x' :: text => some text
      | text => some text
  | _ => none

def quantity? (width : Nat) (j : Json) : Option Nat :=
  match j.hexText? with
  | none => none
  | some text => if text.isEmpty || width < text.length then none else (hexBytes? text).map Bytes.toNat

/-- The bytes that a text of twice as many characters spells, with zeros for those that blanks take. -/
def bytesOfLength? (length : Nat) (j : Json) : Option Bytes :=
  match j.hexText? with
  | none => none
  | some text =>
      if text.length = 2 * length then
        (hexBytes? text).map fun b => b ++ List.replicate (length - b.length) 0
      else none

def word? (j : Json) : Option Word :=
  (j.quantity? 64).bind Word.ofNat?

def digest? (j : Json) : Option Digest :=
  (j.bytesOfLength? 32).map fun b => ⟨BitVec.ofNat 256 b.toNat⟩

def isAddress (j : Json) : Bool :=
  (j.bytesOfLength? 20).isSome

def isDigest (j : Json) : Bool :=
  (j.bytesOfLength? 32).isSome

def isBloom (j : Json) : Bool :=
  (j.bytesOfLength? 256).isSome

/-- Whether a value is a text of whole bytes, with `0x` or `0X` before them or without. -/
def isByteString : Json → Bool
  | .string s =>
      match s.toList with
      | '0' :: 'x' :: digits | '0' :: 'X' :: digits => (Bytes.ofHexDigits? digits).isSome
      | digits => (Bytes.ofHexDigits? digits).isSome
  | _ => false

def isQuantity (width : Nat) (j : Json) : Bool :=
  (j.quantity? width).isSome

def isString : Json → Bool
  | .string _ => true
  | _ => false

def isBool : Json → Bool
  | .bool _ => true
  | _ => false

def isListOf (sort : Json → Bool) : Json → Bool
  | .array items => items.all sort
  | _ => false

/-- A field of a log entry or a receipt: its name, whether it has to be there, and its sort. -/
structure Field where
  name : String
  isRequired : Bool
  sort : Json → Bool

def Field.admits (f : Field) : Json → Bool
  | .null => !f.isRequired
  | v => f.sort v

def Field.isIn (f : Field) (j : Json) : Bool :=
  f.admits ((j.field? f.name).getD .null)

def logFields : List Field :=
  [⟨"address", true, isAddress⟩, ⟨"topics", true, isListOf isDigest⟩, ⟨"data", true, isByteString⟩,
   ⟨"blockHash", false, isDigest⟩, ⟨"blockNumber", false, isQuantity 16⟩,
   ⟨"transactionHash", false, isDigest⟩, ⟨"transactionIndex", false, isQuantity 16⟩,
   ⟨"logIndex", false, isQuantity 64⟩, ⟨"transactionLogIndex", false, isQuantity 64⟩,
   ⟨"logType", false, isString⟩, ⟨"removed", false, isBool⟩]

/-- Whether a value is a log entry: an object, or the list of its values in the order of the fields. -/
def isLogEntry : Json → Bool
  | .object fields => logFields.all fun f => f.isIn (.object fields)
  | .array items => items.length = logFields.length && (logFields.zip items).all fun (f, v) => f.admits v
  | _ => false

def receiptFields : List Field :=
  [⟨"transactionHash", true, isDigest⟩, ⟨"transactionIndex", true, isQuantity 16⟩,
   ⟨"from", true, isAddress⟩, ⟨"cumulativeGasUsed", true, isQuantity 64⟩,
   ⟨"logs", true, isListOf isLogEntry⟩, ⟨"logsBloom", true, isBloom⟩,
   ⟨"blockHash", false, isDigest⟩, ⟨"blockNumber", false, isQuantity 16⟩,
   ⟨"to", false, isAddress⟩, ⟨"gasUsed", false, isQuantity 64⟩,
   ⟨"contractAddress", false, isAddress⟩, ⟨"status", false, isQuantity 16⟩,
   ⟨"root", false, isDigest⟩, ⟨"type", false, isQuantity 16⟩,
   ⟨"effectiveGasPrice", false, isQuantity 64⟩]

def isReceipt : Json → Bool
  | .object fields => receiptFields.all fun f => f.isIn (.object fields)
  | _ => false

/-- Whether a receipt counts as success: it has no status, or another than zero. -/
def hasSucceeded (receipt : Json) : Bool :=
  match receipt.field? "status" with
  | none => true
  | some status => status.quantity? 16 ≠ some 0

theorem hasSucceeded_eq_false_iff {receipt : Json} :
    receipt.hasSucceeded = false ↔ (receipt.field? "status").bind (quantity? 16) = some 0 := by
  unfold hasSucceeded
  cases receipt.field? "status" with
  | none => simp
  | some status => simp

def receipt? : Json → Option (Option Bool)
  | .null => some none
  | j => if j.isReceipt then some (some j.hasSucceeded) else none

theorem receipt?_of_ne_null {j : Json} (given : j ≠ .null) :
    j.receipt? = if j.isReceipt then some (some j.hasSucceeded) else none := by
  cases j <;> first | rfl | exact absurd rfl given

end GasFaucet.Json
