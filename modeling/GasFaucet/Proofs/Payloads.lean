import GasFaucet.Proofs.Prefixes
import GasFaucet.Transfer

/-!
# Payloads

What the bytes of a signed transfer say.  They are read as a list of nine items, each in its only form, and
give back every value that was asked for, the signature, and with it the chain.  So equal bytes come from
equal transfers on one chain.
-/

namespace GasFaucet

namespace Bytes

theorem ofNat_toNat (b : Bytes) : ofNat b.length (toNat b) = b := by
  induction b using List.reverseRecOn with
  | nil => rfl
  | append_singleton b x ih =>
    rw [List.length_append, List.length_singleton, ofNat, toNat_append_div, toUInt8_toNat_append, ih]

/-- Bytes that are kept as a bit vector with room for them are written as they were. -/
theorem ofNat_toNat_bitVec {b : Bytes} {count width : Nat} (length : b.length = count)
    (room : 256 ^ count ≤ 2 ^ width) : ofNat count (BitVec.ofNat width (toNat b)).toNat = b := by
  subst length
  have small : toNat b < 2 ^ width := Nat.lt_of_lt_of_le (toNat_lt b) room
  rw [BitVec.toNat_ofNat, Nat.mod_eq_of_lt small, ofNat_toNat]

end Bytes

namespace Keccak

theorem size_round (s : Lanes) (constant : UInt64) : (round s constant).size = 25 := by
  simp [round, combineRows, tabulate]

theorem size_permute {s : Lanes} (size : s.size = 25) : (permute s).size = 25 := by
  have rounds (constants : List UInt64) : (constants.foldl round s).size = 25 := by
    induction constants generalizing s with
    | nil => exact size
    | cons constant rest ih =>
      rw [List.foldl_cons]
      exact ih (size_round s constant)
  exact rounds roundConstants

theorem size_absorb {s : Lanes} (size : s.size = 25) (count : Nat) (message : Bytes) :
    (absorb count s message).size = 25 := by
  induction count generalizing s message with
  | zero => exact size
  | succ count ih =>
    apply ih
    apply size_permute
    simp [lanesOfBlock, size]

theorem length_hash (message : Bytes) : (hash message).length = 32 := by
  have lanes : ((absorb ((pad message).length / rate) (Array.replicate 25 0) (pad message)).toList.take
      4).length = 4 := by
    rw [List.length_take, Array.length_toList, size_absorb (by simp)]
    rfl
  unfold hash
  dsimp only
  generalize (absorb _ _ _).toList.take 4 = front at lanes
  match front, lanes with
  | [a, b, c, d], _ => simp [bytesOfLane]

end Keccak

theorem Digest.bytes_ofBytes {b : Bytes} (length : b.length = 32) : (Digest.ofBytes b).bytes = b :=
  Bytes.ofNat_toNat_bitVec length (by decide)

theorem Address.bytes_ofBytes {b : Bytes} (length : b.length = 20) : (Address.ofBytes b).bytes = b :=
  Bytes.ofNat_toNat_bitVec length (by decide)

namespace Secp256k1

theorem sign?_lt {key : PrivateKey} {hash : Nat} {s : Signature} (signed : sign? key hash = some s) :
    s.r < order ∧ s.s < order := by
  unfold sign? at signed
  obtain ⟨k, -, rest⟩ := Option.bind_eq_some_iff.mp signed
  have pos : 0 < order := by decide
  generalize (Point.times 256 k .generator).affine = point at rest
  obtain ⟨x, y⟩ := point
  dsimp only at rest
  have smallR : x % order < order := Nat.mod_lt _ pos
  generalize x % order = r at rest smallR
  have smallS : inverse order k * (hash + r * key.scalar) % order < order := Nat.mod_lt _ pos
  generalize inverse order k * (hash + r * key.scalar) % order = low at rest smallS
  split at rest
  · cases rest
  split at rest
  · obtain rfl := Option.some.inj rest
    exact ⟨smallR, by dsimp only; omega⟩
  · obtain rfl := Option.some.inj rest
    exact ⟨smallR, smallS⟩

theorem order_lt_modulus : order < 2 ^ 256 := by
  decide

/-- The first candidate for the secret number is four keyed hashes away from the message. -/
theorem secretNumberFor?_of_hmac {key : PrivateKey} {hash : Nat} {k k' v v' seed candidate : Bytes}
    (seeded : Bytes.ofNat 32 key.scalar ++ Bytes.ofNat 32 (hash % order) = seed)
    (first : Sha256.hmac (List.replicate 32 0x00) (List.replicate 32 0x01 ++ 0x00 :: seed) = k)
    (drawn : Sha256.hmac k (List.replicate 32 0x01) = v)
    (second : Sha256.hmac k (v ++ 0x01 :: seed) = k') (redrawn : Sha256.hmac k' v = v')
    (asked : Sha256.hmac k' v' = candidate) (pos : 0 < Bytes.toNat candidate)
    (lt : Bytes.toNat candidate < order) :
    secretNumberFor? key hash = some (Bytes.toNat candidate) := by
  unfold secretNumberFor? secretNumber?
  dsimp only
  rw [seeded, first, drawn, second, redrawn, asked, if_pos ⟨pos, lt⟩]

end Secp256k1

def Word.read? (b : Bytes) : Option Word :=
  (Rlp.readNumber? b).bind Word.ofNat?

theorem Word.read?_eq_some_iff {b : Bytes} {w : Word} :
    Word.read? b = some w ↔ b = Rlp.minimalBytes w.toNat := by
  unfold Word.read?
  rw [Option.bind_eq_some_iff]
  simp only [Rlp.readNumber?_eq_some_iff, Word.ofNat?_eq_some_iff]
  constructor
  · rintro ⟨n, rfl, rfl⟩
    rfl
  · rintro rfl
    exact ⟨_, rfl, rfl⟩

/-- The number below two to the power of 64 that bytes write without a zero in front. -/
def readUInt64? (b : Bytes) : Option UInt64 :=
  (Rlp.readNumber? b).bind fun n => if n < 2 ^ 64 then some n.toUInt64 else none

theorem readUInt64?_eq_some_iff {b : Bytes} {n : UInt64} :
    readUInt64? b = some n ↔ b = Rlp.minimalBytes n.toNat := by
  unfold readUInt64?
  rw [Option.bind_eq_some_iff]
  simp only [Rlp.readNumber?_eq_some_iff]
  constructor
  · rintro ⟨m, rfl, read⟩
    split at read
    · rename_i small
      obtain rfl := Option.some.inj read
      rw [Nat.toUInt64, UInt64.toNat_ofNat', Nat.mod_eq_of_lt small]
    · cases read
  · rintro rfl
    refine ⟨_, rfl, ?_⟩
    rw [if_pos n.toNat_lt]
    simp

def Address.read? (b : Bytes) : Option Address :=
  if b.length = 20 then some (.ofBytes b) else none

theorem Address.read?_eq_some_iff {b : Bytes} {a : Address} : Address.read? b = some a ↔ b = a.bytes := by
  unfold Address.read?
  constructor
  · intro read
    split at read
    · rename_i length
      obtain rfl := Option.some.inj read
      exact (Address.bytes_ofBytes length).symm
    · cases read
  · intro whole
    rw [whole, Address.length_bytes, if_pos rfl, Address.ofBytes_bytes]

/-- What a transaction says that is broadcast; the last three numbers are its signature. -/
structure Payload where
  nonce : Word
  gasPrice : Word
  gasLimit : Word
  destination : Address
  value : Word
  data : Bytes
  v : UInt64
  r : Word
  s : Word

namespace Payload

def items (p : Payload) : List Bytes :=
  [Rlp.minimalBytes p.nonce.toNat, Rlp.minimalBytes p.gasPrice.toNat, Rlp.minimalBytes p.gasLimit.toNat,
   p.destination.bytes, Rlp.minimalBytes p.value.toNat, p.data, Rlp.minimalBytes p.v.toNat,
   Rlp.minimalBytes p.r.toNat, Rlp.minimalBytes p.s.toNat]

def read? (raw : Bytes) : Option Payload :=
  match Rlp.readList? raw with
  | some [nonce, gasPrice, gasLimit, destination, value, data, v, r, s] => do
      return {
        nonce := ← Word.read? nonce
        gasPrice := ← Word.read? gasPrice
        gasLimit := ← Word.read? gasLimit
        destination := ← Address.read? destination
        value := ← Word.read? value
        data := data
        v := ← readUInt64? v
        r := ← Word.read? r
        s := ← Word.read? s }
  | _ => none

theorem read?_eq_some_iff {raw : Bytes} {p : Payload} :
    read? raw = some p ↔ Rlp.readList? raw = some p.items := by
  unfold read?
  constructor
  · intro read
    split at read
    · rename_i listed
      simp only [Option.bind_eq_bind, Option.bind_eq_some_iff, Option.pure_def, Option.some.injEq,
        Word.read?_eq_some_iff, readUInt64?_eq_some_iff, Address.read?_eq_some_iff] at read
      obtain ⟨_, rfl, _, rfl, _, rfl, _, place, _, rfl, _, rfl, _, rfl, _, rfl, rfl⟩ := read
      rw [place] at listed
      exact listed
    · cases read
  · intro listed
    have word (w : Word) : Word.read? (Rlp.minimalBytes w.toNat) = some w :=
      Word.read?_eq_some_iff.mpr rfl
    have number (n : UInt64) : readUInt64? (Rlp.minimalBytes n.toNat) = some n :=
      readUInt64?_eq_some_iff.mpr rfl
    have place (a : Address) : Address.read? a.bytes = some a := Address.read?_eq_some_iff.mpr rfl
    rw [listed, items]
    simp only [word, number, place, Option.bind_eq_bind, Option.bind_some, Option.pure_def]

/-- Whether a payload says a transfer and a signature of it for a chain. -/
structure Says (p : Payload) (t : Transfer) (chainId : UInt64) (signature : Secp256k1.Signature) :
    Prop where
  nonce : p.nonce = t.nonce
  gasPrice : p.gasPrice = t.gasPrice
  gasLimit : p.gasLimit = t.gasLimit
  destination : p.destination = t.destination
  value : p.value = t.value
  data : p.data = []
  v : p.v.toNat = 35 + 2 * chainId.toNat + signature.oddY.toNat
  r : p.r.toNat = signature.r
  s : p.s.toNat = signature.s

section Says

variable {p : Payload} {t t' : Transfer} {chainId chainId' : UInt64}
  {signature signature' : Secp256k1.Signature}

theorem exists_payload (t : Transfer) (fits : 2 * chainId.toNat + 36 < 2 ^ 64)
    (smallR : signature.r < 2 ^ 256) (smallS : signature.s < 2 ^ 256) :
    ∃ p : Payload, p.Says t chainId signature := by
  have parity : signature.oddY.toNat ≤ 1 := signature.oddY.toNat_le
  refine ⟨⟨t.nonce, t.gasPrice, t.gasLimit, t.destination, t.value, [],
    (Transfer.recoveryNumber chainId signature).toUInt64, BitVec.ofNat 256 signature.r,
    BitVec.ofNat 256 signature.s⟩, rfl, rfl, rfl, rfl, rfl, rfl, ?_, ?_, ?_⟩
  · rw [Nat.toUInt64, UInt64.toNat_ofNat', Transfer.recoveryNumber]
    exact Nat.mod_eq_of_lt (by omega)
  · exact Nat.mod_eq_of_lt smallR
  · exact Nat.mod_eq_of_lt smallS

theorem Says.unique (told : p.Says t chainId signature) (told' : p.Says t' chainId' signature') :
    t = t' ∧ chainId = chainId' := by
  constructor
  · cases t
    cases t'
    simp only [Transfer.mk.injEq]
    exact ⟨told.destination.symm.trans told'.destination, told.value.symm.trans told'.value,
      told.nonce.symm.trans told'.nonce, told.gasLimit.symm.trans told'.gasLimit,
      told.gasPrice.symm.trans told'.gasPrice⟩
  · -- The parity is at most one, so it does not reach the chain id in the recovery number.
    have number := told.v.symm.trans told'.v
    have parity := signature.oddY.toNat_le
    have parity' := signature'.oddY.toNat_le
    apply UInt64.toNat_inj.mp
    omega

theorem Says.length_le (told : p.Says t chainId signature) : ∀ item ∈ p.items, item.length ≤ 55 := by
  have word (w : Word) : (Rlp.minimalBytes w.toNat).length ≤ 55 := by
    have few : (Rlp.minimalBytes w.toNat).length ≤ 32 := Rlp.length_minimalBytes_le w.isLt
    omega
  have number (n : UInt64) : (Rlp.minimalBytes n.toNat).length ≤ 55 := by
    have few : (Rlp.minimalBytes n.toNat).length ≤ 8 := Rlp.length_minimalBytes_le n.toNat_lt
    omega
  simp [items, word, number, told.data]

theorem Says.read?_envelope (told : p.Says t chainId signature) :
    read? (t.envelope chainId signature) = some p := by
  rw [read?_eq_some_iff, Rlp.readList?_eq_some_iff]
  constructor
  · have few := Rlp.length_flatten_encodeBytes_le told.length_le
    have nine : p.items.length = 9 := rfl
    rw [nine] at few
    exact Nat.lt_of_le_of_lt few (by decide)
  · simp only [Transfer.envelope, Transfer.items, Transfer.recoveryNumber, items, Rlp.encodeNat,
      told.nonce, told.gasPrice, told.gasLimit, told.destination, told.value, told.data, told.v, told.r,
      told.s, List.map_cons, List.map_nil, List.cons_append, List.nil_append]

theorem read?_inj {raw raw' : Bytes} (read : read? raw = some p) (read' : read? raw' = some p) :
    raw = raw' := by
  rw [read?_eq_some_iff, Rlp.readList?_eq_some_iff] at read read'
  rw [read.2, read'.2]

end Says

end Payload

def Account.one : Account where
  key := ⟨1, by decide, by decide⟩
  address := ⟨0x7e5f4552091a69125d5dfcb7b8c2659029395bdf⟩
  address_eq := by decide +kernel

def Account.two : Account where
  key := ⟨2, by decide, by decide⟩
  address := ⟨0x2b5ad5c4795c026514f8317c7a215e218dccd6cf⟩
  address_eq := by decide +kernel

namespace Transfer

open Secp256k1 (Signature)

theorem sign_of_signature {t : Transfer} {account : Account} {chainId : UInt64} {s : Secp256k1.Signature}
    (signature : Secp256k1.sign? account.key (t.signingHash chainId) = some s) :
    t.sign account chainId = .ok
      { toTransfer := t, sender := account.address,
        hash := .ofBytes (Keccak.hash (t.envelope chainId s)), raw := t.envelope chainId s } := by
  unfold sign
  rw [signature]
  rfl

structure SignedFaithfully (t : Transfer) (account : Account) (chainId : UInt64) : Prop where
  /-- Without a signature there is no signed transfer. -/
  refused : Secp256k1.sign? account.key (t.signingHash chainId) = none →
    t.sign account chainId = .error (.signing "signature error")
  /-- The bytes are the only ones that are read as a payload, and it is what was asked for. -/
  told : ∀ s, Secp256k1.sign? account.key (t.signingHash chainId) = some s →
    ∃ signed p, t.sign account chainId = .ok signed ∧ signed.toTransfer = t ∧
      signed.sender = addressOfKey account.key ∧ signed.hash.bytes = Keccak.hash signed.raw ∧
      Rlp.readList? signed.raw = some p.items ∧ Payload.read? signed.raw = some p ∧
      p.Says t chainId s ∧ ∀ other, Payload.read? other = some p → other = signed.raw
  /-- The same bytes come from the same transfer, signed for the same chain. -/
  apart : ∀ signed, t.sign account chainId = .ok signed →
    ∀ (t' : Transfer) account' (chainId' : UInt64) signed', 2 * chainId'.toNat + 36 < 2 ^ 64 →
      t'.sign account' chainId' = .ok signed' → signed'.raw = signed.raw → t' = t ∧ chainId' = chainId

/--
Signing keeps every value that was asked for: the bytes are a list of nine items in its only form, which
says the transfer, its signature and its chain, and nothing else.
-/
theorem signed_payload_exact (t : Transfer) (account : Account) (chainId : UInt64)
    (fits : 2 * chainId.toNat + 36 < 2 ^ 64) : t.SignedFaithfully account chainId := by
  have payload {t : Transfer} {account : Account} {chainId : UInt64} {s : Secp256k1.Signature}
      (fits : 2 * chainId.toNat + 36 < 2 ^ 64)
      (signature : Secp256k1.sign? account.key (t.signingHash chainId) = some s) :
      ∃ p : Payload, p.Says t chainId s := by
    obtain ⟨smallR, smallS⟩ := Secp256k1.sign?_lt signature
    exact Payload.exists_payload t fits (Nat.lt_trans smallR Secp256k1.order_lt_modulus)
      (Nat.lt_trans smallS Secp256k1.order_lt_modulus)
  constructor
  case refused =>
    intro nothing
    unfold sign
    rw [nothing]
    rfl
  case told =>
    intro s signature
    obtain ⟨p, told⟩ := payload fits signature
    have read := told.read?_envelope
    refine ⟨_, p, sign_of_signature signature, rfl, account.address_eq, ?_,
      Payload.read?_eq_some_iff.mp read, read, told, fun other again => Payload.read?_inj again read⟩
    exact Digest.bytes_ofBytes (Keccak.length_hash _)
  case apart =>
    intro signed done t' account' chainId' signed' fits' done' same
    obtain ⟨s, signature, raw⟩ := signature_of_sign done
    obtain ⟨s', signature', raw'⟩ := signature_of_sign done'
    obtain ⟨p, told⟩ := payload fits signature
    obtain ⟨p', told'⟩ := payload fits' signature'
    have read := told.read?_envelope
    have read' := told'.read?_envelope
    rw [← raw', same, raw, read] at read'
    obtain rfl := Option.some.inj read'
    exact told'.unique told

/-- Three wei, as they are first sent by an account that pays one wei for a unit of gas. -/
def threeWei : Transfer := ⟨⟨2⟩, 3, 0, 21000, 1⟩

/-- The signature of three wei for the chain 31337 by the key one. -/
def threeWeiSignature : Signature where
  r := 0x76751ab705916ba5f32a6cf08cb050cd7eb1c81597a5fe073e5a03954a8fb95f
  s := 0x3bcee3a65f3c90fcc6e4d87c7861f67dad5e4cfb61e34276283cc6749950df0e
  oddY := false

theorem signingHash_threeWei : threeWei.signingHash 31337 =
    0xabf4562e2c19e002f695976f213b82e55346d97e4ff87d9b60ab1ad0d2e26eaf := by
  decide +kernel

namespace ThreeWei

def seed : Bytes :=
  Bytes.ofNat 32 1 ++
    Bytes.ofNat 32 0xabf4562e2c19e002f695976f213b82e55346d97e4ff87d9b60ab1ad0d2e26eaf

/-- The first key that is drawn from the seed. -/
def firstKey : Bytes :=
  Bytes.ofNat 32 0xb81bfa545934cbdaad20ff6e78d97eb36b2a41c5abbd9ab12ec5602896359840

def firstValue : Bytes :=
  Bytes.ofNat 32 0x6bcf568c2251f6e0304ab56518599f836f042808185a5f6b879c831a345dc479

def secondKey : Bytes :=
  Bytes.ofNat 32 0x04d66aa9021f69f27d772b9491d141ea3baaea9a0cd2130113ac417817992cd0

def secondValue : Bytes :=
  Bytes.ofNat 32 0x87d84d90e7762433a9219efa880e5464dd48661437f2da9b4178140abbc26e41

def secretNumber : Nat :=
  0x94603826b2fb2c0f9033aadf5f79e41983f650561b588fba46347794adf8f9b8

end ThreeWei

open ThreeWei Sha256 Secp256k1 in
theorem secretNumberFor?_threeWei :
    secretNumberFor? Account.one.key (threeWei.signingHash 31337) = some secretNumber := by
  -- Hash by hash, since the kernel holds on to all that one evaluation meets.
  have first : hmac (List.replicate 32 0x00) (List.replicate 32 0x01 ++ 0x00 :: seed) = firstKey := by
    decide +kernel
  have drawn : hmac firstKey (List.replicate 32 0x01) = firstValue := by decide +kernel
  have second : hmac firstKey (firstValue ++ 0x01 :: seed) = secondKey := by decide +kernel
  have redrawn : hmac secondKey firstValue = secondValue := by decide +kernel
  have asked : hmac secondKey secondValue = Bytes.ofNat 32 secretNumber := by decide +kernel
  have seeded : Bytes.ofNat 32 Account.one.key.scalar ++
      Bytes.ofNat 32 (threeWei.signingHash 31337 % order) = seed := by
    rw [signingHash_threeWei]
    rfl
  have number : Bytes.toNat (Bytes.ofNat 32 secretNumber) = secretNumber :=
    Bytes.toNat_ofNat (by decide)
  rw [← number]
  apply secretNumberFor?_of_hmac seeded first drawn second redrawn asked
  · rw [number]
    decide
  · rw [number]
    decide

theorem sign?_threeWei :
    Secp256k1.sign? Account.one.key (threeWei.signingHash 31337) = some threeWeiSignature := by
  unfold Secp256k1.sign?
  rw [secretNumberFor?_threeWei, signingHash_threeWei]
  decide +kernel

theorem sign_threeWei : ∃ signed, threeWei.sign .one 31337 = .ok signed :=
  ⟨_, sign_of_signature sign?_threeWei⟩

/-- Three wei in bytes; and the largest transfer, for the largest chain id that leaves room. -/
theorem signed_payload_exact_three_wei :
    let word : Word := BitVec.allOnes 256
    let largest : Transfer := ⟨⟨BitVec.allOnes 160⟩, word, word, word, word⟩
    2 * (9223372036854775789 : UInt64).toNat + 36 < 2 ^ 64 ∧
      largest.SignedFaithfully .one 9223372036854775789 ∧
    2 * (31337 : UInt64).toNat + 36 < 2 ^ 64 ∧ threeWei.SignedFaithfully .one 31337 ∧
    ∃ signed, threeWei.sign .one 31337 = .ok signed ∧
      signed.raw = [0xf8, 0x61, 0x80, 0x01, 0x82, 0x52, 0x08, 0x94] ++ threeWei.destination.bytes ++
        [0x03, 0x80, 0x82, 0xf4, 0xf5, 0xa0] ++ Bytes.ofNat 32 threeWeiSignature.r ++
        [0xa0] ++ Bytes.ofNat 32 threeWeiSignature.s ∧
      Rlp.readList? signed.raw = some [[], [1], [0x52, 0x08], threeWei.destination.bytes, [3], [],
        [0xf4, 0xf5], Bytes.ofNat 32 threeWeiSignature.r, Bytes.ofNat 32 threeWeiSignature.s] := by
  intro word largest
  have room : 2 * (9223372036854775789 : UInt64).toNat + 36 < 2 ^ 64 := by decide
  have fits : 2 * (31337 : UInt64).toNat + 36 < 2 ^ 64 := by decide
  refine ⟨room, signed_payload_exact largest .one _ room, fits, signed_payload_exact threeWei .one _ fits,
    _, sign_of_signature sign?_threeWei, ?_, ?_⟩
  · decide +kernel
  · decide +kernel

end Transfer

end GasFaucet
