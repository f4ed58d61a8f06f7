import GasFaucet.Bytes

/-!
# Addresses and digests

An address names an account, a digest names a transaction.  Both are written
as `0x` and lower-case hex digits of full length.
-/

namespace GasFaucet

/-- The 20 bytes that name an account. -/
structure Address where
  bits : BitVec 160
  deriving DecidableEq, Inhabited

/-- The 32 bytes of a hash. -/
structure Digest where
  bits : BitVec 256
  deriving DecidableEq, Inhabited

namespace Address

def bytes (a : Address) : Bytes :=
  Bytes.ofNat 20 a.bits.toNat

def ofBytes (b : Bytes) : Address :=
  ⟨BitVec.ofNat 160 (Bytes.toNat b)⟩

@[simp]
theorem length_bytes (a : Address) : a.bytes.length = 20 :=
  Bytes.length_ofNat ..

theorem ofBytes_bytes (a : Address) : ofBytes a.bytes = a := by
  have h : a.bits.toNat < 256 ^ 20 := by have := a.bits.isLt; simpa using this
  simp [ofBytes, bytes, Bytes.toNat_ofNat h]

def text (a : Address) : String :=
  Bytes.hex a.bytes

end Address

namespace Digest

def bytes (d : Digest) : Bytes :=
  Bytes.ofNat 32 d.bits.toNat

def ofBytes (b : Bytes) : Digest :=
  ⟨BitVec.ofNat 256 (Bytes.toNat b)⟩

def text (d : Digest) : String :=
  Bytes.hex d.bytes

end Digest

end GasFaucet
