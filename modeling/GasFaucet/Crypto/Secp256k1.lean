import GasFaucet.Crypto.Sha256

/-!
# The curve secp256k1

Points of `y² = x³ + 7` over the field of `fieldOrder` elements, private keys, and
signatures whose secret numbers are derived from the key and the message hash
(RFC 6979 with SHA-256), always with the smaller of the two possible `s`.
-/

namespace GasFaucet.Secp256k1

def fieldOrder : Nat :=
  0xfffffffffffffffffffffffffffffffffffffffffffffffffffffffefffffc2f

def order : Nat :=
  0xfffffffffffffffffffffffffffffffebaaedce6af48a03bbfd25e8cd0364141

def powMod (modulus : Nat) : (bits : Nat) → (base exponent : Nat) → Nat
  | 0, _, _ => 1
  | bits + 1, base, exponent =>
      let rest := powMod modulus bits (base * base % modulus) (exponent / 2)
      if exponent % 2 = 1 then base * rest % modulus else rest

def inverse (prime x : Nat) : Nat :=
  powMod prime 256 (x % prime) (prime - 2)

/-- A point in Jacobian coordinates: `(x / z², y / z³)`, the point at infinity where `z` is zero. -/
structure Point where
  x : Nat
  y : Nat
  z : Nat

namespace Point

def infinity : Point := ⟨1, 1, 0⟩

def generator : Point where
  x := 0x79be667ef9dcbbac55a06295ce870b07029bfcdb2dce28d959f2815b16f81798
  y := 0x483ada7726a3c4655da4fbfc0e1108a8fd17b448a68554199c47d08ffb10d4b8
  z := 1

def sub (a b : Nat) : Nat :=
  (a + fieldOrder - b) % fieldOrder

def double (a : Point) : Point :=
  let yy := a.y * a.y % fieldOrder
  let s := 4 * a.x * yy % fieldOrder
  let m := 3 * a.x * a.x % fieldOrder
  let x := sub (m * m % fieldOrder) (2 * s % fieldOrder)
  let y := sub (m * sub s x % fieldOrder) (8 * yy * yy % fieldOrder)
  ⟨x, y, 2 * a.y * a.z % fieldOrder⟩

def add (a b : Point) : Point :=
  if a.z = 0 then b
  else if b.z = 0 then a
  else
    let za := a.z * a.z % fieldOrder
    let zb := b.z * b.z % fieldOrder
    let ua := a.x * zb % fieldOrder
    let ub := b.x * za % fieldOrder
    let sa := a.y * (zb * b.z % fieldOrder) % fieldOrder
    let sb := b.y * (za * a.z % fieldOrder) % fieldOrder
    let h := sub ub ua
    let r := sub sb sa
    if h = 0 then
      if r = 0 then a.double else infinity
    else
      let hh := h * h % fieldOrder
      let hhh := h * hh % fieldOrder
      let v := ua * hh % fieldOrder
      let x := sub (r * r % fieldOrder) ((hhh + 2 * v) % fieldOrder)
      let y := sub (r * sub v x % fieldOrder) (sa * hhh % fieldOrder)
      ⟨x, y, h * a.z % fieldOrder * b.z % fieldOrder⟩

def times : (bits : Nat) → (k : Nat) → Point → Point
  | 0, _, _ => infinity
  | bits + 1, k, a =>
      let twice := double (times bits (k / 2) a)
      if k % 2 = 1 then add twice a else twice

def affine (a : Point) : Nat × Nat :=
  let inv := inverse fieldOrder a.z
  let inv2 := inv * inv % fieldOrder
  (a.x * inv2 % fieldOrder, a.y * (inv2 * inv % fieldOrder) % fieldOrder)

end Point

/-- A secret number between 1 and the curve's order less 1. -/
structure PrivateKey where
  scalar : Nat
  pos : 0 < scalar
  lt : scalar < order
  deriving DecidableEq

namespace PrivateKey

def ofNat? (n : Nat) : Option PrivateKey :=
  if h : 0 < n ∧ n < order then some ⟨n, h.1, h.2⟩ else none

theorem ofNat?_eq_some_iff {n : Nat} {k : PrivateKey} : ofNat? n = some k ↔ k.scalar = n := by
  constructor
  · intro h
    unfold ofNat? at h
    split at h
    · rw [← Option.some.inj h]
    · cases h
  · rintro rfl
    simp [ofNat?, k.pos, k.lt]

def publicKey (k : PrivateKey) : Bytes :=
  let (x, y) := (Point.times 256 k.scalar .generator).affine
  Bytes.ofNat 32 x ++ Bytes.ofNat 32 y

end PrivateKey

/-- A signature, with the parity of the y coordinate from which `r` was taken. -/
structure Signature where
  r : Nat
  s : Nat
  oddY : Bool
  deriving DecidableEq

def secretNumber? : (attempts : Nat) → (k v : Bytes) → Option Nat
  | 0, _, _ => none
  | attempts + 1, k, v =>
      let v := Sha256.hmac k v
      let candidate := Bytes.toNat v
      if 0 < candidate ∧ candidate < order then some candidate
      else
        let k := Sha256.hmac k (v ++ [0x00])
        secretNumber? attempts k (Sha256.hmac k v)

def secretNumberFor? (key : PrivateKey) (hash : Nat) : Option Nat :=
  let seed := Bytes.ofNat 32 key.scalar ++ Bytes.ofNat 32 (hash % order)
  let v := List.replicate 32 0x01
  let k := List.replicate 32 0x00
  let k := Sha256.hmac k (v ++ 0x00 :: seed)
  let v := Sha256.hmac k v
  let k := Sha256.hmac k (v ++ 0x01 :: seed)
  secretNumber? 64 k (Sha256.hmac k v)

/--
The signature of a message hash.  There is none if no secret number was admissible,
or if `r` or `s` came out as zero.
-/
def sign? (key : PrivateKey) (hash : Nat) : Option Signature := do
  let k ← secretNumberFor? key hash
  let (x, y) := (Point.times 256 k .generator).affine
  let r := x % order
  let s := inverse order k * (hash + r * key.scalar) % order
  if r = 0 ∨ s = 0 then none
  else if s > order / 2 then some ⟨r, order - s, y % 2 = 0⟩
  else some ⟨r, s, y % 2 = 1⟩

end GasFaucet.Secp256k1
