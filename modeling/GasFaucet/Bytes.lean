/-!
# Byte strings

Big-endian numbers and hex text of byte strings.  `toNat_ofNat` says that a
number survives being written in enough bytes, and `hexValue?_hexDigit` that a
hex digit reads back.
-/

namespace GasFaucet

abbrev Bytes := List UInt8

namespace Bytes

/-- The number that the bytes write in base 256, most significant first. -/
def toNat (b : Bytes) : Nat :=
  b.foldl (fun n x => 256 * n + x.toNat) 0

def ofNat : (width : Nat) → Nat → Bytes
  | 0, _ => []
  | width + 1, n => ofNat width (n / 256) ++ [n.toUInt8]

@[simp]
theorem length_ofNat (width n : Nat) : (ofNat width n).length = width := by
  induction width generalizing n with
  | zero => rfl
  | succ width ih => simp [ofNat, ih]

theorem toNat_append_singleton (b : Bytes) (x : UInt8) : toNat (b ++ [x]) = 256 * toNat b + x.toNat := by
  simp [toNat, List.foldl_append]

theorem toNat_ofNat {width n : Nat} (h : n < Nat.pow 256 width) : toNat (ofNat width n) = n := by
  induction width generalizing n with
  | zero =>
    obtain rfl : n = 0 := by simpa using h
    rfl
  | succ width ih =>
    have hn : n / 256 < Nat.pow 256 width := by
      rw [Nat.pow_eq] at h ⊢
      rw [Nat.pow_succ] at h
      exact Nat.div_lt_of_lt_mul (by omega)
    rw [ofNat, toNat_append_singleton, ih hn]
    simp [Nat.toUInt8]
    omega

def hexDigit (n : Nat) : Char :=
  if n < 10 then Char.ofNat (48 + n) else Char.ofNat (87 + n)

def hexValue? (c : Char) : Option Nat :=
  if '0' ≤ c ∧ c ≤ '9' then some (c.toNat - 48)
  else if 'a' ≤ c ∧ c ≤ 'f' then some (c.toNat - 87)
  else if 'A' ≤ c ∧ c ≤ 'F' then some (c.toNat - 55)
  else none

def hexNumber? (digits : List Char) : Option Nat :=
  digits.foldlM (fun n c => (hexValue? c).map (16 * n + ·)) 0

theorem hexValue?_hexDigit : ∀ n < 16, hexValue? (hexDigit n) = some n := by
  decide

def hexDigits : Bytes → List Char
  | [] => []
  | x :: rest => hexDigit (x.toNat / 16) :: hexDigit (x.toNat % 16) :: hexDigits rest

def hex (b : Bytes) : String :=
  "0x" ++ String.ofList (hexDigits b)

/-- The bytes that pairs of hex digits of either case spell; `none` for an odd count or another character. -/
def ofHexDigits? : List Char → Option Bytes
  | [] => some []
  | [_] => none
  | c :: d :: rest => do
      let hi ← hexValue? c
      let lo ← hexValue? d
      let tail ← ofHexDigits? rest
      some ((16 * hi + lo).toUInt8 :: tail)

end Bytes

end GasFaucet
