/-!
# Words

A word is a 256-bit unsigned number: an amount of wei, a nonce, a gas price.
Arithmetic on words never wraps silently: a sum either is checked, or stops at
the largest word.
-/

namespace GasFaucet

abbrev Word := BitVec 256

namespace Word

/-- The number of words, two to the power of 256. -/
def modulus : Nat :=
  Nat.pow 2 256

theorem toNat_lt_modulus (w : Word) : w.toNat < modulus :=
  w.isLt

theorem toNat_ofNat_of_lt {n : Nat} (h : n < modulus) : (BitVec.ofNat 256 n).toNat = n :=
  Nat.mod_eq_of_lt h

def ofNat? (n : Nat) : Option Word :=
  if n < modulus then some (BitVec.ofNat 256 n) else none

theorem ofNat?_toNat (w : Word) : ofNat? w.toNat = some w := by
  simp [ofNat?, w.toNat_lt_modulus]

theorem ofNat?_eq_some_iff {n : Nat} {w : Word} : ofNat? n = some w ↔ w.toNat = n := by
  constructor
  · intro h
    unfold ofNat? at h
    split at h
    · obtain rfl := Option.some.inj h
      exact toNat_ofNat_of_lt ‹_›
    · cases h
  · rintro rfl
    exact ofNat?_toNat w

theorem ofNat?_eq_none_iff {n : Nat} : ofNat? n = none ↔ modulus ≤ n := by
  unfold ofNat?
  split <;> simp <;> omega

def add? (a b : Word) : Option Word :=
  ofNat? (a.toNat + b.toNat)

theorem add?_eq_some_iff {a b c : Word} : add? a b = some c ↔ c.toNat = a.toNat + b.toNat :=
  ofNat?_eq_some_iff

theorem add?_eq_none_iff {a b : Word} : add? a b = none ↔ modulus ≤ a.toNat + b.toNat :=
  ofNat?_eq_none_iff

def mul? (a b : Word) : Option Word :=
  ofNat? (a.toNat * b.toNat)

theorem mul?_eq_some_iff {a b c : Word} : mul? a b = some c ↔ c.toNat = a.toNat * b.toNat :=
  ofNat?_eq_some_iff

theorem mul?_eq_none_iff {a b : Word} : mul? a b = none ↔ modulus ≤ a.toNat * b.toNat :=
  ofNat?_eq_none_iff

def addSat (a b : Word) : Word :=
  BitVec.ofNat 256 (min (a.toNat + b.toNat) (modulus - 1))

def mulSat (a b : Word) : Word :=
  BitVec.ofNat 256 (min (a.toNat * b.toNat) (modulus - 1))

def subSat (a b : Word) : Word :=
  BitVec.ofNat 256 (a.toNat - b.toNat)

theorem toNat_subSat (a b : Word) : (subSat a b).toNat = a.toNat - b.toNat := by
  have := a.toNat_lt_modulus
  exact toNat_ofNat_of_lt (by omega)

def decimal (w : Word) : String :=
  toString w.toNat

/-- The prefix `0x` and lower-case hex digits without leading zeros, as JSON carries quantities. -/
def quantity (w : Word) : String :=
  "0x" ++ String.ofList (Nat.toDigits 16 w.toNat)

end Word

end GasFaucet
