/-!
# Shortest decimal text

The fewest decimal digits that read back as a given floating-point number, in positional or
scientific notation.  The number is taken apart into `m * 2 ^ q`; the digits are found by exact
arithmetic on naturals.
-/

namespace GasFaucet.Text

structure Fraction where
  num : Nat
  den : Nat

def Fraction.ofBinary (m : Nat) (q : Int) : Fraction :=
  if 0 ≤ q then ⟨m * Nat.pow 2 q.toNat, 1⟩ else ⟨m, Nat.pow 2 (-q).toNat⟩

def Fraction.shift (f : Fraction) (k : Int) : Fraction :=
  if 0 ≤ k then ⟨f.num * Nat.pow 10 k.toNat, f.den⟩ else ⟨f.num, f.den * Nat.pow 10 (-k).toNat⟩

structure Decimal where
  digits : Nat
  exponent : Int

/--
The numbers that a floating-point number stands for: those between `low` and `high`, in quarters of
the unit `2 ^ q`, ends included for an even `m`.
-/
structure Interval where
  m : Nat
  low : Nat
  high : Nat
  unit : Int

def Interval.contains (i : Interval) (d : Decimal) : Bool :=
  let x := (Fraction.mk d.digits 1).shift d.exponent
  let low := Fraction.ofBinary i.low i.unit
  let high := Fraction.ofBinary i.high i.unit
  if i.m % 2 = 0 then
    low.num * x.den ≤ x.num * low.den && x.num * high.den ≤ high.num * x.den
  else
    low.num * x.den < x.num * low.den && x.num * high.den < high.num * x.den

def Fraction.magnitude (f : Fraction) : Int :=
  if f.den ≤ f.num then (Nat.toDigits 10 (f.num / f.den)).length - 1
  else
    match (List.range 400).find? fun j => f.den ≤ f.num * Nat.pow 10 j with
    | some j => -(j : Int)
    | none => -400

/-- Where a value goes that lies halfway between two decimals: up, or to the one with an even digit. -/
inductive Tie
  | up
  | toEven
  deriving DecidableEq

/-- The better of the value's two neighbours with `count` digits, if one lies in the interval. -/
def Interval.withDigits? (i : Interval) (tie : Tie) (value : Fraction) (count : Nat) : Option Decimal :=
  let exponent := value.magnitude - count + 1
  let scaled := value.shift (-exponent)
  let below := scaled.num / scaled.den
  let rest := scaled.num % scaled.den
  let down : Decimal := ⟨below, exponent⟩
  let up : Decimal := ⟨below + 1, exponent⟩
  match i.contains down, i.contains up with
  | true, true =>
      if 2 * rest < scaled.den then some down
      else if 2 * rest = scaled.den ∧ tie = .toEven ∧ below % 2 = 0 then some down
      else some up
  | true, false => some down
  | false, true => some up
  | false, false => none

def Interval.shortest (i : Interval) (tie : Tie) : Decimal :=
  let value := Fraction.ofBinary i.m (i.unit + 2)
  ((List.range 17).findSome? fun n => i.withDigits? tie value (n + 1)).getD ⟨i.m, i.unit⟩

def Interval.ofBits (bits : Nat) : Interval :=
  let mantissa : Nat := bits % Nat.pow 2 52
  let exponent : Nat := bits / Nat.pow 2 52 % Nat.pow 2 11
  if exponent = 0 then ⟨mantissa, 4 * mantissa - 2, 4 * mantissa + 2, -1076⟩
  else
    let m := Nat.pow 2 52 + mantissa
    let below := if mantissa = 0 ∧ 1 < exponent then 1 else 2
    ⟨m, 4 * m - below, 4 * m + 2, (exponent : Int) - 1077⟩

def Decimal.strip : (fuel : Nat) → Decimal → Decimal
  | 0, d => d
  | fuel + 1, d =>
      if d.digits ≠ 0 ∧ d.digits % 10 = 0 then strip fuel ⟨d.digits / 10, d.exponent + 1⟩ else d

def Decimal.positional (d : Decimal) : String :=
  let d := d.strip 20
  let digits := Nat.toDigits 10 d.digits
  if 0 ≤ d.exponent then
    String.ofList (digits ++ List.replicate d.exponent.toNat '0')
  else
    let places := (-d.exponent).toNat
    let padded := List.replicate (places + 1 - digits.length) '0' ++ digits
    String.ofList (padded.take (padded.length - places) ++ '.' :: padded.drop (padded.length - places))

def Decimal.magnitude (d : Decimal) : Int :=
  (Nat.toDigits 10 d.digits).length - 1 + d.exponent

/-- Scientific notation: one digit before the point, no point without a fraction, a signed exponent. -/
def Decimal.scientific (d : Decimal) : String :=
  let d := d.strip 20
  let sign := if d.magnitude < 0 then "e-" else "e+"
  match Nat.toDigits 10 d.digits with
  | [] => ""
  | first :: rest =>
      String.ofList (first :: if rest.isEmpty then [] else '.' :: rest) ++ sign ++
        toString d.magnitude.natAbs

def withPlace (s : String) : String :=
  if s.contains '.' then s else s ++ ".0"

def shortest (x : Float) : String :=
  if x == 0 then "0" else ((Interval.ofBits x.toBits.toNat).shortest .up).positional

def shortestWithPlace (x : Float) : String :=
  withPlace (shortest x)

end GasFaucet.Text
