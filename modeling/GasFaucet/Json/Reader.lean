import GasFaucet.Json

/-!
# Reading JSON

The value that a text writes.  Integers of 64 bits stay integers; every other number becomes a real.
Of several fields of one name the last counts, and the fields of an object come in the order of their
names.
-/

namespace GasFaucet.Json

def skipBlanks (s : List Char) : List Char :=
  s.dropWhile fun c => c = ' ' || c = '\n' || c = '\t' || c = '\r'

/-! ## Numbers -/

/--
Appends the leading decimal digits of a text to a number as far as it fits 64 bits; the result is the
number, how many digits were appended, and what is left.
-/
def appendDigits : (n count : Nat) → List Char → Nat × Nat × List Char
  | n, count, [] => (n, count, [])
  | n, count, c :: rest =>
      let next := 10 * n + (c.toNat - 48)
      if c.isDigit ∧ next < UInt64.size then appendDigits next (count + 1) rest else (n, count, c :: rest)

/--
The real `n * 10 ^ exponent`, rounded at each step: a quotient by a large power is taken by way of
`10 ^ 308`.  There is none above the largest real.
-/
def scaled? : (steps : Nat) → (x : Float) → (exponent : Int) → Option Float
  | 0, x, _ => some x
  | steps + 1, x, exponent =>
      if exponent.natAbs ≤ 308 then
        let power := Float.ofScientific 1 false exponent.natAbs
        let y := if 0 ≤ exponent then x * power else x / power
        if y.isInf then none else some y
      else if x == 0 then some x
      else if 0 ≤ exponent then none
      else scaled? steps (x / Float.ofScientific 1 false 308) (exponent + 308)

/-- The exponent that a text begins with, zero if it begins with none, and what is left. -/
def exponent? : List Char → Option (Int × List Char)
  | mark :: rest =>
      if mark = 'e' ∨ mark = 'E' then
        let (negative, rest) :=
          match rest with
          | '-' :: rest => (true, rest)
          | '+' :: rest => (false, rest)
          | rest => (false, rest)
        let digits := rest.takeWhile Char.isDigit
        let n : Int := digits.foldl (fun n c => 10 * n + (c.toNat - 48)) 0
        if digits.isEmpty then none else some (if negative then -n else n, rest.drop digits.length)
      else some (0, mark :: rest)
  | [] => some (0, [])

def places? : List Char → Option (List Char × List Char)
  | '.' :: rest =>
      let digits := rest.takeWhile Char.isDigit
      if digits.isEmpty then none else some (digits, rest.drop digits.length)
  | rest => some ([], rest)

def ofDecimal? (negative : Bool) (whole places : List Char) (exponent : Int) : Option Json :=
  let (n, _, more) := appendDigits 0 0 whole
  let (n, count, _) := appendDigits n 0 places
  let x? := scaled? 4 (UInt64.ofNat n).toFloat (exponent + more.length - count)
  x?.map fun x => .real (if negative then -x else x)

/-- An integer where it fits: from the least of 64 bits with a sign to the greatest without, `-0` apart. -/
def ofWhole? (negative : Bool) (digits : List Char) : Option Json :=
  let (n, _, more) := appendDigits 0 0 digits
  let limit : Nat := Nat.pow 2 63
  if !more.isEmpty then ofDecimal? negative digits [] 0
  else if !negative then some (.integer n)
  else if 0 < n ∧ n ≤ limit then some (.integer (-n))
  else some (.real (-(UInt64.ofNat n).toFloat))

def readNumber? (s : List Char) : Option (Json × List Char) := do
  let (negative, s) :=
    match s with
    | '-' :: rest => (true, rest)
    | s => (false, s)
  let whole := s.takeWhile Char.isDigit
  if whole.isEmpty ∨ (1 < whole.length ∧ whole.head? = some '0') then none
  let rest := s.drop whole.length
  let (places, rest) ← places? rest
  let marked := rest.head? = some 'e' || rest.head? = some 'E'
  let (exponent, rest) ← exponent? rest
  let value ←
    if places.isEmpty && !marked then ofWhole? negative whole else ofDecimal? negative whole places exponent
  some (value, rest)

/-! ## Strings -/

def unit? : List Char → Option (Nat × List Char)
  | a :: b :: c :: d :: rest =>
      (Bytes.hexNumber? [a, b, c, d]).map fun n => (n, rest)
  | _ => none

/-- The character that a `\u` escape means, which takes two of them beyond the first plane. -/
def unitEscape? (s : List Char) : Option (Char × List Char) := do
  let (high, rest) ← unit? s
  if high < 0xd800 ∨ 0xe000 ≤ high then return (Char.ofNat high, rest)
  match rest with
  | '\\' :: 'u' :: rest =>
      let (low, rest) ← unit? rest
      if high < 0xdc00 ∧ 0xdc00 ≤ low ∧ low < 0xe000 then
        return (Char.ofNat (0x10000 + (high - 0xd800) * 0x400 + (low - 0xdc00)), rest)
      else none
  | _ => none

def escaped? : List Char → Option (Char × List Char)
  | '"' :: rest => some ('"', rest)
  | '\\' :: rest => some ('\\', rest)
  | '/' :: rest => some ('/', rest)
  | 'b' :: rest => some ('\x08', rest)
  | 'f' :: rest => some ('\x0c', rest)
  | 'n' :: rest => some ('\n', rest)
  | 'r' :: rest => some ('\r', rest)
  | 't' :: rest => some ('\t', rest)
  | 'u' :: rest => unitEscape? rest
  | _ => none

/-- Reads on in a string up to its closing mark; `front` holds what was read, the latest first. -/
def readString? : (fuel : Nat) → (front : List Char) → List Char → Option (String × List Char)
  | 0, _, _ => none
  | _ + 1, _, [] => none
  | _ + 1, front, '"' :: rest => some (String.ofList front.reverse, rest)
  | fuel + 1, front, '\\' :: rest =>
      match escaped? rest with
      | some (c, rest) => readString? fuel (c :: front) rest
      | none => none
  | fuel + 1, front, c :: rest =>
      if c.toNat < 0x20 then none else readString? fuel (c :: front) rest

/-! ## Values -/

def insertField (name : String) (value : Json) : List (String × Json) → List (String × Json)
  | [] => [(name, value)]
  | field :: rest =>
      if name = field.1 then (name, value) :: rest
      else if name < field.1 then (name, value) :: field :: rest
      else field :: insertField name value rest

mutual

def readValue? : (fuel depth : Nat) → List Char → Option (Json × List Char)
  | 0, _, _ => none
  | fuel + 1, depth, s =>
      match skipBlanks s, depth with
      | 'n' :: 'u' :: 'l' :: 'l' :: rest, _ => some (.null, rest)
      | 't' :: 'r' :: 'u' :: 'e' :: rest, _ => some (.bool true, rest)
      | 'f' :: 'a' :: 'l' :: 's' :: 'e' :: rest, _ => some (.bool false, rest)
      | '"' :: rest, _ => (readString? fuel [] rest).map fun (s, rest) => (.string s, rest)
      | '[' :: rest, depth + 1 =>
          match skipBlanks rest with
          | ']' :: rest => some (.array [], rest)
          | rest => (readItems? fuel depth [] rest).map fun (items, rest) => (.array items, rest)
      | '\x7b' :: rest, depth + 1 =>
          match skipBlanks rest with
          | '\x7d' :: rest => some (.object [], rest)
          | rest => (readFields? fuel depth [] rest).map fun (fields, rest) => (.object fields, rest)
      | s, _ => readNumber? s

/-- Reads the items of an array up to its end; `front` holds those read, the latest first. -/
def readItems? : (fuel depth : Nat) → (front : List Json) → List Char → Option (List Json × List Char)
  | 0, _, _, _ => none
  | fuel + 1, depth, front, s =>
      match readValue? fuel depth s with
      | none => none
      | some (item, rest) =>
          match skipBlanks rest with
          | ',' :: rest => readItems? fuel depth (item :: front) rest
          | ']' :: rest => some ((item :: front).reverse, rest)
          | _ => none

def readFields? :
    (fuel depth : Nat) → (front : List (String × Json)) → List Char →
      Option (List (String × Json) × List Char)
  | 0, _, _, _ => none
  | fuel + 1, depth, front, s =>
      match skipBlanks s with
      | '"' :: rest =>
          match readString? fuel [] rest with
          | none => none
          | some (name, rest) =>
              match skipBlanks rest with
              | ':' :: rest =>
                  match readValue? fuel depth rest with
                  | none => none
                  | some (value, rest) =>
                      let fields := insertField name value front
                      match skipBlanks rest with
                      | ',' :: rest => readFields? fuel depth fields rest
                      | '\x7d' :: rest => some (fields, rest)
                      | _ => none
              | _ => none
      | _ => none

end

def read? (text : String) : Option Json :=
  let s := text.toList
  match readValue? (s.length + 1) 127 s with
  | some (value, rest) => if (skipBlanks rest).isEmpty then some value else none
  | none => none

end GasFaucet.Json
