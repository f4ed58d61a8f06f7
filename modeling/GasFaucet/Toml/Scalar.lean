import GasFaucet.Toml.Lexeme

/-!
# Numbers, dates and truth values of TOML

Each of them is one word of letters, digits, signs, points, colons and underscores; only between a
date and a time may a space stand.  An integer has 64 bits and a sign.
-/

namespace GasFaucet.Toml

def isWordChar (c : Char) : Bool :=
  c.isAlphanum || c = '_' || c = '-' || c = '+' || c = '.' || c = ':'

/-- Splits text at the first character that does not satisfy `p`. -/
def cut (p : Char → Bool) (s : List Char) : List Char × List Char :=
  (s.takeWhile p, s.dropWhile p)

/-- Whether digits may be followed by these characters: digits, each perhaps after one underscore. -/
def areMoreDigits (isDigit : Char → Bool) : List Char → Bool
  | [] => true
  | '_' :: c :: rest => isDigit c && areMoreDigits isDigit rest
  | c :: rest => isDigit c && areMoreDigits isDigit rest

def areDigits (isDigit : Char → Bool) : List Char → Bool
  | [] => false
  | c :: rest => isDigit c && areMoreDigits isDigit rest

def signed (s : List Char) : Bool × List Char :=
  match s with
  | '-' :: rest => (true, rest)
  | '+' :: rest => (false, rest)
  | rest => (false, rest)

/-- Whether a text is a decimal number without a superfluous zero in front. -/
def isPlainDecimal (s : List Char) : Bool :=
  s = ['0'] || (areDigits Char.isDigit s && s.head? ≠ some '0')

def digitsValue (base : Nat) (s : List Char) : Nat :=
  (s.filterMap Bytes.hexValue?).foldl (fun n d => base * n + d) 0

def integer? (n : Int) : Option Value :=
  if Int64.minValue.toInt ≤ n ∧ n ≤ Int64.maxValue.toInt then some (.integer n) else none

def isOctalDigit (c : Char) : Bool :=
  '0' ≤ c && c ≤ '7'

def isBinaryDigit (c : Char) : Bool :=
  c = '0' || c = '1'

def isHexDigit (c : Char) : Bool :=
  (Bytes.hexValue? c).isSome

def readInteger? (word : List Char) : Option Value :=
  match word with
  | '0' :: 'x' :: s => if areDigits isHexDigit s then integer? (digitsValue 16 s) else none
  | '0' :: 'o' :: s => if areDigits isOctalDigit s then integer? (digitsValue 8 s) else none
  | '0' :: 'b' :: s => if areDigits isBinaryDigit s then integer? (digitsValue 2 s) else none
  | _ =>
      let (negative, s) := signed word
      if isPlainDecimal s then
        let n : Int := digitsValue 10 s
        integer? (if negative then -n else n)
      else none

/-- The parts of a decimal number with a point or an exponent, or both. -/
structure FloatParts where
  negative : Bool
  whole : List Char
  fraction : List Char
  exponent : Int

def exponent? (s : List Char) : Option Int :=
  let (negative, digits) := signed s
  if areDigits Char.isDigit digits then
    let n : Int := digitsValue 10 digits
    some (if negative then -n else n)
  else none

def floatParts? (word : List Char) : Option FloatParts :=
  let (negative, s) := signed word
  let (whole, rest) := cut (fun c => c.isDigit || c = '_') s
  if !isPlainDecimal whole then none
  else
    match rest with
    | '.' :: rest =>
        let (fraction, rest) := cut (fun c => c.isDigit || c = '_') rest
        if !areDigits Char.isDigit fraction then none
        else
          match rest with
          | [] => some ⟨negative, whole, fraction, 0⟩
          | e :: rest =>
              if e = 'e' ∨ e = 'E' then (exponent? rest).map fun n => ⟨negative, whole, fraction, n⟩
              else none
    | e :: rest =>
        if e = 'e' ∨ e = 'E' then (exponent? rest).map fun n => ⟨negative, whole, [], n⟩ else none
    | [] => none

/-- The least number that is closer to `2 ^ 1024` than to any smaller number of double precision. -/
def overflowBound : Nat :=
  Nat.pow 2 1024 - Nat.pow 2 970

/--
Whether the number lies beyond double precision.  Where its size is plain from the count of its digits,
no power is computed.
-/
def FloatParts.isTooLarge (p : FloatParts) : Bool :=
  let fraction := p.fraction.filter (· ≠ '_')
  let digits := digitsValue 10 (p.whole ++ fraction)
  let scale := p.exponent - fraction.length
  let size := (Nat.toDigits 10 digits).length + scale
  if digits = 0 then false
  else if size > 310 then true
  else if size < 300 then false
  else if 0 ≤ scale then overflowBound ≤ digits * Nat.pow 10 scale.toNat
  else overflowBound * Nat.pow 10 (-scale).toNat ≤ digits

def isFloat (word : List Char) : Bool :=
  let special := (signed word).2
  special = "inf".toList || special = "nan".toList ||
    match floatParts? word with
    | some p => p.negative || !p.isTooLarge
    | none => false

def fixedNumber? (width : Nat) (s : List Char) : Option Nat :=
  if s.length = width && s.all Char.isDigit then some (digitsValue 10 s) else none

def daysOf (year month : Nat) : Nat :=
  if month = 2 then
    if year % 4 = 0 && (year % 100 ≠ 0 || year % 400 = 0) then 29 else 28
  else if month = 4 || month = 6 || month = 9 || month = 11 then 30
  else 31

def isDate (s : List Char) : Bool :=
  s.length = 10 && s[4]? = some '-' && s[7]? = some '-' &&
    match fixedNumber? 4 (s.take 4), fixedNumber? 2 ((s.drop 5).take 2), fixedNumber? 2 (s.drop 8) with
    | some year, some month, some day =>
        1 ≤ month && month ≤ 12 && 1 ≤ day && day ≤ daysOf year month
    | _, _, _ => false

def isHourMinute (s : List Char) : Bool :=
  s.length = 5 && s[2]? = some ':' &&
    match fixedNumber? 2 (s.take 2), fixedNumber? 2 (s.drop 3) with
    | some hour, some minute => hour ≤ 23 && minute ≤ 59
    | _, _ => false

def isTime (s : List Char) : Bool :=
  isHourMinute (s.take 5) && s[5]? = some ':' &&
    (match fixedNumber? 2 ((s.drop 6).take 2) with
    | some second => second ≤ 60
    | none => false) &&
    match s.drop 8 with
    | [] => true
    | '.' :: fraction => !fraction.isEmpty && fraction.all Char.isDigit
    | _ => false

def isTimeWithOffset (s : List Char) : Bool :=
  let (time, offset) := cut (fun c => c.isDigit || c = ':' || c = '.') s
  isTime time &&
    match offset with
    | [] => true
    | ['Z'] => true
    | ['z'] => true
    | '+' :: offset => isHourMinute offset
    | '-' :: offset => isHourMinute offset
    | _ => false

def isDateOrTime (word : List Char) : Bool :=
  isDate word || isTime word ||
    (isDate (word.take 10) && (word[10]? = some 'T' || word[10]? = some 't') &&
      isTimeWithOffset (word.drop 11))

def wordValue? (word : List Char) : Option Value :=
  if word = "true".toList then some (.boolean true)
  else if word = "false".toList then some (.boolean false)
  else if isDateOrTime word then some (.date (String.ofList word))
  else if isFloat word then some (.float (String.ofList word))
  else readInteger? word

def scalar? (s : List Char) : Option (Value × List Char) :=
  let (word, rest) := cut isWordChar s
  match isDate word, rest with
  | true, ' ' :: more =>
      match cut isWordChar more with
      | ([], _) => some (.date (String.ofList word), rest)
      | (time, rest) =>
          if isTimeWithOffset time then some (.date (String.ofList (word ++ ' ' :: time)), rest) else none
  | _, _ => (wordValue? word).map fun v => (v, rest)

end GasFaucet.Toml
