import GasFaucet.Text.Characters
import GasFaucet.Text.Composition
import GasFaucet.Url.DirectionTable
import GasFaucet.Url.DomainTable
import GasFaucet.Url.JoiningTable
import GasFaucet.Url.LigatureTable
import GasFaucet.Url.Punycode
import GasFaucet.Url.VariantTable

/-!
# Labels of a domain

The parts of a domain between its full stops.  Most characters stand for themselves, others for one or
several characters or for none, and a label is what its characters stand for, in composed text.  A
label may also be encoded in ASCII; it then has to hold only characters that stand for themselves.
-/

namespace GasFaucet.Url

abbrev Label := List Char

def isAscii (c : Char) : Bool :=
  c.toNat < 128

/-- Whether a character may not stand in a domain: blanks, controls, and what divides a URL. -/
def isDenied (c : Char) : Bool :=
  c.toNat ≤ 0x20 || c.toNat = 0x7f ||
    c ∈ ['%', '#', '/', ':', '<', '>', '?', '@', '[', '\\', ']', '^', '|']

/-- What a character stands for; `none` if it may not occur. -/
def meaning? (c : Char) : Option (List Char) :=
  let n := c.toNat
  if Text.inRanges plainLetters c || Text.inRanges plainSymbols c then some [c]
  else if Text.inRanges ignoredRanges c then some []
  else
    match substitutions.find? fun r => r.first ≤ n && n ≤ r.last && (n - r.first) % r.step == 0 with
    | some r => some [Char.ofNat (r.target + (n - r.first) / r.step * r.targetStep)]
    | none =>
        match variants.find? fun r => r.1 = n with
        | some r => some [Char.ofNat r.2]
        | none => (ligatures.find? fun r => r.1 = n).map fun r => r.2.map Char.ofNat

def meaning (s : List Char) : Option (List Char) :=
  (s.mapM meaning?).map fun parts => Text.composed parts.flatten

namespace Label

/-- On which sides a letter joins its neighbours; `none` for one that does not. -/
def joining? (c : Char) : Option Joining :=
  (joiningRanges.find? fun r => r.1 ≤ c.toNat && c.toNat ≤ r.2.1).map fun r => r.2.2

def reaches (ways : List Joining) (s : List Char) : Bool :=
  match (s.map joining?).dropWhile (· = some .transparent) with
  | some way :: _ => ways.contains way
  | _ => false

def vowelKiller : Nat := 9

/--
Whether a character that controls joining may stand between its neighbours.  Both may stand behind a mark
that takes off the vowel; the one that parts letters also between letters that would join.
-/
def mayStand (before : List Char) (c : Char) (rest : List Char) : Bool :=
  match before with
  | [] => false
  | last :: _ =>
      Text.markClass last = vowelKiller ||
        (c.toNat = 0x200c && reaches [.left, .both] before && reaches [.right, .both] rest)

/-- Whether all characters that control joining may stand where they are; `before` is nearest first. -/
def joinersFit (before : List Char) : List Char → Bool
  | [] => true
  | c :: rest =>
      (!(c.toNat = 0x200c || c.toNat = 0x200d) || mayStand before c rest) &&
        joinersFit (c :: before) rest

/-- Whether a label with all characters admitted is well formed: no mark in front, joiners in their place. -/
def isWellFormed (s : Label) : Bool :=
  (s.all isAscii || s.length ≤ 1000) && !(s.head?.any Text.isMark) && joinersFit [] s

def isEncoded (s : List Char) : Bool :=
  (s.take 4).map Char.toLower = ['x', 'n', '-', '-']

def decode? (s : List Char) : Option Label :=
  let digits := s.drop 4
  if digits.isEmpty || digits.getLast? = some '-' || 2000 < digits.length then none
  else
    (Punycode.decode? digits).filter fun label =>
      label.all (fun c => meaning? c = some [c] && !isDenied c && c ≠ '.') &&
        Text.composed label = label && isWellFormed label

def ofAscii? (s : List Char) : Option Label :=
  if isEncoded s then decode? s
  else if s.any isDenied then none
  else some (s.map Char.toLower)

def ofPlain? (s : List Char) : Option Label :=
  if s.all isAscii then ofAscii? s
  else if isEncoded s || s.any isDenied || !isWellFormed s then none
  else some s

/-- Reads what stands between two full stops; among the characters others may stand for full stops. -/
def read? (s : List Char) : Option (List Label) :=
  if s.all isAscii then (ofAscii? s).map ([·])
  else (meaning s).bind fun plain => (plain.splitOn '.').mapM ofPlain?

def direction (c : Char) : Direction :=
  match directionRanges.find? fun r => r.1 ≤ c.toNat && c.toNat ≤ r.2.1 with
  | some r => r.2.2
  | none => .leftToRight

def isRightToLeft (c : Char) : Bool :=
  [.rightToLeft, .arabicLetter, .arabicNumber].contains (direction c)

/-- What may stand in a label of either direction behind its first character, and before its last. -/
def common : List Direction :=
  [.europeanNumber, .sign, .separator, .terminator, .neutral, .boundary, .mark]

def isDirected (s : Label) : Bool :=
  match s.map direction with
  | [] => true
  | first :: rest =>
      let rest := (rest.reverse.dropWhile (· = .mark)).reverse
      let last := rest.getLast?.getD first
      match first with
      | .leftToRight =>
          [.leftToRight, .europeanNumber].contains last &&
            rest.all fun d => d = .leftToRight || common.contains d
      | .rightToLeft | .arabicLetter =>
          [.rightToLeft, .arabicLetter, .europeanNumber, .arabicNumber].contains last &&
            rest.all (fun d =>
              [.rightToLeft, .arabicLetter, .arabicNumber].contains d || common.contains d) &&
            !(rest.contains .europeanNumber && rest.contains .arabicNumber)
      | _ => false

end Label

/-- The labels of a domain; `none` if the text is no domain. -/
def labels? (s : List Char) : Option (List Label) :=
  (((s.splitOn '.').mapM Label.read?).map List.flatten).filter fun labels =>
    !(labels.any (·.any Label.isRightToLeft)) || labels.all Label.isDirected

end GasFaucet.Url
