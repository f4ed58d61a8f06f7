import GasFaucet.Text.CompositionTable

/-!
# Composed text

A letter and the marks on it may be one character or several.  In composed text the marks stand in the
order of their classes, and all that can be one character is one.

The text is first taken apart (`decompose`), then its marks are ordered (`order`), then each character
that starts a group takes in the marks behind it (`compose`).
-/

namespace GasFaucet.Text

/-- The class of a mark, by which marks on one character are ordered; 0 for all other characters. -/
def markClass (c : Char) : Nat :=
  match markClasses.find? fun r => r.1 ≤ c.toNat && c.toNat ≤ r.2.1 with
  | some r => r.2.2
  | none => 0

def isMark (c : Char) : Bool :=
  markRanges.any fun r => r.1 ≤ c.toNat && c.toNat ≤ r.2

namespace Syllable

/-- The number of the first syllable; there is one for each lead, vowel and tail. -/
def first : Nat := 0xac00

def lead (n : Nat) : Char := Char.ofNat (0x1100 + n)

def vowel (n : Nat) : Char := Char.ofNat (0x1161 + n)

def tail (n : Nat) : Char := Char.ofNat (0x11a7 + n)

def vowels : Nat := 21

def tails : Nat := 28

def count : Nat := 19 * vowels * tails

def parts? (c : Char) : Option (List Char) :=
  let n := c.toNat - first
  if c.toNat < first ∨ count ≤ n then none
  else
    let body := [lead (n / (vowels * tails)), vowel (n / tails % vowels)]
    some (if n % tails = 0 then body else body ++ [tail (n % tails)])

def join? (a b : Char) : Option Char :=
  let l := a.toNat - 0x1100
  let v := b.toNat - 0x1161
  let s := a.toNat - first
  let t := b.toNat - 0x11a7
  if 0x1100 ≤ a.toNat ∧ l < 19 ∧ 0x1161 ≤ b.toNat ∧ v < vowels then
    some (Char.ofNat (first + (l * vowels + v) * tails))
  else if first ≤ a.toNat ∧ s < count ∧ s % tails = 0 ∧ 0x11a7 < b.toNat ∧ t < tails then
    some (Char.ofNat (a.toNat + t))
  else none

end Syllable

def separate (r : Nat × Nat × Nat) (s : List Char) : List Char :=
  s.flatMap fun c => if c.toNat = r.2.2 then [Char.ofNat r.1, Char.ofNat r.2.1] else [c]

/-- The characters that one is composed of.  The table lists a part before all that it is a part of. -/
def partsOf (c : Char) : List Char :=
  match Syllable.parts? c with
  | some parts => parts
  | none => compositions.foldr separate [c]

def decompose (s : List Char) : List Char :=
  s.flatMap partsOf

/-- Puts a character in front of ordered text; a mark goes behind the marks of lower classes. -/
def insertMark (c : Char) : List Char → List Char
  | [] => [c]
  | d :: rest =>
      if 0 < markClass d ∧ markClass d < markClass c then d :: insertMark c rest else c :: d :: rest

def order (s : List Char) : List Char :=
  s.foldr insertMark []

def pair? (a b : Char) : Option Char :=
  match Syllable.join? a b with
  | some c => some c
  | none =>
      (compositions.find? fun r => r.1 = a.toNat && r.2.1 = b.toNat).map fun r => Char.ofNat r.2.2

/-- Whether a character is cut off from the start of its group by the last mark between them. -/
def isCutOff (c : Char) : List Char → Bool
  | [] => false
  | last :: _ => markClass c ≤ markClass last

/--
The text composed, where `start` starts a group and `held` are the marks between it and the rest,
last first, that it has not taken in.
-/
def composeFrom (start : Char) (held : List Char) : List Char → List Char
  | [] => start :: held.reverse
  | c :: rest =>
      match if isCutOff c held then none else pair? start c with
      | some composed => composeFrom composed held rest
      | none =>
          if markClass c = 0 then start :: held.reverse ++ composeFrom c [] rest
          else composeFrom start (c :: held) rest

def compose : List Char → List Char
  | [] => []
  | c :: rest => composeFrom c [] rest

def composed (s : List Char) : List Char :=
  compose (order (decompose s))

end GasFaucet.Text
