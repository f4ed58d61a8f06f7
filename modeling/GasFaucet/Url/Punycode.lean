/-!
# Encoded labels

A label with characters beyond ASCII can be written in ASCII: first the characters of ASCII, then a
hyphen, then numbers that say which other characters are inserted where.  Each number counts the places
that are passed over, through all characters in their order; it is written in digits of base 36, lowest
first, whose thresholds adapt to the numbers before.

`length_number?` says that reading a number takes something off the text, so that reading ends.
-/

namespace GasFaucet.Url.Punycode

def limit : Nat := 4294967295

/-- The value of a digit of base 36: letters of either case, then the decimal digits. -/
def digit? (c : Char) : Option Nat :=
  if 'a' ≤ c ∧ c ≤ 'z' then some (c.toNat - 97)
  else if 'A' ≤ c ∧ c ≤ 'Z' then some (c.toNat - 65)
  else if '0' ≤ c ∧ c ≤ '9' then some (c.toNat - 22)
  else none

/-- The value below which a digit ends its number, at a place given by 36 for each digit up to it. -/
def threshold (bias place : Nat) : Nat :=
  if place ≤ bias then 1 else if bias + 26 ≤ place then 26 else place - bias

/-- Divides by 35 until at most 455 is left, and adds 36 for each division. -/
def scale (delta place : Nat) : Nat :=
  if 455 < delta then scale (delta / 35) (place + 36)
  else place + 36 * delta / (delta + 38)
termination_by delta
decreasing_by omega

/-- The bias after a number, with the count of characters now there; the first is scaled down more. -/
def adapt (delta count : Nat) (isFirst : Bool) : Nat :=
  let delta := if isFirst then delta / 700 else delta / 2
  scale (delta + delta / count) 0

/-- Reads a number and adds it to `sum`; gives what follows it as well. -/
def number? (bias : Nat) : (place weight sum : Nat) → List Char → Option (Nat × List Char)
  | _, _, _, [] => none
  | place, weight, sum, c :: rest => do
      let d ← digit? c
      if (limit - sum) / weight < d then none
      else
        let sum := sum + d * weight
        let t := threshold bias place
        if d < t then some (sum, rest)
        else if limit / (36 - t) < weight then none
        else number? bias (place + 36) (weight * (36 - t)) sum rest

theorem length_number? {bias place weight sum : Nat} {s : List Char} {r : Nat × List Char}
    (h : number? bias place weight sum s = some r) : r.2.length < s.length := by
  induction s generalizing place weight sum with
  | nil => simp [number?] at h
  | cons c rest ih =>
    rw [number?] at h
    obtain ⟨d, _, h⟩ := Option.bind_eq_some_iff.1 h
    dsimp only at h
    split at h
    · contradiction
    split at h
    · obtain rfl := Option.some.inj h
      simp
    split at h
    · contradiction
    have := ih h
    simp only [List.length_cons]
    omega

def isCharacter (n : Nat) : Bool :=
  n < 0xd800 || (0xdfff < n && n < 0x110000)

/--
Inserts the characters that the digits tell of into `done`, where `point` is the number of the last
character inserted, and `place` the place behind it.
-/
def insertions? (bias point place : Nat) (done : List Char) : List Char → Option (List Char)
  | [] => some done
  | c :: rest =>
      match _taken : number? bias 36 1 place (c :: rest) with
      | none => none
      | some (sum, after) =>
          let count := done.length + 1
          let point := point + sum / count
          if isCharacter point then
            insertions? (adapt (sum - place) count (place == 0)) point (sum % count + 1)
              (done.insertIdx (sum % count) (Char.ofNat point)) after
          else none
termination_by s => s.length
decreasing_by simpa using length_number? _taken

/-- The text before the last hyphen, and the text after it; all is after it where there is none in front. -/
def divide (s : List Char) : List Char × List Char :=
  let digits := (s.reverse.takeWhile (· ≠ '-')).reverse
  match s.take (s.length - digits.length) with
  | [] => ([], s)
  | ['-'] => ([], s)
  | front => (front.dropLast, digits)

/-- The label that a text of ASCII encodes, with its characters of ASCII in lower case. -/
def decode? (s : List Char) : Option (List Char) :=
  let (plain, digits) := divide s
  insertions? 72 128 0 (plain.map Char.toLower) digits

end GasFaucet.Url.Punycode
