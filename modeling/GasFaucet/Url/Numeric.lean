import GasFaucet.Bytes
import GasFaucet.Url.Label

/-!
# Numeric addresses

An address of four bytes is written as up to four numbers between full stops, of which the last fills
all bytes that are left; one of sixteen bytes as eight pieces of hex digits between colons.
-/

namespace GasFaucet.Url

def number? (base : Nat) (s : List Char) : Option Nat :=
  s.foldlM (fun n c => if c.isDigit && c.toNat < 48 + base then some (base * n + (c.toNat - 48)) else none) 0

namespace FourBytes

/-- The number in one part of an address: hex digits after `0x`, octal ones after a zero, or decimal ones. -/
def part? : List Char → Option Nat
  | [] => none
  | '0' :: 'x' :: digits => Bytes.hexNumber? digits
  | '0' :: 'X' :: digits => Bytes.hexNumber? digits
  | '0' :: digits => number? 8 digits
  | digits => number? 10 digits

def parts (labels : List Label) : List Label :=
  if labels.getLast? = some [] then labels.dropLast else labels

def isMeant (labels : List Label) : Bool :=
  match (parts labels).getLast? with
  | none => false
  | some [] => false
  | some last => last.all Char.isDigit || (part? last).isSome

/-- Whether the numbers fill four bytes: the last all that the others leave, one byte each. -/
def fits (numbers : List Nat) : Bool :=
  match numbers.reverse with
  | [] => false
  | last :: others =>
      numbers.length ≤ 4 && others.all (· < 256) && last < Nat.pow 256 (5 - numbers.length)

def isAddress (labels : List Label) : Bool :=
  ((parts labels).mapM part?).any fits

end FourBytes

namespace SixteenBytes

/-- Whether text is a decimal number below 256 without zeros in front. -/
def isByte (s : List Char) : Bool :=
  (s = ['0'] || s.head?.any (· ≠ '0')) && (number? 10 s).any (· < 256)

def isTail (s : List Char) : Bool :=
  let bytes := s.splitOn '.'
  bytes.length = 4 && bytes.all isByte

def piece (s : List Char) : List Char :=
  (s.take 4).takeWhile fun c => (Bytes.hexValue? c).isSome

/--
Whether the text completes an address of which `count` pieces were read.  Once in an address two colons
stand for the pieces that are missing, and `isShort` says that they did.  The last two pieces may be
written as four bytes.
-/
def completes (count : Nat) (isShort : Bool) : List Char → Bool
  | [] => isShort || count = 8
  | ':' :: rest => count < 8 && !isShort && completes (count + 1) true rest
  | c :: after =>
      count < 8 &&
        match _cut : (c :: after).drop (piece (c :: after)).length with
        | [] => isShort || count = 7
        | ':' :: rest => !rest.isEmpty && completes (count + 1) isShort rest
        | '.' :: _ => count ≤ 6 && (isShort || count = 6) && isTail (c :: after)
        | _ => false
termination_by s => s.length
decreasing_by
  · simp
  · have := congrArg List.length _cut
    simp only [List.length_drop, List.length_cons] at this ⊢
    omega

def isAddress : List Char → Bool
  | ':' :: ':' :: rest => completes 1 true rest
  | ':' :: _ => false
  | s => completes 0 false s

end SixteenBytes

end GasFaucet.Url
