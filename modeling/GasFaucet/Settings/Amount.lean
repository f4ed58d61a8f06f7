import GasFaucet.Text.Characters
import GasFaucet.Word

/-!
# Amounts of wei

An amount is written in decimal digits.  White space around it and underscores anywhere in it do not
count, and no digit at all means zero.
-/

namespace GasFaucet

def decimalValue (digits : List Char) : Nat :=
  digits.foldl (fun n c => 10 * n + (c.toNat - 48)) 0

def appendDigit? (n : Word) (c : Char) : Option Word :=
  match Word.mul? n 10 with
  | none => none
  | some tens => Word.add? tens (BitVec.ofNat 256 (c.toNat - 48))

def readDecimal? (digits : List Char) : Option Word :=
  digits.foldlM appendDigit? 0

theorem appendDigit?_eq (n : Word) (c : Char) :
    appendDigit? n c = Word.ofNat? (10 * n.toNat + (c.toNat - 48)) := by
  have digit : (BitVec.ofNat 256 (c.toNat - 48)).toNat = c.toNat - 48 := by
    apply Word.toNat_ofNat_of_lt
    have small : c.toNat < Nat.pow 2 32 := c.val.toNat_lt
    exact Nat.lt_of_le_of_lt (Nat.sub_le ..) (Nat.lt_trans small (by decide))
  unfold appendDigit?
  cases product : Word.mul? n 10 with
  | none =>
    have large := Word.mul?_eq_none_iff.mp product
    rw [eq_comm, Word.ofNat?_eq_none_iff]
    change Word.modulus ≤ n.toNat * 10 at large
    omega
  | some tens =>
    have value := Word.mul?_eq_some_iff.mp product
    change tens.toNat = n.toNat * 10 at value
    dsimp only
    rw [Word.add?, digit, value, Nat.mul_comm]

theorem le_foldl_digits (digits : List Char) (n : Nat) :
    n ≤ digits.foldl (fun n c => 10 * n + (c.toNat - 48)) n := by
  induction digits generalizing n with
  | nil => exact Nat.le_refl n
  | cons c rest ih =>
    have := ih (10 * n + (c.toNat - 48))
    rw [List.foldl_cons]
    omega

/-- Reading stops early only where all the digits together write no word. -/
theorem readDecimal?_eq (digits : List Char) :
    readDecimal? digits = Word.ofNat? (decimalValue digits) := by
  have from_any (n : Word) : digits.foldlM appendDigit? n =
      Word.ofNat? (digits.foldl (fun n c => 10 * n + (c.toNat - 48)) n.toNat) := by
    induction digits generalizing n with
    | nil => exact (Word.ofNat?_toNat n).symm
    | cons c rest ih =>
      rw [List.foldlM_cons, List.foldl_cons, appendDigit?_eq]
      cases next : Word.ofNat? (10 * n.toNat + (c.toNat - 48)) with
      | none =>
        have large := Word.ofNat?_eq_none_iff.mp next
        have larger := le_foldl_digits rest (10 * n.toNat + (c.toNat - 48))
        rw [eq_comm]
        exact Word.ofNat?_eq_none_iff.mpr (Nat.le_trans large larger)
      | some m =>
        have value := Word.ofNat?_eq_some_iff.mp next
        rw [← value]
        exact ih m
  exact from_any 0

def isDecimalDigit (c : Char) : Bool :=
  '0' ≤ c && c ≤ '9'

inductive AmountError
  | notADigit
  | tooLarge
  deriving DecidableEq

namespace AmountError

def message : AmountError → String
  | notADigit => "a character is not in the range 0-9"
  | tooLarge => "the number is too large for the type"

end AmountError

/-- What is left of an amount's text without the characters that do not count. -/
def amountDigits (text : String) : List Char :=
  (Text.trim text.toList).filter (· ≠ '_')

/-- Reads an amount; a character that is no digit is reported before an amount that is too large. -/
def parseWei (text : String) : Except AmountError Word :=
  let digits := amountDigits text
  if digits.all isDecimalDigit then
    match readDecimal? digits with
    | some w => .ok w
    | none => .error .tooLarge
  else .error .notADigit

theorem parseWei_eq_ok_iff {text : String} {w : Word} :
    parseWei text = .ok w ↔
      (amountDigits text).all isDecimalDigit ∧ decimalValue (amountDigits text) = w.toNat := by
  unfold parseWei
  dsimp only
  rw [readDecimal?_eq]
  split
  · rename_i h
    cases hw : Word.ofNat? (decimalValue (amountDigits text)) with
    | none =>
      have := Word.ofNat?_eq_none_iff.1 hw
      have := w.toNat_lt_modulus
      simp only [reduceCtorEq, h, true_and, false_iff]
      omega
    | some v =>
      have hv := Word.ofNat?_eq_some_iff.1 hw
      simp only [Except.ok.injEq, h, true_and]
      constructor
      · rintro rfl; exact hv.symm
      · intro e; exact BitVec.eq_of_toNat_eq (hv.trans e)
  · rename_i h
    simp only [reduceCtorEq, false_iff, not_and]
    exact fun e => absurd e h

end GasFaucet
