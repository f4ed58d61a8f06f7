import GasFaucet.Settings.Amount
import Mathlib.Algebra.Group.Nat.Defs
import Mathlib.Data.List.Basic

/-!
# Amounts

Which texts are amounts, and which number each of them says.  Reading a text is compared with what it
writes: decimal digits with underscores among them, between white space.  The largest word is the only
bound: a number beyond it is refused, however it is written.
-/

namespace GasFaucet

namespace Text

theorem isBlank_of_isDigit {c : Char} (digit : c.isDigit) : isBlank c = false := by
  have all : ∀ n < 58, 48 ≤ n → isBlank (Char.ofNat n) = false := by decide
  obtain ⟨low, high⟩ := Char.isDigit_iff_toNat.mp digit
  change c.toNat ≤ 57 at high
  simpa using all c.toNat (by omega) low

/-- What stands between white space is the core, if no character of it is white space. -/
theorem trimmed_of_filled {lead core trail : List Char} (front : ∀ c ∈ lead, isBlank c)
    (back : ∀ c ∈ trail, isBlank c) (filled : ∀ c ∈ core, isBlank c = false) :
    Trimmed (lead ++ core ++ trail) core := by
  refine ⟨lead, trail, rfl, front, back, ?_, ?_⟩
  · intro c first
    exact filled c (List.mem_of_mem_head? first)
  · intro c last
    exact filled c (List.mem_of_mem_getLast? last)

end Text

/--
Whether a text writes a number as an amount: without the white space at its ends and without underscores
it consists of decimal digits, and these say the number.
-/
def WritesAmount (text : String) (n : Nat) : Prop :=
  ∃ core, Text.Trimmed text.toList core ∧ (∀ c ∈ core.filter (· ≠ '_'), c.isDigit) ∧
    Nat.ofDigitChars 10 (core.filter (· ≠ '_')) 0 = n

theorem writesAmount_iff {text : String} {n : Nat} :
    WritesAmount text n ↔
      (amountDigits text).all isDecimalDigit ∧ decimalValue (amountDigits text) = n := by
  rw [List.all_eq_true]
  constructor
  · rintro ⟨core, trimmed, digits, value⟩
    obtain rfl := Text.trim_eq_iff.mpr trimmed
    exact ⟨digits, value⟩
  · rintro ⟨digits, value⟩
    exact ⟨_, Text.trimmed_trim _, digits, value⟩

theorem parseWei_eq_tooLarge_iff {text : String} :
    parseWei text = .error .tooLarge ↔ ∃ n, 2 ^ 256 ≤ n ∧ WritesAmount text n := by
  simp only [writesAmount_iff]
  unfold parseWei
  dsimp only
  rw [readDecimal?_eq]
  split
  case isTrue digits =>
    cases read : Word.ofNat? (decimalValue (amountDigits text)) with
    | none =>
      have large : 2 ^ 256 ≤ decimalValue (amountDigits text) := Word.ofNat?_eq_none_iff.mp read
      simpa [digits] using large
    | some w =>
      have value := Word.ofNat?_eq_some_iff.mp read
      have small := w.isLt
      simp [digits, ← value, small]
  case isFalse foreign => simp [foreign]

theorem parseWei_eq_notADigit_iff {text : String} :
    parseWei text = .error .notADigit ↔ ∀ n, ¬WritesAmount text n := by
  simp only [writesAmount_iff]
  unfold parseWei
  dsimp only
  split
  case isTrue digits => cases readDecimal? (amountDigits text) <;> simp [digits]
  case isFalse foreign => simp [foreign]

theorem writesAmount_of_digits {n zeros : Nat} {lead body trail : List Char}
    (front : ∀ c ∈ lead, Text.isBlank c) (back : ∀ c ∈ trail, Text.isBlank c)
    (written : body.filter (· ≠ '_') = List.replicate zeros '0' ++ Nat.toDigits 10 n) :
    WritesAmount (String.ofList (lead ++ body ++ trail)) n := by
  have digits : ∀ c ∈ body.filter (· ≠ '_'), c.isDigit := by
    rw [written]
    intro c member
    rcases List.mem_append.mp member with zero | digit
    · rw [List.eq_of_mem_replicate zero]
      rfl
    · exact Nat.isDigit_of_mem_toDigits (by decide) (by decide) digit
  refine ⟨body, ?_, digits, ?_⟩
  · rw [String.toList_ofList]
    apply Text.trimmed_of_filled front back
    intro c member
    by_cases mark : c = '_'
    · subst mark
      rfl
    · exact Text.isBlank_of_isDigit (digits c (List.mem_filter.mpr ⟨member, by simpa using mark⟩))
  · rw [written, Nat.ofDigitChars_append, Nat.ofDigitChars_replicate_zero, Nat.mul_zero,
      Nat.ofDigitChars_ten_toDigits]

/--
A text is read as an amount exactly if it writes the number of a word, and as no other number; it is
refused as too large if it writes a number that is no word, and otherwise over a character.  So every word
is read from its decimal digits, whatever zeros, underscores and white space are added to them.
-/
theorem parseWei_exact :
    (∀ text, (∀ w, parseWei text = .ok w ↔ WritesAmount text w.toNat) ∧
      (parseWei text = .error .tooLarge ↔ ∃ n, 2 ^ 256 ≤ n ∧ WritesAmount text n) ∧
      (parseWei text = .error .notADigit ↔ ∀ n, ¬WritesAmount text n)) ∧
    ∀ (w : Word) (zeros : Nat) (lead body trail : List Char),
      (∀ c ∈ lead, Text.isBlank c) → (∀ c ∈ trail, Text.isBlank c) →
      body.filter (· ≠ '_') = List.replicate zeros '0' ++ Nat.toDigits 10 w.toNat →
      parseWei (String.ofList (lead ++ body ++ trail)) = .ok w := by
  have accepts (text : String) (w : Word) : parseWei text = .ok w ↔ WritesAmount text w.toNat := by
    rw [parseWei_eq_ok_iff, writesAmount_iff]
  constructor
  · intro text
    exact ⟨accepts text, parseWei_eq_tooLarge_iff, parseWei_eq_notADigit_iff⟩
  · intro w zeros lead body trail front back written
    apply (accepts _ w).mpr
    exact writesAmount_of_digits front back written

/-- The largest word with all that does not count around its digits. -/
theorem parseWei_exact_largest :
    let body := '_' :: '0' :: '_' :: '0' :: Nat.toDigits 10 (BitVec.allOnes 256).toNat ++ ['_']
    body.filter (· ≠ '_') = List.replicate 2 '0' ++ Nat.toDigits 10 (BitVec.allOnes 256).toNat ∧
      parseWei (String.ofList (['\u3000', '\n'] ++ body ++ [' '])) = .ok (BitVec.allOnes 256) := by
  have written : ('_' :: '0' :: '_' :: '0' :: Nat.toDigits 10 (BitVec.allOnes 256).toNat ++ ['_']).filter
      (· ≠ '_') = List.replicate 2 '0' ++ Nat.toDigits 10 (BitVec.allOnes 256).toNat := by
    decide
  have front : ∀ c ∈ ['\u3000', '\n'], Text.isBlank c := List.all_eq_true.mp rfl
  have back : ∀ c ∈ [' '], Text.isBlank c := List.all_eq_true.mp rfl
  exact ⟨written, parseWei_exact.2 _ 2 _ _ _ front back written⟩

end GasFaucet
