import GasFaucet.Bytes
import GasFaucet.Text.UnprintedTable

/-!
# Characters

The white space of Unicode, and text without it at its ends.

In quoted text the backslash, the mark itself and the common controls are written as a backslash and
one character, and what has no glyph of its own as `\u` and its number in braces.
-/

namespace GasFaucet.Text

def inRanges (ranges : List (Nat × Nat)) (c : Char) : Bool :=
  ranges.any fun r => r.1 ≤ c.toNat && c.toNat ≤ r.2

def blankRanges : List (Nat × Nat) :=
  [(0x9, 0xd), (0x20, 0x20), (0x85, 0x85), (0xa0, 0xa0), (0x1680, 0x1680), (0x2000, 0x200a),
   (0x2028, 0x2029), (0x202f, 0x202f), (0x205f, 0x205f), (0x3000, 0x3000)]

def isBlank (c : Char) : Bool :=
  inRanges blankRanges c

def trimEnd (s : List Char) : List Char :=
  (s.reverse.dropWhile isBlank).reverse

def trim (s : List Char) : List Char :=
  trimEnd (s.dropWhile isBlank)

/-- Whether `core` is what stands between the white space at the ends of `s`. -/
def Trimmed (s core : List Char) : Prop :=
  ∃ lead trail, s = lead ++ core ++ trail ∧ (∀ c ∈ lead, isBlank c) ∧ (∀ c ∈ trail, isBlank c) ∧
    (∀ c ∈ core.head?, isBlank c = false) ∧ ∀ c ∈ core.getLast?, isBlank c = false

theorem head?_dropWhile_isBlank {s : List Char} {c : Char}
    (first : c ∈ (s.dropWhile isBlank).head?) : isBlank c = false := by
  have facts := List.head?_dropWhile_not isBlank s
  rw [Option.mem_def.mp first] at facts
  simpa using facts

theorem dropWhile_isBlank {blanks rest : List Char} (blank : ∀ c ∈ blanks, isBlank c)
    (filled : ∀ c ∈ rest.head?, isBlank c = false) : (blanks ++ rest).dropWhile isBlank = rest := by
  rw [List.dropWhile_append_of_pos blank]
  cases rest with
  | nil => rfl
  | cons c rest => simp [filled c rfl]

theorem trimmed_trim (s : List Char) : Trimmed s (trim s) := by
  obtain ⟨trail, blank, halves⟩ :
      ∃ trail, (∀ c ∈ trail, isBlank c) ∧ s.dropWhile isBlank = trim s ++ trail := by
    refine ⟨((s.dropWhile isBlank).reverse.takeWhile isBlank).reverse, ?_, ?_⟩
    · intro c member
      exact List.all_eq_true.mp List.all_takeWhile c (List.mem_reverse.mp member)
    · rw [trim, trimEnd, ← List.reverse_append, List.takeWhile_append_dropWhile, List.reverse_reverse]
  refine ⟨s.takeWhile isBlank, trail, ?_, List.all_eq_true.mp List.all_takeWhile, blank, ?_, ?_⟩
  · rw [List.append_assoc, ← halves, List.takeWhile_append_dropWhile]
  · intro c first
    apply head?_dropWhile_isBlank (s := s)
    rw [halves, List.head?_append, Option.mem_def.mp first]
    rfl
  · intro c last
    rw [trim, trimEnd, List.getLast?_reverse] at last
    exact head?_dropWhile_isBlank last

theorem trim_eq_iff {s core : List Char} : trim s = core ↔ Trimmed s core := by
  constructor
  · rintro rfl
    exact trimmed_trim s
  · rintro ⟨lead, trail, rfl, front, back, first, last⟩
    rw [trim, trimEnd]
    cases core with
    | nil =>
      have blank : ∀ c ∈ lead ++ [] ++ trail, isBlank c := by
        intro c member
        rw [List.append_nil] at member
        exact (List.mem_append.mp member).elim (front c) (back c)
      rw [← List.append_nil (lead ++ [] ++ trail), dropWhile_isBlank blank (by simp)]
      rfl
    | cons c rest =>
      rw [List.append_assoc, dropWhile_isBlank front (by simpa using first), List.reverse_append,
        dropWhile_isBlank (by simpa using back) (by rwa [List.head?_reverse]), List.reverse_reverse]

/-- A `\u` and the character's number in hex digits between braces. -/
def numbered (c : Char) : List Char :=
  ['\\', 'u', '\x7b'] ++ Nat.toDigits 16 c.toNat ++ ['\x7d']

def escapeChar (mark c : Char) : List Char :=
  if c = mark ∨ c = '\\' then ['\\', c]
  else if c = '\x00' then ['\\', '0']
  else if c = '\t' then ['\\', 't']
  else if c = '\r' then ['\\', 'r']
  else if c = '\n' then ['\\', 'n']
  else if inRanges unprintedRanges c then numbered c
  else [c]

def quote (s : String) : String :=
  String.ofList ('"' :: s.toList.flatMap (escapeChar '"') ++ ['"'])

/-- The text between two double quotes, with a backslash before single quotes as well. -/
def quotePath (s : String) : String :=
  String.ofList
    ('"' :: s.toList.flatMap (fun c => if c = '\'' then ['\\', c] else escapeChar '"' c) ++ ['"'])

def quoteChar (c : Char) : String :=
  String.ofList ('\'' :: escapeChar '\'' c ++ ['\''])

end GasFaucet.Text
