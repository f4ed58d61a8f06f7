import GasFaucet.Text.Characters
import GasFaucet.Text.CaseTable

/-!
# Lower case

Every character goes to its lower-case letter.  Two characters need more: the dotted capital I
becomes two characters, and a capital sigma at the end of a word becomes the final sigma.
-/

namespace GasFaucet.Text

def isCased (c : Char) : Bool :=
  inRanges casedRanges c

/-- Whether a character is passed over when a neighbouring letter is looked for. -/
def isCaseIgnorable (c : Char) : Bool :=
  inRanges caseIgnorableRanges c

def nextIsCased (s : List Char) : Bool :=
  match s.dropWhile isCaseIgnorable with
  | [] => false
  | c :: _ => isCased c

def lowerChar (c : Char) : List Char :=
  if c.toNat = 0x130 then ['i', Char.ofNat 0x307]
  else
    let n := c.toNat
    match caseShifts.find? fun r => r.first ≤ n && n ≤ r.last && (n - r.first) % r.step == 0 with
    | some r => [Char.ofNat (Int.toNat (n + r.shift))]
    | none => [c]

/-- The lower case of `s`, where `before` holds the characters in front of it, nearest first. -/
def lowerAfter : (before s : List Char) → List Char
  | _, [] => []
  | before, c :: rest =>
      let lowered :=
        if c.toNat = 0x3a3 then
          [Char.ofNat (if nextIsCased before && !nextIsCased rest then 0x3c2 else 0x3c3)]
        else lowerChar c
      lowered ++ lowerAfter (c :: before) rest

def lower (s : List Char) : List Char :=
  lowerAfter [] s

theorem lowerChar_of_ascii {c : Char} (ascii : c.toNat < 128) : lowerChar c = [c.toLower] := by
  have table : ∀ n < 128, lowerChar (Char.ofNat n) = [(Char.ofNat n).toLower] := by decide +kernel
  simpa using table c.toNat ascii

theorem lowerAfter_of_ascii {s : List Char} (ascii : ∀ c ∈ s, c.toNat < 128) (before : List Char) :
    lowerAfter before s = s.map Char.toLower := by
  induction s generalizing before with
  | nil => rfl
  | cons c rest ih =>
    obtain ⟨first, others⟩ := List.forall_mem_cons.mp ascii
    have sigma : c.toNat ≠ 0x3a3 := by omega
    simp [lowerAfter, sigma, lowerChar_of_ascii first, ih others]

theorem lower_of_ascii {s : List Char} (ascii : ∀ c ∈ s, c.toNat < 128) :
    lower s = s.map Char.toLower :=
  lowerAfter_of_ascii ascii []

end GasFaucet.Text
