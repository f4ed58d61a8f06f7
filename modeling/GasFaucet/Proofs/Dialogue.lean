import GasFaucet.Proofs.Notices

/-!
# Dialogues

What one actor asked the node, and what it was answered, as the journal has it.
-/

namespace GasFaucet

def Entry.ask? (who : Actor) : Entry → Option Query
  | asked other q => if other = who then some q else none
  | noted _ | answered .. => none

def Entry.answer? (who : Actor) : Entry → Option (Query × Answer)
  | answered other q a => if other = who then some (q, a) else none
  | noted _ | asked .. => none

def asks (journal : List (Nat × Entry)) (who : Actor) : List Query :=
  (journal.filterMap fun line => line.2.ask? who).reverse

/-- What an actor has been answered, first answer first, each with its question. -/
def answers (journal : List (Nat × Entry)) (who : Actor) : List (Query × Answer) :=
  (journal.filterMap fun line => line.2.answer? who).reverse

section Lines

variable (t : Nat) (j : List (Nat × Entry)) (who : Actor) (q : Query) (a : Answer) (n : Notice)

@[simp]
theorem asks_asked_self : asks ((t, .asked who q) :: j) who = asks j who ++ [q] := by
  simp [asks, Entry.ask?]

@[simp]
theorem asks_answered (other : Actor) : asks ((t, .answered other q a) :: j) who = asks j who := by
  simp [asks, Entry.ask?]

@[simp]
theorem answers_asked (other : Actor) : answers ((t, .asked other q) :: j) who = answers j who := by
  simp [answers, Entry.answer?]

@[simp]
theorem answers_answered_self :
    answers ((t, .answered who q a) :: j) who = answers j who ++ [(q, a)] := by
  simp [answers, Entry.answer?]

@[simp]
theorem asks_noted : asks ((t, .noted n) :: j) who = asks j who := by
  simp [asks, Entry.ask?]

@[simp]
theorem answers_noted : answers ((t, .noted n) :: j) who = answers j who := by
  simp [answers, Entry.answer?]

variable {who} {other : Actor}

theorem asks_asked_of_ne (apart : other ≠ who) :
    asks ((t, .asked other q) :: j) who = asks j who := by
  simp [asks, Entry.ask?, apart]

theorem answers_answered_of_ne (apart : other ≠ who) :
    answers ((t, .answered other q a) :: j) who = answers j who := by
  simp [answers, Entry.answer?, apart]

end Lines

theorem asks_spoken (j : List (Nat × Entry)) (who : Actor) : asks (spoken j) who = asks j who := by
  induction j with
  | nil => rfl
  | cons line rest ih =>
    obtain ⟨t, entry⟩ := line
    cases entry with
    | noted n => simpa using ih
    | answered other q a => simpa using ih
    | asked other q =>
      by_cases same : other = who
      · subst same
        simp [ih]
      · simp [asks_asked_of_ne, same, ih]

theorem answers_spoken (j : List (Nat × Entry)) (who : Actor) :
    answers (spoken j) who = answers j who := by
  induction j with
  | nil => rfl
  | cons line rest ih =>
    obtain ⟨t, entry⟩ := line
    cases entry with
    | noted n => simpa using ih
    | asked other q => simpa using ih
    | answered other q a =>
      by_cases same : other = who
      · subst same
        simp [ih]
      · simp [answers_answered_of_ne, same, ih]

theorem asks_congr {j k : List (Nat × Entry)} (same : spoken j = spoken k) (who : Actor) :
    asks j who = asks k who := by
  rw [← asks_spoken j, ← asks_spoken k, same]

theorem answers_congr {j k : List (Nat × Entry)} (same : spoken j = spoken k) (who : Actor) :
    answers j who = answers k who := by
  rw [← answers_spoken j, ← answers_spoken k, same]

end GasFaucet
