import GasFaucet.Word

/-!
# Nonce floors

A node may lag behind and report a nonce that was used already.  The floor of a signer remembers the
highest nonce that it has sent, so that consecutive transfers have increasing nonces.
-/

namespace GasFaucet

structure NonceFloor where
  lastSent : Option Word
  deriving DecidableEq

namespace NonceFloor

def clear : NonceFloor := ⟨none⟩

def ahead? (f : NonceFloor) (reported : Word) : Option Word :=
  f.lastSent.filter fun last => reported ≤ last

/-- The nonce to use when the node reports one: the least that it and the floor allow, if there is one. -/
def next? (f : NonceFloor) (reported : Word) : Option Word :=
  match f.ahead? reported with
  | some last => last.add? 1
  | none => some reported

def least (f : NonceFloor) (reported : Word) : Nat :=
  match f.lastSent with
  | some last => max reported.toNat (last.toNat + 1)
  | none => reported.toNat

theorem next?_eq_some_iff {f : NonceFloor} {reported nonce : Word} :
    f.next? reported = some nonce ↔ nonce.toNat = f.least reported := by
  have one : (1 : Word).toNat = 1 := rfl
  unfold next? ahead? least
  cases f.lastSent with
  | none =>
    rw [Option.filter_none]
    dsimp only
    rw [Option.some.injEq, ← BitVec.toNat_inj, eq_comm]
  | some last =>
    rw [Option.filter_some]
    dsimp only
    by_cases behind : reported ≤ last
    · have covered := BitVec.le_def.mp behind
      simp only [behind, decide_true, if_true]
      have above : max reported.toNat (last.toNat + 1) = last.toNat + 1 :=
        Nat.max_eq_right (Nat.le_succ_of_le covered)
      rw [Word.add?_eq_some_iff, one, above]
    · have beyond := fun le => behind (BitVec.le_def.mpr le)
      simp only [behind, decide_false, Bool.false_eq_true, if_false]
      have above : max reported.toNat (last.toNat + 1) = reported.toNat :=
        Nat.max_eq_left (Nat.lt_of_not_le beyond)
      rw [Option.some.injEq, ← BitVec.toNat_inj, above, eq_comm]

theorem lt_of_next?_eq_some {f : NonceFloor} {reported nonce last : Word}
    (chosen : f.next? reported = some nonce) (sent : f.lastSent = some last) : last < nonce := by
  have least := next?_eq_some_iff.mp chosen
  unfold NonceFloor.least at least
  rw [sent] at least
  rw [BitVec.lt_def]
  dsimp only at least
  omega

def record (f : NonceFloor) (nonce : Word) : NonceFloor :=
  match f.lastSent with
  | some last => if last < nonce then ⟨some nonce⟩ else f
  | none => ⟨some nonce⟩

theorem record_of_lt {f : NonceFloor} {nonce : Word}
    (rises : ∀ last, f.lastSent = some last → last < nonce) : f.record nonce = ⟨some nonce⟩ := by
  unfold record
  cases sent : f.lastSent with
  | none => rfl
  | some last => simp [rises last sent]

/-- Only the largest word leaves no nonce to use, and then it does so whatever the node reports. -/
theorem next?_eq_none_iff {f : NonceFloor} {reported : Word} :
    f.next? reported = none ↔ ∃ last, f.lastSent = some last ∧ last.toNat + 1 = Word.modulus := by
  have one : (1 : Word).toNat = 1 := rfl
  unfold next? ahead?
  cases f.lastSent with
  | none => simp
  | some last =>
    have bounded := last.toNat_lt_modulus
    rw [Option.filter_some]
    by_cases behind : reported ≤ last
    · simp only [behind, decide_true, if_true, Word.add?_eq_none_iff, one, Option.some.injEq,
        exists_eq_left']
      exact ⟨fun large => Nat.le_antisymm bounded large, fun top => Nat.le_of_eq top.symm⟩
    · have beyond := Nat.lt_of_not_le fun le => behind (BitVec.le_def.mpr le)
      have small := reported.toNat_lt_modulus
      simp only [behind, decide_false, Bool.false_eq_true, if_false, reduceCtorEq, Option.some.injEq,
        exists_eq_left', false_iff]
      omega

end NonceFloor

def overflowMessage : String :=
  "arithmetic operation overflow"

/-- A nonce floor under a lock; `broken` says that somebody broke down while holding the lock. -/
structure LockedFloor where
  floor : NonceFloor
  broken : Bool
  deriving DecidableEq

namespace LockedFloor

def fresh : LockedFloor := ⟨.clear, false⟩

/-- Takes the lock; the floor comes with a warning where somebody broke down. -/
def lock (l : LockedFloor) : Except NonceFloor NonceFloor :=
  if l.broken then .error l.floor else .ok l.floor

/-- The floor under the lock.  It is valid in spite of a warning, since nobody leaves it half changed. -/
def contents (l : LockedFloor) : NonceFloor :=
  match l.lock with
  | .ok f | .error f => f

@[simp]
theorem contents_eq (l : LockedFloor) : l.contents = l.floor := by
  unfold contents lock
  cases l.broken <;> rfl

def lastSent (l : LockedFloor) : Option Word :=
  l.contents.lastSent

/-- The nonce to use when the node reports one; where there is none, the caller breaks down under the lock. -/
def next? (l : LockedFloor) (reported : Word) : Option Word × LockedFloor :=
  match l.contents.next? reported with
  | some nonce => (some nonce, l)
  | none => (none, { l with broken := true })

def record (l : LockedFloor) (nonce : Word) : LockedFloor :=
  { l with floor := l.contents.record nonce }

def forget (l : LockedFloor) : LockedFloor :=
  { l with floor := .clear }

section Contents

variable (l : LockedFloor) (reported nonce : Word)

@[simp]
theorem lastSent_eq : l.lastSent = l.floor.lastSent := by
  simp [lastSent]

@[simp]
theorem fst_next? : (l.next? reported).1 = l.floor.next? reported := by
  unfold next?
  rw [contents_eq]
  cases l.floor.next? reported <;> rfl

@[simp]
theorem floor_next? : (l.next? reported).2.floor = l.floor := by
  unfold next?
  cases l.contents.next? reported <;> rfl

@[simp]
theorem floor_record : (l.record nonce).floor = l.floor.record nonce := by
  simp [record]

@[simp]
theorem floor_forget : l.forget.floor = .clear :=
  rfl

end Contents

end LockedFloor

end GasFaucet
