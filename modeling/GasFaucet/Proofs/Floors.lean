import GasFaucet.Signer.NonceFloor
import Mathlib.Data.List.Induction
import Mathlib.Order.Bounds.Defs

/-!
# Floors

What any sequence of uses leaves of one nonce floor.  The floor holds the greatest of the nonces recorded
since it was last cleared, and the nonce to use next is the least that exceeds all of them and is not below
what the node reports.  There is none after the largest word: whoever asks for one then breaks down under
the lock, and those who come later find the floor as it was.
-/

namespace GasFaucet

namespace NonceFloor

variable {f : NonceFloor} {known : List Word} {reported nonce : Word}

/-- Whether a floor holds the greatest of the nonces, or nothing where there are none. -/
def Tops (f : NonceFloor) (known : List Word) : Prop :=
  match f.lastSent with
  | none => known = []
  | some last => IsGreatest {n | n ∈ known} last

theorem tops_clear : clear.Tops [] :=
  rfl

theorem Tops.record (h : f.Tops known) (nonce : Word) : (f.record nonce).Tops (nonce :: known) := by
  unfold Tops at h
  unfold NonceFloor.record
  cases sent : f.lastSent with
  | none =>
    rw [sent] at h
    obtain rfl : known = [] := h
    exact ⟨List.mem_cons_self, fun n member => BitVec.le_of_eq (List.mem_singleton.mp member)⟩
  | some last =>
    rw [sent] at h
    obtain ⟨there, above⟩ : IsGreatest {n | n ∈ known} last := h
    dsimp only
    split
    case isTrue higher =>
      refine ⟨List.mem_cons_self, fun n member => ?_⟩
      rcases List.mem_cons.mp member with rfl | earlier
      · exact BitVec.le_refl _
      · exact BitVec.le_trans (above earlier) (BitVec.le_of_lt higher)
    case isFalse covered =>
      unfold Tops
      rw [sent]
      refine ⟨List.mem_cons_of_mem nonce there, fun n member => ?_⟩
      rcases List.mem_cons.mp member with rfl | earlier
      · exact BitVec.not_lt.mp covered
      · exact above earlier

theorem Tops.lastSent_eq_none_iff (h : f.Tops known) : f.lastSent = none ↔ known = [] := by
  unfold Tops at h
  cases sent : f.lastSent with
  | none =>
    rw [sent] at h
    exact ⟨fun _ => h, fun _ => rfl⟩
  | some last =>
    rw [sent] at h
    obtain ⟨there, -⟩ : IsGreatest {n | n ∈ known} last := h
    constructor
    · nofun
    · rintro rfl
      exact absurd there List.not_mem_nil

theorem Tops.lastSent_eq_some_iff (h : f.Tops known) {last : Word} :
    f.lastSent = some last ↔ IsGreatest {n | n ∈ known} last := by
  unfold Tops at h
  cases sent : f.lastSent with
  | none =>
    rw [sent] at h
    obtain rfl : known = [] := h
    exact ⟨nofun, fun greatest => absurd greatest.1 List.not_mem_nil⟩
  | some top =>
    rw [sent] at h
    obtain ⟨there, above⟩ : IsGreatest {n | n ∈ known} top := h
    constructor
    · rintro ⟨⟩
      exact ⟨there, above⟩
    · rintro ⟨there', above'⟩
      rw [BitVec.le_antisymm (above' there) (above there')]

theorem Tops.least_le_iff (h : f.Tops known) :
    f.least reported ≤ nonce.toNat ↔ reported ≤ nonce ∧ ∀ n ∈ known, n < nonce := by
  unfold Tops at h
  unfold least
  cases sent : f.lastSent with
  | none =>
    rw [sent] at h
    obtain rfl : known = [] := h
    simp [BitVec.le_def]
  | some last =>
    rw [sent] at h
    obtain ⟨there, above⟩ : IsGreatest {n | n ∈ known} last := h
    dsimp only
    rw [Nat.max_le, BitVec.le_def]
    refine and_congr_right fun _ => ⟨fun beyond n member => ?_, fun all => ?_⟩
    · have := BitVec.le_def.mp (above member)
      rw [BitVec.lt_def]
      omega
    · exact BitVec.lt_def.mp (all last there)

theorem Tops.next?_eq_some_iff (h : f.Tops known) :
    f.next? reported = some nonce ↔ IsLeast {n | reported ≤ n ∧ ∀ m ∈ known, m < n} nonce := by
  rw [NonceFloor.next?_eq_some_iff]
  constructor
  · intro least
    refine ⟨h.least_le_iff.mp (Nat.le_of_eq least.symm), fun n allowed => ?_⟩
    rw [BitVec.le_def, least]
    exact h.least_le_iff.mpr allowed
  · rintro ⟨allowed, below⟩
    have covered := h.least_le_iff.mpr allowed
    have small : f.least reported < Word.modulus := Nat.lt_of_le_of_lt covered nonce.toNat_lt_modulus
    have exact := Word.toNat_ofNat_of_lt small
    have below := below (h.least_le_iff.mp (Nat.le_of_eq exact.symm))
    rw [BitVec.le_def, exact] at below
    exact Nat.le_antisymm below covered

theorem Tops.next?_eq_none_iff (h : f.Tops known) :
    f.next? reported = none ↔ IsGreatest {n | n ∈ known} (BitVec.allOnes 256) := by
  rw [NonceFloor.next?_eq_none_iff, ← h.lastSent_eq_some_iff]
  constructor
  · rintro ⟨last, sent, top⟩
    rw [sent, Option.some.injEq, ← BitVec.toNat_inj, BitVec.toNat_allOnes]
    exact Nat.eq_sub_of_add_eq top
  · intro sent
    exact ⟨_, sent, by rw [BitVec.toNat_allOnes]; rfl⟩

end NonceFloor

namespace LockedFloor

inductive Use
  | next (reported : Word)
  | record (nonce : Word)
  | forget

namespace Use

def forgets : Use → Bool
  | forget => true
  | next _ | record _ => false

def nonce? : Use → Option Word
  | record nonce => some nonce
  | next _ | forget => none

end Use

def use (l : LockedFloor) : Use → LockedFloor
  | .next reported => (l.next? reported).2
  | .record nonce => l.record nonce
  | .forget => l.forget

def useAll (l : LockedFloor) (uses : List Use) : LockedFloor :=
  uses.foldl use l

/-- The nonces recorded since the floor was last cleared, the last one first. -/
def recorded (uses : List Use) : List Word :=
  (uses.reverse.takeWhile fun u => !u.forgets).filterMap Use.nonce?

section Recorded

variable (uses : List Use)

theorem recorded_append_next (reported : Word) :
    recorded (uses ++ [.next reported]) = recorded uses := by
  unfold recorded
  rw [List.reverse_append]
  rfl

theorem recorded_append_record (nonce : Word) :
    recorded (uses ++ [.record nonce]) = nonce :: recorded uses := by
  unfold recorded
  rw [List.reverse_append]
  rfl

theorem recorded_append_forget : recorded (uses ++ [.forget]) = [] := by
  unfold recorded
  rw [List.reverse_append]
  rfl

end Recorded

theorem tops_useAll (uses : List Use) : (fresh.useAll uses).floor.Tops (recorded uses) := by
  induction uses using List.reverseRecOn with
  | nil => exact NonceFloor.tops_clear
  | append_singleton uses u ih =>
    have last : fresh.useAll (uses ++ [u]) = (fresh.useAll uses).use u := by simp [useAll]
    rw [last]
    cases u with
    | next reported =>
      rw [recorded_append_next]
      change ((fresh.useAll uses).next? reported).2.floor.Tops _
      rwa [floor_next?]
    | record nonce =>
      rw [recorded_append_record]
      change ((fresh.useAll uses).record nonce).floor.Tops _
      rw [floor_record]
      exact ih.record nonce
    | forget =>
      rw [recorded_append_forget]
      exact NonceFloor.tops_clear

/--
How a floor answers that goes by these nonces: it says which of them is the greatest, gives the least nonce
beyond them that the node's report allows, and gives none only after the largest word.  Asking changes
nothing of this, nor anything at all where there is an answer.
-/
structure GoesBy (l : LockedFloor) (known : List Word) : Prop where
  unsent : l.lastSent = none ↔ known = []
  sent : ∀ last, l.lastSent = some last ↔ IsGreatest {n | n ∈ known} last
  next : ∀ reported nonce, (l.next? reported).1 = some nonce ↔
    IsLeast {n | reported ≤ n ∧ ∀ m ∈ known, m < n} nonce
  exhausted : ∀ reported, (l.next? reported).1 = none ↔ IsGreatest {n | n ∈ known} (BitVec.allOnes 256)
  kept : ∀ reported, (l.next? reported).2.lastSent = l.lastSent
  breaks : ∀ reported, (l.next? reported).1 = none → (l.next? reported).2 = { l with broken := true }
  unchanged : ∀ reported nonce, (l.next? reported).1 = some nonce → (l.next? reported).2 = l

/-- Whatever was done with a floor, it goes by the nonces recorded since it was last cleared. -/
theorem useAll_goesBy_recorded (uses : List Use) : (fresh.useAll uses).GoesBy (recorded uses) := by
  have tops := tops_useAll uses
  generalize fresh.useAll uses = l at tops
  constructor
  case unsent =>
    rw [lastSent_eq]
    exact tops.lastSent_eq_none_iff
  case sent =>
    intro last
    rw [lastSent_eq]
    exact tops.lastSent_eq_some_iff
  case next =>
    intro reported nonce
    rw [fst_next?]
    exact tops.next?_eq_some_iff
  case exhausted =>
    intro reported
    rw [fst_next?]
    exact tops.next?_eq_none_iff
  case kept =>
    intro reported
    rw [lastSent_eq, floor_next?, lastSent_eq]
  case breaks =>
    intro reported missing
    unfold next? at missing ⊢
    cases chosen : l.contents.next? reported with
    | none => rfl
    | some nonce =>
      rw [chosen] at missing
      cases missing
  case unchanged =>
    intro reported nonce given
    unfold next? at given ⊢
    cases chosen : l.contents.next? reported with
    | some nonce => rfl
    | none =>
      rw [chosen] at given
      cases given

end LockedFloor

end GasFaucet
