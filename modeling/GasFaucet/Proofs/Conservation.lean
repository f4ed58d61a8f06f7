import GasFaucet.Ledger
import Mathlib.Algebra.BigOperators.Group.Finset.Piecewise
import Mathlib.Algebra.Order.BigOperators.Group.Finset
import Mathlib.Data.Fintype.EquivFin

/-!
# Conservation

A transfer that its sender can cover moves exactly its value on the ledger, also to the sender itself,
and no balance overflows as long as all balances together make a word.  No other answer of the ledger
touches a balance.
-/

namespace GasFaucet

instance : Fintype Address :=
  Fintype.ofEquiv (Fin (2 ^ 160))
    ⟨fun i => ⟨⟨i⟩⟩, fun a => a.bits.toFin, fun _ => rfl, fun _ => rfl⟩

namespace Ledger

def total (l : Ledger) : Nat :=
  ∑ a, (l.balances a).toNat

/-- What the transfers bring to an account. -/
def received (a : Address) : List SignedTransfer → Nat
  | [] => 0
  | t :: rest => (if t.destination = a then t.value.toNat else 0) + received a rest

def spent (a : Address) : List SignedTransfer → Nat
  | [] => 0
  | t :: rest => (if t.sender = a then t.value.toNat else 0) + spent a rest

theorem received_append (a : Address) (l k : List SignedTransfer) :
    received a (l ++ k) = received a l + received a k := by
  induction l with
  | nil => simp [received]
  | cons t rest ih => simp [received, ih, Nat.add_assoc]

theorem spent_append (a : Address) (l k : List SignedTransfer) :
    spent a (l ++ k) = spent a l + spent a k := by
  induction l with
  | nil => simp [spent]
  | cons t rest ih => simp [spent, ih, Nat.add_assoc]

section Moving

variable {balances moved : Address → Word} {t : SignedTransfer}

theorem debited_add_of_covered (covered : t.value ≤ balances t.sender) (a : Address) :
    debited balances t a + (if t.sender = a then t.value.toNat else 0) = (balances a).toNat := by
  rw [BitVec.le_def] at covered
  unfold debited
  by_cases pays : t.sender = a
  · subst pays
    rw [if_pos rfl, if_pos rfl]
    omega
  · rw [if_neg (Ne.symm pays), if_neg pays]
    rfl

/-- The value of a transfer leaves its sender and arrives at its destination, to the last wei. -/
theorem moveValue?_eq_some (done : moveValue? balances t = some moved)
    (covered : t.value ≤ balances t.sender) (a : Address) :
    (moved a).toNat + (if t.sender = a then t.value.toNat else 0) =
      (balances a).toNat + (if t.destination = a then t.value.toNat else 0) := by
  rw [toNat_moveValue? done a, ← debited_add_of_covered covered a, Nat.add_right_comm]
  simp only [eq_comm]

/-- No balance overflows where all of them together make a word. -/
theorem moveValue?_isSome (covered : t.value ≤ balances t.sender)
    (bounded : ∑ a, (balances a).toNat < Word.modulus) : (moveValue? balances t).isSome = true := by
  rw [Option.isSome_iff_ne_none]
  intro overflow
  rw [moveValue?_eq_none_iff] at overflow
  have debited := debited_add_of_covered covered t.destination
  by_cases same : t.sender = t.destination
  · have small := (balances t.destination).toNat_lt_modulus
    rw [if_pos same] at debited
    omega
  · rw [if_neg same, Nat.add_zero] at debited
    rw [BitVec.le_def] at covered
    have both : ∑ a ∈ {t.sender, t.destination}, (balances a).toNat ≤ ∑ a, (balances a).toNat :=
      Finset.sum_le_sum_of_subset (Finset.subset_univ _)
    rw [Finset.sum_pair same] at both
    omega

theorem sum_moveValue? (done : moveValue? balances t = some moved)
    (covered : t.value ≤ balances t.sender) :
    ∑ a, (moved a).toNat = ∑ a, (balances a).toNat := by
  have everywhere := Finset.sum_congr (rfl : (Finset.univ : Finset Address) = Finset.univ)
    fun a _ => moveValue?_eq_some done covered a
  rw [Finset.sum_add_distrib, Finset.sum_add_distrib, Finset.sum_ite_eq, Finset.sum_ite_eq] at everywhere
  simp only [Finset.mem_univ, if_true] at everywhere
  omega

theorem moveValue?_mono (done : moveValue? balances t = some moved)
    (covered : t.value ≤ balances t.sender) {a : Address} (elsewhere : t.sender ≠ a) :
    balances a ≤ moved a := by
  have here := moveValue?_eq_some done covered a
  rw [if_neg elsewhere] at here
  rw [BitVec.le_def]
  omega

end Moving

variable (l : Ledger)

theorem admits_answer (q : Query) : q.admits (l.answer q).2 = true := by
  unfold answer
  split <;> cases q <;> rfl

/-- A broadcast is taken, and its value moved, or it moves nothing and is answered without a hash. -/
theorem broadcast_cases (t : SignedTransfer) :
    ((l.broadcast t).1.balances = l.balances ∧ (l.broadcast t).1.broadcasts = l.broadcasts ∧
      ∀ hash, (l.broadcast t).2 ≠ .value hash) ∨
    ∃ moved, moveValue? l.balances t = some moved ∧ (l.broadcast t).1.balances = moved ∧
      (l.broadcast t).1.broadcasts = l.broadcasts ++ [t] ∧ (l.broadcast t).2 = .value t.hash := by
  unfold broadcast
  cases l.refusal? t with
  | some f => exact .inl ⟨rfl, rfl, by simp⟩
  | none =>
    cases t.nonce.add? 1 with
    | none => exact .inl ⟨rfl, rfl, by simp⟩
    | some next =>
      cases moving : moveValue? l.balances t with
      | none => exact .inl ⟨rfl, rfl, by simp⟩
      | some moved => exact .inr ⟨moved, rfl, rfl, rfl, rfl⟩

/-- What an answer does to the chain: it takes a transfer, or leaves balances and transfers alone. -/
theorem answer_cases (q : Query) :
    ((l.answer q).1.balances = l.balances ∧ (l.answer q).1.broadcasts = l.broadcasts ∧
      ∀ hash, (l.answer q).2 ≠ .digest (.value hash)) ∨
    ∃ t moved, q = .broadcast t ∧ moveValue? l.balances t = some moved ∧
      (l.answer q).1.balances = moved ∧ (l.answer q).1.broadcasts = l.broadcasts ++ [t] ∧
      (l.answer q).2 = .digest (.value t.hash) := by
  by_cases asks : ∃ t, q = .broadcast t
  · obtain ⟨t, rfl⟩ := asks
    unfold answer
    split
    · exact .inl ⟨rfl, rfl, fun _ => by simp [Query.crashed]⟩
    · obtain ⟨balances, broadcasts, refused⟩ | ⟨moved, moving, balances, broadcasts, taken⟩ :=
        l.broadcast_cases t
      · exact .inl ⟨balances, broadcasts, fun hash same => refused hash (Answer.digest.inj same)⟩
      · exact .inr ⟨t, moved, rfl, moving, balances, broadcasts, by dsimp only; rw [taken]⟩
  · have other : ∀ t, q ≠ .broadcast t := fun t same => asks ⟨t, same⟩
    obtain ⟨pending, inFlight, balanceQueries, frame⟩ := l.answer_frame other
    refine .inl ⟨by rw [frame], by rw [frame], fun hash hashed => ?_⟩
    have admitted := l.admits_answer q
    rw [hashed] at admitted
    cases q with
    | broadcast t => exact other t rfl
    | balance _ | gasPrice | nonce _ | receipt _ => cases admitted

variable {l}

theorem answer_balance {a : Address} {b : Word}
    (answered : (l.answer (.balance a)).2 = .number (.value b)) : b = l.balances a := by
  unfold answer at answered
  split at answered
  · cases answered
  · dsimp only [balanceOf] at answered
    split at answered
    · cases answered
    · cases answered
      rfl

end Ledger

end GasFaucet
