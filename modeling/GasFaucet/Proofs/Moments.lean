import GasFaucet.Proofs.Nonces
import GasFaucet.Proofs.Rounds
import Mathlib.Data.Nat.Init

/-!
# Moments

The states that a run goes through.  Wherever a request has got to, there is a last event that brought it
there, and since then it has not moved.  A request that keeps its lease from one moment to a later one has
the signer to itself all the time, and the signer's nonce floor does not move.
-/

namespace GasFaucet

namespace Faucet

def after (f : Faucet) (p : Policy) (events : List Event) (k : Nat) : Faucet :=
  f.run p (events.take k)

variable {f start : Faucet} {p : Policy} {events : List Event} {k n number : Nat} {r : Request}

@[simp]
theorem after_zero : f.after p events 0 = f := rfl

@[simp]
theorem after_length : f.after p events events.length = f.run p events := by
  unfold after
  rw [List.take_length]

theorem after_succ {e : Event} (here : events[k]? = some e) :
    f.after p events (k + 1) = (f.after p events k).step p e := by
  unfold after run
  rw [List.take_add_one, here, List.foldl_append]
  rfl

/-- A request that has left the gate was brought where it is by some event, and has stayed there since. -/
theorem last_stride (idle : start.requests = []) (within : n ≤ events.length) {progress : Progress}
    (found : (start.after p events n).requests[number]? = some (r, progress))
    (begun : progress ≠ .gate) :
    ∃ k < n, ∃ e before out, events[k]? = some e ∧
      (start.after p events k).requests[number]? = some (r, before) ∧
      (start.after p events k).desk.Strides p number r e before out ∧ out.2 = progress ∧
      ∀ j, k < j → j ≤ n → (start.after p events j).requests[number]? = some (r, progress) := by
  induction n with
  | zero =>
    rw [after_zero, idle] at found
    cases found
  | succ n ih =>
    obtain ⟨e, here⟩ : ∃ e, events[n]? = some e := ⟨_, List.getElem?_eq_getElem within⟩
    have changed := (start.after p events n).change_step p e
    have now := found
    rw [after_succ here] at found
    -- Either the last event brought the request here, or it has stayed since an earlier one.
    rcases changed.request found with stays | begins | ⟨before, out, known, s, arrives⟩
    · obtain ⟨k, earlier, e', before, out, there, known, s, arrives, kept⟩ := ih (by omega) stays
      refine ⟨k, by omega, e', before, out, there, known, s, arrives, ?_⟩
      intro j later upTo
      rcases Nat.lt_or_ge n j with last | inside
      · obtain rfl : j = n + 1 := by omega
        exact now
      · exact kept j later inside
    · exact absurd begins begun
    · refine ⟨n, by omega, e, before, out, here, known, s, arrives.symm, ?_⟩
      intro j later upTo
      obtain rfl : j = n + 1 := by omega
      exact now

variable {since : Nat} {tried : List Address} {lease : Lease}

/-- A request that holds a lease past the balance has last gone on with an answer, on the same lease. -/
theorem last_advance (idle : start.requests = []) (within : n ≤ events.length) {stage : Stage}
    (found : (start.after p events n).requests[number]? = some (r, .trying since tried lease stage))
    (past : stage ≠ .balance) :
    ∃ k < n, ∃ before a, events[k]? = some (.answerRequest number a) ∧
      (start.after p events k).requests[number]? = some (r, .trying since tried lease before) ∧
      before.Advances p r lease.signer ((start.after p events k).desk.pool.floor lease.index) a stage ∧
      ∀ j, k < j → j ≤ n →
        (start.after p events j).requests[number]? = some (r, .trying since tried lease stage) := by
  obtain ⟨k, earlier, e, before, out, here, known, s, arrives, kept⟩ :=
    last_stride idle within found Progress.noConfusion
  rcases s.trying arrives with first | ⟨stage', a, rfl, rfl, advances⟩
  · exact absurd first past
  · exact ⟨k, earlier, stage', a, here, known, advances, kept⟩

/-- A request holds one lease, in one round, at every moment after `taken` up to `n`. -/
def Retains (start : Faucet) (p : Policy) (events : List Event) (number : Nat) (r : Request) (since : Nat)
    (tried : List Address) (lease : Lease) (taken n : Nat) : Prop :=
  ∀ k, taken < k → k ≤ n →
    ∃ stage, (start.after p events k).requests[number]? = some (r, .trying since tried lease stage)

theorem Retains.holds {taken : Nat} (retains : start.Retains p events number r since tried lease taken n)
    (later : taken < k) (upTo : k ≤ n) : (start.after p events k).Holds (.request number) lease := by
  obtain ⟨stage, found⟩ := retains k later upTo
  exact .request found

theorem Retains.trans {taken m : Nat}
    (first : start.Retains p events number r since tried lease taken m)
    (second : start.Retains p events number r since tried lease m n) :
    start.Retains p events number r since tried lease taken n := by
  intro k later upTo
  rcases Nat.lt_or_ge m k with beyond | inside
  · exact second k beyond upTo
  · exact first k later inside

theorem floor_step_of_retains (h : f.Lends) {stage stage' : Stage} {e : Event}
    (found : f.requests[number]? = some (r, .trying since tried lease stage))
    (still : (f.step p e).requests[number]? = some (r, .trying since tried lease stage')) :
    (f.step p e).desk.pool.floor lease.index = f.desk.pool.floor lease.index := by
  apply floor_step_unmarked h
  have mine : f.leaseOf? (.request number) = some lease := holds_iff.mp (.request found)
  -- Who marks the signer holds its lease, and loses it with the mark.
  cases marked : f.mark? p lease.index e with
  | none => rfl
  | some mark =>
    cases mark with
    | sent nonce =>
      obtain ⟨other, hash, r', since', tried', lease', t, rfl, sends, place, -⟩ := mark?_eq_sent marked
      have theirs : f.leaseOf? (.request other) = some lease' := holds_iff.mp (.request sends)
      cases h.lent.exclusive theirs mine place
      obtain ⟨elsewhere, -⟩ := request_of_taken sends p hash still
      exact absurd rfl elsewhere
    | gaveUp =>
      obtain ⟨other, a, w, w', -, watched, -, place, unreported, -⟩ := mark?_eq_gaveUp marked
      have theirs : f.leaseOf? (.watch other) = some w.lease :=
        holds_iff.mp (.watch watched unreported)
      cases h.lent.exclusive theirs mine place

theorem Retains.floor {c : Nat} (retains : start.Retains p events number r since tried lease c n)
    (initial : start.Initial) {stage : Stage}
    (begins : (start.after p events c).requests[number]? = some (r, .trying since tried lease stage))
    (within : n ≤ events.length) (later : c ≤ k) (upTo : k ≤ n) :
    (start.after p events k).desk.pool.floor lease.index =
      (start.after p events c).desk.pool.floor lease.index := by
  induction k, later using Nat.le_induction with
  | base => rfl
  | succ k later ih =>
    obtain ⟨e, here⟩ : ∃ e, events[k]? = some e :=
      ⟨_, List.getElem?_eq_getElem (by omega : k < events.length)⟩
    have before : ∃ stage, (start.after p events k).requests[number]? =
        some (r, .trying since tried lease stage) := by
      rcases Nat.eq_or_lt_of_le later with rfl | beyond
      · exact ⟨stage, begins⟩
      · exact retains k beyond (by omega)
    obtain ⟨stage₁, found⟩ := before
    obtain ⟨stage₂, still⟩ := retains (k + 1) (by omega) upTo
    rw [after_succ here] at still ⊢
    have lends : (start.after p events k).Lends := initial.lends.run p (events.take k)
    exact (floor_step_of_retains lends found still).trans (ih (by omega))

theorem exists_taken (initial : start.Initial) (within : n ≤ events.length)
    (found : (start.after p events n).requests[number]? = some (r, .trying since tried lease .balance)) :
    ∃ taken < n, (start.after p events taken).desk.pool.isLeased lease.index = false ∧
      start.Retains p events number r since tried lease taken n := by
  obtain ⟨taken, earlier, e, before, out, -, known, s, arrives, kept⟩ :=
    last_stride initial.idle within found Progress.noConfusion
  have lends : (start.after p events taken).Lends := initial.lends.run p (events.take taken)
  have marked : (start.after p events taken).Marked := initial.marked.run p (events.take taken)
  obtain ⟨-, free⟩ := lends.free_of_takes marked known s arrives
  exact ⟨taken, earlier, free, fun k later upTo => ⟨_, kept k later upTo⟩⟩

theorem Retains.alone {taken : Nat}
    (retains : start.Retains p events number r since tried lease taken n) (initial : start.Initial)
    (later : taken < k) (upTo : k ≤ n) {who : Actor} {lease' : Lease}
    (held : (start.after p events k).Holds who lease') (place : lease'.index = lease.index) :
    who = .request number := by
  have lends : (start.after p events k).Lends := initial.lends.run p (events.take k)
  exact lends.lent.exclusive (holds_iff.mp held) (holds_iff.mp (retains.holds later upTo)) place

theorem signerAt?_run (events : List Event) (index : Nat) :
    (f.run p events).desk.pool.signerAt? index = f.desk.pool.signerAt? index := by
  induction events generalizing f with
  | nil => rfl
  | cons e rest ih => exact ih.trans ((f.change_step p e).signer index)

/-- Nor does anybody else hold a signer of the same address, if no two signers share theirs. -/
theorem Retains.sole {taken : Nat}
    (retains : start.Retains p events number r since tried lease taken n) (initial : start.Initial)
    (distinct : start.desk.pool.Distinct) (later : taken < k) (upTo : k ≤ n) {who : Actor}
    {lease' : Lease} (held : (start.after p events k).Holds who lease')
    (same : lease'.signer.address = lease.signer.address) : who = .request number := by
  have lends : (start.after p events k).Lends := initial.lends.run p (events.take k)
  have mine := lends.lent.known (holds_iff.mp (retains.holds later upTo))
  have theirs := lends.lent.known (holds_iff.mp held)
  unfold after at mine theirs
  rw [signerAt?_run] at mine theirs
  exact retains.alone initial later upTo held (distinct theirs mine same)

end Faucet

end GasFaucet
