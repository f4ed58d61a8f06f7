import GasFaucet.Proofs.Receipts
import Mathlib.Algebra.BigOperators.Group.Finset.Basic
import Mathlib.Algebra.Order.Floor.Div
import Mathlib.Data.List.Permutation

/-!
# Stopping

When a watch stops looking its receipt up.  The lookup with which it stops is the first that says anything
but that there is no receipt, or that ends when the limit is reached; it stops when that lookup ends, for
good, and looks nothing up after it.  What the lookup says is tested before the limit, so a receipt that
comes late still counts.
-/

namespace GasFaucet

/-- When a number of lookups has ended, after the sleeps before them. -/
theorem pollEnd_eq (interval : Nat) (latency : Nat → Nat) (n : Nat) :
    pollEnd interval latency n = n * interval + ∑ k ∈ Finset.range n, latency k := by
  induction n with
  | zero => simp [pollEnd]
  | succ n ih =>
    rw [pollEnd, ih, Finset.sum_range_succ, Nat.succ_mul]
    omega

namespace Lookup

/-- Whether a watch stops with a lookup that ends so many milliseconds after the watch began. -/
def Stops (l : Lookup) (limit : Option Nat) (elapsed : Nat) : Prop :=
  (∀ transaction, l.result ≠ .error (.receiptNotFound transaction)) ∨
    ∃ reached ∈ limit, reached ≤ elapsed

inductive Concludes (l : Lookup) (limit : Option Nat) : Conclusion → Prop
  | succeeded : l.result = .ok true → Concludes l limit .confirmed
  | failed : l.result = .ok false → Concludes l limit .reverted
  | refused {f} : l.result = .error f → (∀ transaction, f ≠ .receiptNotFound transaction) →
      Concludes l limit (.givenUp f.message)
  | timeUp {transaction reached} : l.result = .error (.receiptNotFound transaction) →
      reached ∈ limit → Concludes l limit (.timeUp reached)

variable {l : Lookup} {limit : Option Nat} {elapsed : Nat}

theorem judge_eq_none (goesOn : ¬l.Stops limit elapsed) :
    Watch.judge limit 0 elapsed l.result = none := by
  obtain ⟨silent, early⟩ := not_or.mp goesOn
  obtain ⟨transaction, pending⟩ := not_forall_not.mp silent
  rw [pending, Watch.judge_notFound]
  cases limit with
  | none => rfl
  | some reached =>
    have := fun le => early ⟨reached, rfl, le⟩
    exact if_neg this

theorem judge_eq_some (stops : l.Stops limit elapsed) :
    ∃ c, l.Concludes limit c ∧ Watch.judge limit 0 elapsed l.result = some c := by
  cases said : l.result with
  | ok mined =>
    cases mined with
    | true => exact ⟨_, .succeeded said, rfl⟩
    | false => exact ⟨_, .failed said, rfl⟩
  | error f =>
    by_cases pending : ∃ transaction, f = .receiptNotFound transaction
    · obtain ⟨transaction, rfl⟩ := pending
      obtain ⟨reached, limited, le⟩ := stops.resolve_left fun silent => silent transaction said
      obtain rfl : limit = some reached := limited
      refine ⟨_, .timeUp said rfl, ?_⟩
      rw [Watch.judge_notFound]
      exact if_pos le
    · have other := not_exists.mp pending
      refine ⟨_, .refused said other, ?_⟩
      cases f <;> first | rfl | exact absurd rfl (other _)

end Lookup

namespace Faucet

section Stopping

variable (start : Faucet) (p : Policy) (s : Nat → Event) (number i : Nat) (w : Watch)
variable (lookups : Nat → Lookup)

/-- How long a watch takes for its first `n` lookups. -/
def lookupTime (n : Nat) : Nat :=
  n * p.terms.pollInterval + ∑ k ∈ Finset.range n, (lookups k).latency

/-- Whether a watch stops with a lookup, if it gets so far. -/
def StopsWith (n : Nat) : Prop :=
  (lookups n).Stops p.terms.confirmationTimeout (lookupTime p lookups (n + 1))

/-- A lookup with which a watch stops, while it goes on after all earlier ones. -/
def FirstStop (n : Nat) : Prop :=
  StopsWith p lookups n ∧ ∀ k < n, ¬StopsWith p lookups k

/--
A watch that began at moment `i` goes on until so many milliseconds have passed, and has then stopped for
good, with so many lookups in all.
-/
def StopsAfter (count elapsed : Nat) (c : Conclusion) : Prop :=
  ∃ j, i < j ∧ (start.along p s j).desk.now = (start.along p s i).desk.now + elapsed ∧
    (∀ k, k < j → start.GoesOn p s number w i k) ∧
    ∀ k, j ≤ k →
      (start.along p s k).desk.watches[number]? = some { w with progress := .concluded c } ∧
      (asks (start.along p s k).desk.journal (.watch number)).length =
        (asks (start.along p s i).desk.journal (.watch number)).length + count

/-- When and how a watch stops that began at moment `i`, by what comes of its lookups. -/
structure PollsExactly : Prop where
  stops : ∀ n, FirstStop p lookups n → ∃ c, (lookups n).Concludes p.terms.confirmationTimeout c ∧
    start.StopsAfter p s number i w (n + 1) (lookupTime p lookups (n + 1)) c
  endless : (∀ n, ¬StopsWith p lookups n) → ∀ j, start.GoesOn p s number w i j
  patient : ∀ limit ∈ p.terms.confirmationTimeout, ∀ j, i ≤ j →
    (start.along p s j).desk.now < (start.along p s i).desk.now + limit →
    start.GoesOn p s number w i j ∨ ∃ n, FirstStop p lookups n ∧
      ∀ transaction, (lookups n).result ≠ .error (.receiptNotFound transaction)
  bounded : ∀ limit ∈ p.terms.confirmationTimeout, 0 < p.terms.pollInterval →
    ∃ n, FirstStop p lookups n ∧ n + 1 ≤ max 1 (limit ⌈/⌉ p.terms.pollInterval)

end Stopping

section Lookups

variable {start : Faucet} {p : Policy} {s : Nat → Event} {number i j m n : Nat} {w : Watch}
variable {lookups : Nat → Lookup}

theorem GoesOn.mono (goesOn : start.GoesOn p s number w i j) (upTo : m ≤ j) :
    start.GoesOn p s number w i m :=
  fun k later earlier => goesOn k later (Nat.le_trans earlier upTo)

/-- A watch that has something to report stays as it is and asks nothing more. -/
theorem remains_of_reported (found : (start.along p s j).desk.watches[number]? = some w)
    (reported : w.report? ≠ none) (upTo : j ≤ m) : start.Remains p s number w j m := by
  rcases remains_or_tends found upTo with remains | ⟨_, _, -, -, -, t, -⟩
  · exact remains
  · exact absurd t.unreported reported

theorem lookupTime_eq (p : Policy) (lookups : Nat → Lookup) (n : Nat) :
    pollEnd p.terms.pollInterval (fun k => (lookups k).latency) n = lookupTime p lookups n :=
  pollEnd_eq _ _ n

theorem exists_firstStop (stops : StopsWith p lookups n) : ∃ k ≤ n, FirstStop p lookups k := by
  classical
  have some : ∃ k, StopsWith p lookups k := ⟨n, stops⟩
  exact ⟨Nat.find some, Nat.find_min' some stops, Nat.find_spec some, fun _ => Nat.find_min some⟩

section Polled

variable (polled : start.Polled p s number i w.transaction.hash lookups)
variable (found : (start.along p s i).desk.watches[number]? = some w)
variable (planned : w.progress = .planned) (begins : s i = .wakeWatch number)
include polled found planned begins

theorem Polled.waiting_of_goesOn (goesOn : ∀ k < n, ¬StopsWith p lookups k) :
    ∃ m, start.Waiting p s number i w (fun k => (lookups k).latency) n m := by
  refine polled.waiting found planned begins fun k earlier => ?_
  rw [lookupTime_eq]
  exact Lookup.judge_eq_none (goesOn k earlier)

theorem Polled.stopsAfter (first : FirstStop p lookups n) :
    ∃ c, (lookups n).Concludes p.terms.confirmationTimeout c ∧
      start.StopsAfter p s number i w (n + 1) (lookupTime p lookups (n + 1)) c := by
  obtain ⟨m, waiting⟩ := polled.waiting_of_goesOn found planned begins first.2
  obtain ⟨j, answered⟩ := polled.answered waiting
  obtain ⟨led, now, asked⟩ := answered.after
  obtain ⟨c, concludes, judged⟩ := Lookup.judge_eq_some first.1
  rw [lookupTime_eq, judged] at led
  refine ⟨c, concludes, j + 1, by have := answered.later; omega, ?_, ?_, ?_⟩
  · rw [now, answered.now, lookupTime_eq]
  · intro k earlier
    exact answered.live.mono (by omega)
  · intro k later
    have reported : Watch.report? { w with progress := .concluded c } ≠ none := Option.some_ne_none c
    obtain ⟨there, silent⟩ := remains_of_reported led reported later k later (Nat.le_refl k)
    exact ⟨there, (congrArg List.length silent).trans asked⟩

theorem Polled.goesOn (never : ∀ n, ¬StopsWith p lookups n) (j : Nat) :
    start.GoesOn p s number w i j := by
  obtain ⟨m, waiting⟩ := polled.waiting_of_goesOn (n := j) found planned begins fun k _ => never k
  have later := waiting.later
  exact waiting.live.mono (by omega)

/--
A watch stops with the first lookup that says anything but that there is no receipt, or that ends when the
limit is reached: at that time, for good, and with what that lookup says.
-/
theorem polls_exactly : start.PollsExactly p s number i w lookups := by
  constructor
  case stops => exact fun n first => polled.stopsAfter found planned begins first
  case endless => exact polled.goesOn found planned begins
  case patient =>
    intro limit limited j later early
    by_cases ever : ∃ n, StopsWith p lookups n
    · obtain ⟨n, stops⟩ := ever
      obtain ⟨n, -, first⟩ := exists_firstStop stops
      obtain ⟨c, -, last, -, ends, before, -⟩ := polled.stopsAfter found planned begins first
      rcases Nat.lt_or_ge j last with inside | beyond
      · exact .inl (before j inside)
      · -- The watch has stopped already, so the limit was not what stopped it.
        right
        have passed : (start.along p s last).desk.now ≤ (start.along p s j).desk.now :=
          now_le_along beyond
        refine ⟨n, first, first.1.resolve_right ?_⟩
        rintro ⟨reached, limited', le⟩
        cases Option.some.inj (limited.symm.trans limited')
        omega
    · exact .inl (polled.goesOn found planned begins (not_exists.mp ever) j)
  case bounded =>
    intro limit limited positive
    -- The interval alone takes the watch to its limit with that many lookups.
    obtain ⟨n, enough⟩ : ∃ n, n + 1 = max 1 (limit ⌈/⌉ p.terms.pollInterval) :=
      ⟨max 1 (limit ⌈/⌉ p.terms.pollInterval) - 1, by omega⟩
    have reached : limit ≤ (n + 1) * p.terms.pollInterval := by
      have := le_smul_ceilDiv (a := p.terms.pollInterval) (b := limit) positive
      rw [enough, Nat.mul_comm]
      exact this.trans (Nat.mul_le_mul_left _ (Nat.le_max_right _ _))
    have stops : StopsWith p lookups n :=
      .inr ⟨limit, limited, reached.trans (Nat.le_add_right _ _)⟩
    obtain ⟨k, upTo, first⟩ := exists_firstStop stops
    exact ⟨k, first, by omega⟩

end Polled

end Lookups

namespace LateReceipt

/-- Receipts are looked up after a tenth of a second, for a quarter of a second. -/
def policy : Policy :=
  ⟨31337, ⟨none, 1⟩, ⟨100, 100, none, some 250, 7, transferGas⟩⟩

/-- The first lookup comes too early, the second ends beyond the limit with a receipt. -/
def lookups : Nat → Lookup
  | 0 => ⟨50, .error (.receiptNotFound "early")⟩
  | _ + 1 => ⟨200, .ok true⟩

def schedule : Nat → Event
  | 0 | 2 | 6 => .wakeWatch 0
  | 1 | 5 => .pass 100
  | 3 => .pass 50
  | 4 => .answerWatch 0 (.mined (.failure (.receiptNotFound "early")))
  | 7 => .pass 200
  | 8 => .answerWatch 0 (.mined (.value true))
  | _ => .pass 0

variable (signer : Signer)

def state : Nat → Faucet :=
  (Unanswered.faucet signer).along policy schedule

theorem state_add_nine (k : Nat) : state signer (k + 9) = state signer 9 := by
  induction k with
  | zero => rfl
  | succ k ih => exact ih

theorem found (k : Nat) : (state signer k).desk.watches[0]? = some { Unanswered.watch signer with
    progress := match k with
      | 0 => .planned
      | 1 | 2 => .sleeping 0 100
      | 3 | 4 | 7 | 8 => .asking 0
      | 5 | 6 => .sleeping 0 250
      | _ => .concluded .confirmed } := by
  match k with
  | 0 | 1 | 2 | 3 | 4 | 5 | 6 | 7 | 8 => cbv
  | k + 9 =>
    rw [state_add_nine]
    cbv

theorem asked (k : Nat) : asks (state signer k).desk.journal (.watch 0) =
    match k with
    | 0 | 1 | 2 => []
    | 3 | 4 | 5 | 6 => [.receipt ⟨1⟩]
    | _ => [.receipt ⟨1⟩, .receipt ⟨1⟩] := by
  match k with
  | 0 | 1 | 2 | 3 | 4 | 5 | 6 => cbv
  | 7 | 8 => cbv
  | k + 9 =>
    rw [state_add_nine]
    cbv

theorem now (k : Nat) : (state signer k).desk.now =
    match k with
    | 0 | 1 => 0
    | 2 | 3 => 100
    | 4 | 5 => 150
    | 6 | 7 => 250
    | _ => 450 := by
  match k with
  | 0 | 1 | 2 | 3 | 4 | 5 | 6 | 7 | 8 => cbv
  | k + 9 =>
    rw [state_add_nine]
    cbv

theorem lookupsSince_eq (k : Nat) :
    (Unanswered.faucet signer).lookupsSince policy schedule 0 0 k =
      (asks (state signer k).desk.journal (.watch 0)).length := by
  have none := congrArg List.length (asked signer 0)
  unfold lookupsSince
  exact (congrArg (_ - ·) none).trans (Nat.sub_zero _)

theorem polled : (Unanswered.faucet signer).Polled policy schedule 0 0 ⟨1⟩ lookups where
  sleeps {m wakeAt} _ sleeping := by
    change (state signer m).wakeAt? (.watch 0) = some wakeAt at sleeping
    change ∃ j, m ≤ j ∧ schedule j = _ ∧ (state signer j).desk.now = wakeAt
    unfold wakeAt? at sleeping
    simp only [found] at sleeping
    match m with
    | 0 | 3 | 4 | 7 | 8 | k + 9 => cases sleeping
    | 1 | 2 =>
      cases sleeping
      exact ⟨2, by decide, rfl, now signer 2⟩
    | 5 | 6 =>
      cases sleeping
      exact ⟨6, by decide, rfl, now signer 6⟩
  answers {m} _ grows := by
    change asks (state signer (m + 1)).desk.journal (.watch 0) =
      asks (state signer m).desk.journal (.watch 0) ++ [_] at grows
    rw [asked, asked] at grows
    rw [lookupsSince_eq, asked]
    change ∃ j, m < j ∧ schedule j = _ ∧ (state signer j).desk.now = (state signer (m + 1)).desk.now + _ ∧ _
    match m with
    | 0 | 1 | 3 | 4 | 5 | 7 | 8 | k + 9 => simp at grows
    | 2 =>
      refine ⟨4, by decide, rfl, ?_, ?_⟩
      · rw [now, now]
        rfl
      · intro k later earlier a
        obtain rfl : k = 3 := by omega
        exact Event.noConfusion
    | 6 =>
      refine ⟨8, by decide, rfl, ?_, ?_⟩
      · rw [now, now]
        rfl
      · intro k later earlier a
        obtain rfl : k = 7 := by omega
        exact Event.noConfusion

end LateReceipt

/-- A receipt that comes after the limit ends the watch as it says, if no earlier lookup reached the limit. -/
theorem polls_exactly_late_receipt :
    let signer : Signer := ⟨.ofKey ⟨1, by decide, by decide⟩, 31337⟩
    let start := Unanswered.faucet signer
    let watch := Unanswered.watch signer
    start.Polled LateReceipt.policy LateReceipt.schedule 0 0 watch.transaction.hash LateReceipt.lookups ∧
      (start.along LateReceipt.policy LateReceipt.schedule 0).desk.watches[0]? = some watch ∧
      watch.progress = .planned ∧ LateReceipt.schedule 0 = .wakeWatch 0 ∧
      start.StopsAfter LateReceipt.policy LateReceipt.schedule 0 0 watch 2 450 .confirmed := by
  intro signer
  clear_value signer
  intro start watch
  have polled := LateReceipt.polled signer
  have found : (start.along LateReceipt.policy LateReceipt.schedule 0).desk.watches[0]? = some watch := rfl
  refine ⟨polled, found, rfl, rfl, ?_⟩
  have exactly := polls_exactly polled found rfl rfl
  have first : FirstStop LateReceipt.policy LateReceipt.lookups 1 := by
    refine ⟨.inl fun _ => nofun, ?_⟩
    intro k earlier
    obtain rfl : k = 0 := by omega
    rintro (silent | ⟨reached, limited, le⟩)
    · exact silent _ rfl
    · obtain rfl : 250 = reached := Option.some.inj limited
      exact absurd le (by decide)
  obtain ⟨c, concludes, stops⟩ := exactly.stops 1 first
  cases concludes with
  | succeeded _ => exact stops
  | failed said | refused said _ | timeUp said _ => cases said

end Faucet

end GasFaucet
