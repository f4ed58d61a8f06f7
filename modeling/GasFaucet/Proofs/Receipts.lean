import GasFaucet.Proofs.Deadlines
import GasFaucet.Proofs.Polling
import Mathlib.Data.Nat.Find

/-!
# Receipts

A watch that looks its receipt up over a link.  Its end is decided by the first reply other than a null
that comes in time; a limit for the watch ends it at the first null at or after the limit.  So with a limit
the signer is free again in time, whatever the node replies, if anything.
-/

namespace GasFaucet

/-- Whether a reply says in time that there is no receipt yet. -/
def Delivery.IsTimelyNull (d : Delivery) (timeout : Nat) : Prop :=
  d.within timeout = some (.result .null)

/-- What any other reply to a receipt lookup makes of the watch. -/
inductive Delivery.Settles (d : Delivery) (timeout : Nat) : Conclusion → Prop
  | succeeded {j} : d.within timeout = some (.result j) → j.isReceipt = true →
      (j.field? "status").bind (Json.quantity? 16) ≠ some 0 → Settles d timeout .confirmed
  | failed {j} : d.within timeout = some (.result j) → j.isReceipt = true →
      (j.field? "status").bind (Json.quantity? 16) = some 0 → Settles d timeout .reverted
  | undecodable {j} : d.within timeout = some (.result j) → j ≠ .null → j.isReceipt = false →
      Settles d timeout (.givenUp "Query 'receipt' failed: undecodable result")
  | refused {message} : d.within timeout = some (.refusal message) →
      Settles d timeout (.givenUp s!"Query 'receipt' failed: {message}")
  | late : d.within timeout = none → Settles d timeout (.givenUp "Timeout waiting for receipt")

section Heard

variable {d : Delivery} {timeout : Nat} (hash : Digest)

theorem heardReceipt_of_timelyNull (null : d.IsTimelyNull timeout) :
    heardReceipt hash (d.within timeout) = .error (.receiptNotFound hash.text) := by
  rw [show d.within timeout = _ from null]
  rfl

theorem exists_settles (given : ¬d.IsTimelyNull timeout) : ∃ c, d.Settles timeout c ∧
    ∀ limit since now, Watch.judge limit since now (heardReceipt hash (d.within timeout)) = some c := by
  unfold Delivery.IsTimelyNull at given
  cases come : d.within timeout with
  | none => exact ⟨_, .late come, fun _ _ _ => rfl⟩
  | some outcome =>
    cases outcome with
    | refusal message => exact ⟨_, .refused come, fun _ _ _ => rfl⟩
    | result j =>
      have filled : j ≠ .null := by
        rintro rfl
        exact given come
      unfold heardReceipt heard
      dsimp only
      rw [Json.receipt?_of_ne_null filled]
      cases readable : j.isReceipt with
      | false => exact ⟨_, .undecodable come filled readable, fun _ _ _ => rfl⟩
      | true =>
        cases succeeded : j.hasSucceeded with
        | true =>
          refine ⟨_, .succeeded come readable ?_, fun _ _ _ => rfl⟩
          intro zero
          rw [← Json.hasSucceeded_eq_false_iff, succeeded] at zero
          cases zero
        | false =>
          exact ⟨_, .failed come readable (Json.hasSucceeded_eq_false_iff.mp succeeded), fun _ _ _ => rfl⟩

end Heard

def Link.lookup (l : Link) (hash : Digest) (reply : Delivery) : Lookup where
  latency := min reply.delay l.timeout
  result := heardReceipt hash (reply.within l.timeout)

namespace Faucet

/--
From some moment on a watch's sleeps end when they should, and its lookups go over a link, where the replies
come to them one after the other.
-/
structure LooksUp (start : Faucet) (p : Policy) (l : Link) (s : Nat → Event) (number i : Nat)
    (hash : Digest) (replies : Nat → Delivery) : Prop where
  sleeps : ∀ {m wakeAt}, i ≤ m → (start.along p s m).wakeAt? (.watch number) = some wakeAt →
    ∃ j, m ≤ j ∧ s j = .wakeWatch number ∧ (start.along p s j).desk.now = wakeAt
  answers : ∀ {m}, i ≤ m →
    asks (start.along p s (m + 1)).desk.journal (.watch number) =
      asks (start.along p s m).desk.journal (.watch number) ++ [.receipt hash] →
    ∃ w j, m < j ∧ w.next = replies (start.lookupsSince p s number i m) ∧
      w.now = (start.along p s (m + 1)).desk.now ∧
      s j = .answerWatch number (l.ask w (.receipt hash)) ∧
      (start.along p s j).desk.now = (l.after w (.receipt hash)).now ∧
      ∀ k, m < k → k < j → ∀ a, s k ≠ .answerWatch number a

section Tracked

variable (start : Faucet) (p : Policy) (l : Link) (s : Nat → Event) (number i : Nat) (w : Watch)
variable (replies : Nat → Delivery)

/-- How long a watch takes for its first `n` lookups over a link. -/
def lookupsEnd (n : Nat) : Nat :=
  pollEnd p.terms.pollInterval (fun k => min (replies k).delay l.timeout) n

/-- How a watch that began at moment `i` ends, by the replies to its lookups. -/
structure Tracked : Prop where
  decided : ∀ n, (∀ k < n, (replies k).IsTimelyNull l.timeout) → ¬(replies n).IsTimelyNull l.timeout →
    (∀ limit, p.terms.confirmationTimeout = some limit → ∀ k < n, lookupsEnd p l replies (k + 1) < limit) →
    ∃ c, (replies n).Settles l.timeout c ∧
      start.Concludes p s number i w (n + 1) (lookupsEnd p l replies (n + 1)) c
  expired : ∀ n limit, p.terms.confirmationTimeout = some limit →
    (∀ k ≤ n, (replies k).IsTimelyNull l.timeout) → (∀ k < n, lookupsEnd p l replies (k + 1) < limit) →
    limit ≤ lookupsEnd p l replies (n + 1) →
    start.Concludes p s number i w (n + 1) (lookupsEnd p l replies (n + 1)) (.timeUp limit)
  freed : ∀ limit, p.terms.confirmationTimeout = some limit →
    ∃ lookups elapsed c, start.Concludes p s number i w lookups elapsed c ∧
      elapsed ≤ limit + p.terms.pollInterval + l.timeout

end Tracked

variable {start : Faucet} {p : Policy} {l : Link} {s : Nat → Event} {number i : Nat} {w : Watch}
variable {replies : Nat → Delivery}

theorem LooksUp.polled {hash : Digest} (looks : start.LooksUp p l s number i hash replies) :
    start.Polled p s number i hash fun k => l.lookup hash (replies k) where
  sleeps := looks.sleeps
  answers {m} later grows := by
    obtain ⟨wire, j, after, next, begins, event, ends, alone⟩ := looks.answers later grows
    refine ⟨j, after, ?_, ?_, alone⟩
    · rw [event, Link.ask_eq, next]
      rfl
    · rw [ends, Link.now_after, begins, next]
      rfl

/--
A watch over a link ends as the first reply says that is not a timely null, or with the first timely null at
or after its limit, and frees its signer then; a limit bounds the time that this takes, replies or not.
-/
theorem tracked_over_link (lends : start.Lends) (interval : 0 < p.terms.pollInterval)
    (found : (start.along p s i).desk.watches[number]? = some w) (planned : w.progress = .planned)
    (begins : s i = .wakeWatch number)
    (looks : start.LooksUp p l s number i w.transaction.hash replies) :
    start.Tracked p l s number i w replies := by
  have polled := looks.polled
  have pending {limit? : Option Nat} {k elapsed : Nat} (null : (replies k).IsTimelyNull l.timeout)
      (early : ∀ limit, limit? = some limit → elapsed < limit) :
      Watch.judge limit? 0 elapsed (l.lookup w.transaction.hash (replies k)).result = none := by
    unfold Link.lookup
    rw [heardReceipt_of_timelyNull _ null, Watch.judge_notFound]
    cases limit? with
    | none => rfl
    | some limit =>
      have := early limit rfl
      exact if_neg (by omega)
  have decided : ∀ n, (∀ k < n, (replies k).IsTimelyNull l.timeout) →
      ¬(replies n).IsTimelyNull l.timeout →
      (∀ limit, p.terms.confirmationTimeout = some limit →
        ∀ k < n, lookupsEnd p l replies (k + 1) < limit) →
      ∃ c, (replies n).Settles l.timeout c ∧
        start.Concludes p s number i w (n + 1) (lookupsEnd p l replies (n + 1)) c := by
    intro n nulls given early
    obtain ⟨c, settles, decides⟩ := exists_settles w.transaction.hash given
    refine ⟨c, settles, polled.concludes lends found planned begins ?_ (decides _ _ _)⟩
    intro k before
    exact pending (nulls k before) fun limit limited => early limit limited k before
  have expired : ∀ n limit, p.terms.confirmationTimeout = some limit →
      (∀ k ≤ n, (replies k).IsTimelyNull l.timeout) →
      (∀ k < n, lookupsEnd p l replies (k + 1) < limit) → limit ≤ lookupsEnd p l replies (n + 1) →
      start.Concludes p s number i w (n + 1) (lookupsEnd p l replies (n + 1)) (.timeUp limit) := by
    intro n limit limited nulls early reached
    refine polled.concludes lends found planned begins ?_ ?_
    · intro k before
      refine pending (nulls k (Nat.le_of_lt before)) fun limit' same => ?_
      cases limited.symm.trans same
      exact early k before
    · unfold Link.lookup
      rw [heardReceipt_of_timelyNull _ (nulls n (Nat.le_refl n)), Watch.judge_notFound, limited]
      exact if_pos reached
  refine ⟨decided, expired, ?_⟩
  intro limit limited
  -- The first lookup that says something, or that ends at or after the limit, ends the watch.
  have exhausted : ∃ n, ¬(replies n).IsTimelyNull l.timeout ∨ limit ≤ lookupsEnd p l replies (n + 1) := by
    refine ⟨limit, .inr ?_⟩
    have := le_pollEnd interval (fun k => min (replies k).delay l.timeout) (limit + 1)
    unfold lookupsEnd
    omega
  classical
  obtain ⟨n, ends, least⟩ : ∃ n, (¬(replies n).IsTimelyNull l.timeout ∨
      limit ≤ lookupsEnd p l replies (n + 1)) ∧ ∀ k < n, ¬(¬(replies k).IsTimelyNull l.timeout ∨
      limit ≤ lookupsEnd p l replies (k + 1)) :=
    ⟨Nat.find exhausted, Nat.find_spec exhausted, fun _ before => Nat.find_min exhausted before⟩
  have nulls : ∀ k < n, (replies k).IsTimelyNull l.timeout := by
    intro k before
    by_contra given
    exact least k before (.inl given)
  have early : ∀ k < n, lookupsEnd p l replies (k + 1) < limit := by
    intro k before
    by_contra reached
    exact least k before (.inr (by omega))
  have soon : lookupsEnd p l replies (n + 1) ≤ limit + p.terms.pollInterval + l.timeout := by
    have before : lookupsEnd p l replies n ≤ limit := by
      cases n with
      | zero => exact Nat.zero_le _
      | succ n => exact Nat.le_of_lt (early n (Nat.lt_succ_self n))
    unfold lookupsEnd at before ⊢
    rw [pollEnd]
    omega
  by_cases null : (replies n).IsTimelyNull l.timeout
  · have reached := ends.resolve_left (not_not_intro null)
    refine ⟨n + 1, _, _, expired n limit limited ?_ early reached, soon⟩
    intro k upTo
    rcases Nat.eq_or_lt_of_le upTo with rfl | before
    · exact null
    · exact nulls k before
  · obtain ⟨c, -, concludes⟩ := decided n nulls null fun limit' same => by
      cases limited.symm.trans same
      exact early
    exact ⟨n + 1, _, c, concludes, soon⟩

namespace Unanswered

/-- Receipts are looked up after a tenth of a second, for half a second. -/
def policy : Policy :=
  ⟨31337, ⟨none, 1⟩, ⟨100, 100, none, some 500, 7, transferGas⟩⟩

def link : Link :=
  ⟨⟨"anvil", 31337, 1, none, 7⟩, "http://localhost:8545", 1000, transferGas, 7⟩

def wire : Wire :=
  { Wire.fresh [⟨1001, .refusal "late"⟩] with now := 100 }

def watch (signer : Signer) : Watch where
  transaction :=
    { hash := ⟨1⟩, nonce := 0, sender := signer.address, destination := ⟨2⟩, amount := 7, submittedAt := 0 }
  lease := ⟨0, signer⟩
  progress := .planned

/-- A faucet whose only signer is held by a watch that is about to begin. -/
def faucet (signer : Signer) : Faucet where
  desk :=
    { Desk.fresh { (Pool.ofSigners [signer]).setLeased 0 true with totalLeases := 1 } with
      tally := Tally.empty.signerLeased
      watches := [watch signer] }
  requests := []
  censuses := []

def schedule : Nat → Event
  | 0 | 2 => .wakeWatch 0
  | 1 => .pass 100
  | 3 => .pass 1000
  | 4 => .answerWatch 0 (link.ask wire (.receipt ⟨1⟩))
  | _ => .pass 0

variable (signer : Signer)

theorem lends_faucet : (faucet signer).Lends := by
  have granted : (Desk.fresh (.ofSigners [signer])).lease? (fun _ => true) = some (⟨0, signer⟩, _) := rfl
  have idle : (fresh (.ofSigners [signer])).leaseOf? (.watch 0) = none := rfl
  obtain ⟨lends, -⟩ := (lends_fresh [signer]).grant idle granted
  unfold Lends leaseOf?
  change Desk.Lends _ (holdings [] ([] ++ [watch signer]))
  rw [holdings_append_watch]
  exact lends.congr rfl rfl

def state : Nat → Faucet :=
  (faucet signer).along policy schedule

theorem state_add_five (k : Nat) : state signer (k + 5) = state signer 5 := by
  induction k with
  | zero => rfl
  | succ k ih => exact ih

theorem asking_four :
    (state signer 4).desk.watches[0]? = some { watch signer with progress := .asking 0 } :=
  rfl

/-- The lookup comes to nothing, which ends the watch; nothing is asked after it. -/
theorem ended_five :
    (state signer 5).desk.watches[0]? = some { watch signer with
      progress := .concluded (.givenUp "Timeout waiting for receipt") } ∧
    asks (state signer 5).desk.journal (.watch 0) = asks (state signer 4).desk.journal (.watch 0) := by
  have late : schedule 4 = .answerWatch 0 (.mined (.failure (.timeout "receipt"))) := rfl
  have answered : state signer 5 = (state signer 4).step policy (schedule 4) := rfl
  have changed := (state signer 4).change_step policy (schedule 4)
  rw [answered]
  rw [late] at changed ⊢
  refine ⟨getElem?_answerWatch (asking_four signer) rfl policy _, ?_⟩
  rcases changed.watch (asking_four signer) with ⟨-, same⟩ | ⟨d, t, result⟩
  · exact same
  · rw [result]
    exact t.asks_answered

theorem looksUp :
    (faucet signer).LooksUp policy link schedule 0 0 ⟨1⟩ fun _ => ⟨1001, .refusal "late"⟩ where
  sleeps {m wakeAt} _ sleeping := by
    change (state signer m).wakeAt? (.watch 0) = some wakeAt at sleeping
    unfold wakeAt? at sleeping
    dsimp only at sleeping
    match m with
    | 0 | 3 => cases sleeping
    | 1 | 2 =>
      cases sleeping
      exact ⟨2, by decide, rfl, rfl⟩
    | 4 => simp [asking_four] at sleeping
    | k + 5 => simp [state_add_five, ended_five] at sleeping
  answers {m} _ grows := by
    change asks (state signer (m + 1)).desk.journal (.watch 0) =
      asks (state signer m).desk.journal (.watch 0) ++ [_] at grows
    match m with
    | 0 | 1 => cases grows
    | 2 =>
      refine ⟨wire, 4, by decide, rfl, rfl, rfl, ?_, ?_⟩
      · rw [Link.now_after]
        rfl
      · intro k later earlier a
        obtain rfl : k = 3 := by omega
        exact Event.noConfusion
    | 3 =>
      have same : asks (state signer 4).desk.journal (.watch 0) =
        asks (state signer 3).desk.journal (.watch 0) := rfl
      simp [same] at grows
    | 4 => simp [ended_five] at grows
    | k + 5 =>
      have same : state signer (k + 5 + 1) = state signer (k + 5) :=
        (state_add_five signer (k + 1)).trans (state_add_five signer k).symm
      simp [same] at grows

end Unanswered

/-- A watch whose lookup is never answered gives up after its sleep and the link's timeout. -/
theorem tracked_over_link_unanswered :
    let signer : Signer := ⟨.ofKey ⟨1, by decide, by decide⟩, 31337⟩
    let start := Unanswered.faucet signer
    let watch := Unanswered.watch signer
    start.Lends ∧ 0 < Unanswered.policy.terms.pollInterval ∧ start.desk.watches[0]? = some watch ∧
      watch.progress = .planned ∧ Unanswered.schedule 0 = .wakeWatch 0 ∧
      start.LooksUp Unanswered.policy Unanswered.link Unanswered.schedule 0 0 watch.transaction.hash
        (fun _ => ⟨1001, .refusal "late"⟩) ∧
      start.Concludes Unanswered.policy Unanswered.schedule 0 0 watch 1 1100
        (.givenUp "Timeout waiting for receipt") := by
  intro signer start watch
  have looks := Unanswered.looksUp signer
  have lends := Unanswered.lends_faucet signer
  have interval : 0 < Unanswered.policy.terms.pollInterval := by decide
  have found : start.desk.watches[0]? = some watch := rfl
  have begins : Unanswered.schedule 0 = .wakeWatch 0 := rfl
  have tracked := tracked_over_link lends interval found rfl begins looks
  refine ⟨lends, interval, found, rfl, begins, looks, ?_⟩
  obtain ⟨c, settles, concludes⟩ := tracked.decided 0 (fun k before => by omega)
    (by simp [Delivery.IsTimelyNull, Delivery.within, Unanswered.link]) fun _ _ k before => by omega
  cases settles with
  | late _ => exact concludes
  | succeeded come _ _ | failed come _ _ | undecodable come _ _ | refused come => cases come

end Faucet

end GasFaucet
