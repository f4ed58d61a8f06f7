import GasFaucet.Proofs.Schedules
import GasFaucet.Proofs.Watching

/-!
# Polling

A watch whose sleeps end when they should and whose lookups are answered one after the other.  It sleeps
for the interval before every lookup, so the lookups' latencies say when each of them has ended; and it ends
with the first lookup that decides, at that time and not before.
-/

namespace GasFaucet

/-- What comes of a lookup, and after how many milliseconds. -/
structure Lookup where
  latency : Nat
  result : Except Failure Bool

/-- How long a watch takes for so many lookups, each after a sleep of the interval. -/
def pollEnd (interval : Nat) (latency : Nat → Nat) : Nat → Nat
  | 0 => 0
  | n + 1 => pollEnd interval latency n + interval + latency n

theorem le_pollEnd {interval : Nat} (positive : 0 < interval) (latency : Nat → Nat) (n : Nat) :
    n ≤ pollEnd interval latency n := by
  induction n with
  | zero => exact Nat.zero_le _
  | succ n ih =>
    rw [pollEnd]
    omega

theorem Watch.judge_add (limit : Option Nat) (since elapsed : Nat) (result : Except Failure Bool) :
    judge limit since (since + elapsed) result = judge limit 0 elapsed result := by
  unfold judge
  rw [Nat.add_sub_cancel_left, Nat.sub_zero]

theorem WatchProgress.ofReply_ofExcept (p : Policy) (since now : Nat) (result : Except Failure Bool) :
    ofReply p since now (.ofExcept result) =
      .ofVerdict p since now (Watch.judge p.terms.confirmationTimeout since now result) := by
  cases result <;> rfl

theorem Desk.Tends.asks_answered {d e : Desk} {p : Policy} {number : Nat} {w : Watch} {a : Answer}
    (t : d.Tends p number w (.answerWatch number a) e) :
    asks e.journal (.watch number) = asks d.journal (.watch number) := by
  cases t with
  | waits _ alike => exact (asks_congr alike.spoken _).trans (GasFaucet.asks_answered ..)
  | breaks _ _ => exact asks_congr rfl _
  | concludes c _ => cases c <;> exact asks_congr rfl _

namespace Faucet

variable {f start : Faucet} {p : Policy} {s : Nat → Event} {number i j m n : Nat} {w : Watch}

theorem wakeWatch_of_due {since wakeAt : Nat} (found : f.desk.watches[number]? = some w)
    (sleeping : w.progress = .sleeping since wakeAt) (due : wakeAt ≤ f.desk.now) (p : Policy) :
    f.wakeWatch p number = { f with
      desk := (f.desk.setWatch number (.asking since)).write
        (.asked (.watch number) (.receipt w.transaction.hash)) } := by
  have silent : f.query? (.watch number) = none := by
    rw [query?_watch found]
    unfold Watch.query?
    rw [sleeping]
  unfold wakeWatch Desk.wakeWatch
  rw [silent]
  simp only [found, sleeping, due, if_true]
  rw [writeQuery_eq, query?_watch (getElem?_setWatch found _)]
  rfl

def Remains (start : Faucet) (p : Policy) (s : Nat → Event) (number : Nat) (w : Watch) (i j : Nat) :
    Prop :=
  ∀ m, i ≤ m → m ≤ j → (start.along p s m).desk.watches[number]? = some w ∧
    asks (start.along p s m).desk.journal (.watch number) =
      asks (start.along p s i).desk.journal (.watch number)

/-- Up to a later moment a watch has stayed as it is, or it has been tended a first time. -/
theorem remains_or_tends (found : (start.along p s i).desk.watches[number]? = some w) (upTo : i ≤ j) :
    start.Remains p s number w i j ∨
      ∃ m d, i ≤ m ∧ m < j ∧ start.Remains p s number w i m ∧
        (start.along p s m).desk.Tends p number w (s m) d ∧
        start.along p s (m + 1) = { start.along p s m with desk := d } := by
  induction j, upTo using Nat.le_induction with
  | base =>
    left
    intro m later earlier
    obtain rfl : m = i := by omega
    exact ⟨found, rfl⟩
  | succ j upTo ih =>
    rcases ih with remains | ⟨m, d, later, earlier, tended⟩
    · obtain ⟨there, asked⟩ := remains j upTo (Nat.le_refl j)
      rcases ((start.along p s j).change_step p (s j)).watch there with ⟨same, silent⟩ | ⟨d, t, result⟩
      · left
        intro m later earlier
        rcases Nat.lt_or_ge j m with last | inside
        · obtain rfl : m = j + 1 := by omega
          exact ⟨same, silent.trans asked⟩
        · exact remains m later inside
      · exact .inr ⟨j, d, upTo, Nat.lt_succ_self j, remains, t, result⟩
    · exact .inr ⟨m, d, later, Nat.lt_succ_of_lt earlier, tended⟩

/-- A watch that is woken when its sleep is over looks its receipt up at that time. -/
theorem exists_look {since wakeAt : Nat}
    (found : (start.along p s i).desk.watches[number]? = some w)
    (sleeping : w.progress = .sleeping since wakeAt) (upTo : i ≤ j) (woken : s j = .wakeWatch number)
    (due : (start.along p s j).desk.now = wakeAt) :
    ∃ m, i ≤ m ∧ start.Remains p s number w i m ∧ (start.along p s m).desk.now = wakeAt ∧
      start.along p s (m + 1) = { start.along p s m with
        desk := ((start.along p s m).desk.setWatch number (.asking since)).write
          (.asked (.watch number) (.receipt w.transaction.hash)) } := by
  rcases remains_or_tends found upTo with remains | ⟨m, d, later, earlier, remains, t, result⟩
  · refine ⟨j, upTo, remains, due, ?_⟩
    rw [along, woken]
    exact wakeWatch_of_due (remains j upTo (Nat.le_refl j)).1 sleeping (Nat.le_of_eq due.symm) p
  · have passed : (start.along p s m).desk.now ≤ (start.along p s j).desk.now :=
      now_le_along (Nat.le_of_lt earlier)
    refine ⟨m, later, remains, ?_⟩
    generalize s m = e at t
    cases t with
    | @looks since' wakeAt' sleeps overdue =>
      cases sleeping.symm.trans sleeps
      exact ⟨by omega, result⟩
    | begins planned => cases sleeping.symm.trans planned
    | waits asking _ | breaks _ asking | concludes _ asking => cases sleeping.symm.trans asking

theorem remains_of_asking {since : Nat} (found : (start.along p s i).desk.watches[number]? = some w)
    (asking : w.progress = .asking since) (upTo : i ≤ j)
    (unanswered : ∀ m, i ≤ m → m < j → ∀ a, s m ≠ .answerWatch number a) :
    start.Remains p s number w i j := by
  rcases remains_or_tends found upTo with remains | ⟨m, d, later, earlier, -, t, -⟩
  · exact remains
  · have quiet := unanswered m later earlier
    generalize s m = e at t quiet
    cases t with
    | begins planned => cases asking.symm.trans planned
    | looks sleeping _ => cases asking.symm.trans sleeping
    | waits _ _ | breaks _ _ | concludes _ _ => exact absurd rfl (quiet _)

/-- How often a watch has looked its receipt up since some moment. -/
def lookupsSince (start : Faucet) (p : Policy) (s : Nat → Event) (number i m : Nat) : Nat :=
  (asks (start.along p s m).desk.journal (.watch number)).length -
    (asks (start.along p s i).desk.journal (.watch number)).length

/--
From some moment on a watch's sleeps end when they should, and to each of its lookups of a transaction
comes what comes of it, and nothing else before.
-/
structure Polled (start : Faucet) (p : Policy) (s : Nat → Event) (number i : Nat) (hash : Digest)
    (lookups : Nat → Lookup) : Prop where
  sleeps : ∀ {m wakeAt}, i ≤ m → (start.along p s m).wakeAt? (.watch number) = some wakeAt →
    ∃ j, m ≤ j ∧ s j = .wakeWatch number ∧ (start.along p s j).desk.now = wakeAt
  answers : ∀ {m}, i ≤ m →
    asks (start.along p s (m + 1)).desk.journal (.watch number) =
      asks (start.along p s m).desk.journal (.watch number) ++ [.receipt hash] →
    let lookup := lookups (start.lookupsSince p s number i m)
    ∃ j, m < j ∧ s j = .answerWatch number (.mined (.ofExcept lookup.result)) ∧
      (start.along p s j).desk.now = (start.along p s (m + 1)).desk.now + lookup.latency ∧
      ∀ k, m < k → k < j → ∀ a, s k ≠ .answerWatch number a

def GoesOn (start : Faucet) (p : Policy) (s : Nat → Event) (number : Nat) (w : Watch) (i j : Nat) : Prop :=
  ∀ k, i ≤ k → k ≤ j → ∃ progress,
    (start.along p s k).desk.watches[number]? = some { w with progress := progress } ∧
      Watch.report? { w with progress := progress } = none

theorem GoesOn.trans (first : start.GoesOn p s number w i m) (second : start.GoesOn p s number w m j) :
    start.GoesOn p s number w i j := by
  intro k later earlier
  rcases Nat.le_total k m with before | after
  · exact first k later before
  · exact second k after earlier

theorem Remains.goesOn {progress : WatchProgress}
    (remains : start.Remains p s number { w with progress := progress } i j)
    (unreported : Watch.report? { w with progress := progress } = none) :
    start.GoesOn p s number w i j :=
  fun k later earlier => ⟨progress, (remains k later earlier).1, unreported⟩

/-- How a watch stands that began at moment `i` and whose first `n` lookups have come to nothing. -/
structure Waiting (start : Faucet) (p : Policy) (s : Nat → Event) (number i : Nat) (w : Watch)
    (latency : Nat → Nat) (n m : Nat) : Prop where
  later : i + n < m
  now : (start.along p s m).desk.now =
    (start.along p s i).desk.now + pollEnd p.terms.pollInterval latency n
  found : (start.along p s m).desk.watches[number]? = some { w with
    progress := .sleeping (start.along p s i).desk.now
      ((start.along p s m).desk.now + p.terms.pollInterval) }
  asked : (asks (start.along p s m).desk.journal (.watch number)).length =
    (asks (start.along p s i).desk.journal (.watch number)).length + n
  live : start.GoesOn p s number w i m

/-- How a watch stands whose lookup is about to be answered. -/
structure Answered (start : Faucet) (p : Policy) (s : Nat → Event) (number i : Nat) (w : Watch)
    (lookups : Nat → Lookup) (n j : Nat) : Prop where
  later : i + n < j
  event : s j = .answerWatch number (.mined (.ofExcept (lookups n).result))
  now : (start.along p s j).desk.now = (start.along p s i).desk.now +
    pollEnd p.terms.pollInterval (fun k => (lookups k).latency) (n + 1)
  found : (start.along p s j).desk.watches[number]? =
    some { w with progress := .asking (start.along p s i).desk.now }
  asked : (asks (start.along p s j).desk.journal (.watch number)).length =
    (asks (start.along p s i).desk.journal (.watch number)).length + (n + 1)
  live : start.GoesOn p s number w i j

theorem now_succ {e : Event} (event : s j = e) (instant : e.elapsed = 0) :
    (start.along p s (j + 1)).desk.now = (start.along p s j).desk.now := by
  obtain ⟨now, -⟩ := clock_step p (start.along p s j) (s j)
  rw [along, now, event, instant, Nat.add_zero]

section Polled

variable {lookups : Nat → Lookup}

theorem waiting_zero (found : (start.along p s i).desk.watches[number]? = some w)
    (planned : w.progress = .planned) (begins : s i = .wakeWatch number) (latency : Nat → Nat) :
    start.Waiting p s number i w latency 0 (i + 1) := by
  have begun : start.along p s (i + 1) = { start.along p s i with
      desk := (start.along p s i).desk.sleepWatch p number (start.along p s i).desk.now } := by
    rw [along, begins]
    exact wakeWatch_of_planned found planned p
  have now : (start.along p s (i + 1)).desk.now = (start.along p s i).desk.now := now_succ begins rfl
  have sleeps : (start.along p s (i + 1)).desk.watches[number]? = some { w with
      progress := .sleeping (start.along p s i).desk.now
        ((start.along p s (i + 1)).desk.now + p.terms.pollInterval) } := by
    rw [now, begun]
    exact getElem?_setWatch found _
  refine ⟨Nat.lt_succ_self i, now, sleeps, ?_, ?_⟩
  · rw [begun]
    rfl
  · intro k later earlier
    rcases Nat.eq_or_lt_of_le later with rfl | beyond
    · refine ⟨w.progress, found, ?_⟩
      simp [Watch.report?, planned]
    · obtain rfl : k = i + 1 := by omega
      exact ⟨_, sleeps, rfl⟩

variable (polled : start.Polled p s number i w.transaction.hash lookups)
include polled

theorem Polled.answered (waiting : start.Waiting p s number i w (fun k => (lookups k).latency) n m) :
    ∃ j, start.Answered p s number i w lookups n j := by
  obtain ⟨beyond, now, found, asked, live⟩ := waiting
  have sleeping : (start.along p s m).wakeAt? (.watch number) =
      some ((start.along p s m).desk.now + p.terms.pollInterval) := by
    unfold wakeAt?
    simp only [found]
  obtain ⟨j, later, woken, due⟩ := polled.sleeps (by omega : i ≤ m) sleeping
  obtain ⟨k, since, remains, looked, result⟩ := exists_look found rfl later woken due
  have there : (start.along p s (k + 1)).desk.watches[number]? =
      some { w with progress := .asking (start.along p s i).desk.now } := by
    rw [result]
    exact getElem?_setWatch (remains k since (Nat.le_refl k)).1 (.asking _)
  have grows : asks (start.along p s (k + 1)).desk.journal (.watch number) =
      asks (start.along p s k).desk.journal (.watch number) ++ [.receipt w.transaction.hash] := by
    rw [result]
    exact asks_asked_self ..
  have then' : (start.along p s (k + 1)).desk.now = (start.along p s k).desk.now := by
    rw [result]
    rfl
  -- Nothing was asked during the sleep, so this is the lookup whose turn it is.
  have sofar := congrArg List.length (remains k since (Nat.le_refl k)).2
  have count : start.lookupsSince p s number i k = n := by
    unfold lookupsSince
    omega
  obtain ⟨l, after, event, ends, alone⟩ := polled.answers (by omega) grows
  rw [count] at event ends
  have waits := remains_of_asking there rfl (by omega : k + 1 ≤ l)
    fun m' later' earlier => alone m' (by omega) earlier
  obtain ⟨here, silent⟩ := waits l (by omega) (Nat.le_refl l)
  refine ⟨l, by omega, event, ?_, here, ?_, ?_⟩
  · rw [ends, then', looked, now, pollEnd]
    omega
  · have grown := congrArg List.length (silent.trans grows)
    rw [List.length_append, List.length_singleton] at grown
    omega
  · refine (live.trans (remains.goesOn rfl)).trans ?_
    intro k' later' earlier
    rcases Nat.eq_or_lt_of_le later' with rfl | beyond'
    · exact remains.goesOn rfl k since (Nat.le_refl k)
    · exact waits.goesOn rfl k' beyond' earlier

omit polled in
theorem Answered.after (answered : start.Answered p s number i w lookups n j) :
    (start.along p s (j + 1)).desk.watches[number]? = some { w with
      progress := .ofVerdict p (start.along p s i).desk.now (start.along p s j).desk.now
        (Watch.judge p.terms.confirmationTimeout 0
          (pollEnd p.terms.pollInterval (fun k => (lookups k).latency) (n + 1)) (lookups n).result) } ∧
    (start.along p s (j + 1)).desk.now = (start.along p s j).desk.now ∧
    (asks (start.along p s (j + 1)).desk.journal (.watch number)).length =
      (asks (start.along p s i).desk.journal (.watch number)).length + (n + 1) := by
  have led := getElem?_answerWatch answered.found rfl p (.ofExcept (lookups n).result)
  rw [WatchProgress.ofReply_ofExcept] at led
  refine ⟨?_, now_succ answered.event rfl, ?_⟩
  · rw [← Watch.judge_add _ (start.along p s i).desk.now, ← answered.now, along, answered.event]
    exact led
  · have changed := (start.along p s j).change_step p (s j)
    rw [answered.event] at changed
    have asked := answered.asked
    rw [along, answered.event]
    rcases changed.watch answered.found with ⟨-, same⟩ | ⟨d, t, result⟩
    · rw [same]
      exact asked
    · rw [result]
      dsimp only
      rw [t.asks_answered]
      exact asked

theorem Polled.waiting (found : (start.along p s i).desk.watches[number]? = some w)
    (planned : w.progress = .planned) (begins : s i = .wakeWatch number)
    (early : ∀ k < n, Watch.judge p.terms.confirmationTimeout 0
      (pollEnd p.terms.pollInterval (fun k => (lookups k).latency) (k + 1)) (lookups k).result = none) :
    ∃ m, start.Waiting p s number i w (fun k => (lookups k).latency) n m := by
  induction n with
  | zero => exact ⟨i + 1, waiting_zero found planned begins _⟩
  | succ n ih =>
    obtain ⟨m, waiting⟩ := ih fun k earlier => early k (by omega)
    obtain ⟨j, answered⟩ := polled.answered waiting
    obtain ⟨led, now, asked⟩ := answered.after
    rw [early n (by omega)] at led
    refine ⟨j + 1, by have := answered.later; omega, now.trans answered.now, ?_, asked, ?_⟩
    · rw [led, now]
      rfl
    · apply answered.live.trans
      intro k later earlier
      rcases Nat.eq_or_lt_of_le later with rfl | beyond
      · have := answered.later
        exact answered.live j (by omega) (Nat.le_refl j)
      · obtain rfl : k = j + 1 := by omega
        exact ⟨_, led, rfl⟩

end Polled

/--
A watch that began at moment `i` ends after so many lookups and so many milliseconds, with its signer free;
until then it goes on.
-/
def Concludes (start : Faucet) (p : Policy) (s : Nat → Event) (number i : Nat) (w : Watch)
    (lookups elapsed : Nat) (c : Conclusion) : Prop :=
  ∃ j, i < j ∧
    (start.along p s j).desk.watches[number]? = some { w with progress := .concluded c } ∧
    (start.along p s j).desk.now = (start.along p s i).desk.now + elapsed ∧
    (asks (start.along p s j).desk.journal (.watch number)).length =
      (asks (start.along p s i).desk.journal (.watch number)).length + lookups ∧
    (start.along p s j).desk.pool.isLeased w.lease.index = false ∧
    ∀ k, i ≤ k → k < j → ∃ progress,
      (start.along p s k).desk.watches[number]? = some { w with progress := progress } ∧
        Watch.report? { w with progress := progress } = none

/-- A watch ends with the first lookup that decides, when that lookup ends, and frees its signer. -/
theorem Polled.concludes {lookups : Nat → Lookup}
    (polled : start.Polled p s number i w.transaction.hash lookups) (lends : start.Lends)
    (found : (start.along p s i).desk.watches[number]? = some w)
    (planned : w.progress = .planned) (begins : s i = .wakeWatch number) {c : Conclusion}
    (early : ∀ k < n, Watch.judge p.terms.confirmationTimeout 0
      (pollEnd p.terms.pollInterval (fun k => (lookups k).latency) (k + 1)) (lookups k).result = none)
    (decides : Watch.judge p.terms.confirmationTimeout 0
      (pollEnd p.terms.pollInterval (fun k => (lookups k).latency) (n + 1)) (lookups n).result = some c) :
    start.Concludes p s number i w (n + 1)
      (pollEnd p.terms.pollInterval (fun k => (lookups k).latency) (n + 1)) c := by
  obtain ⟨m, waiting⟩ := polled.waiting found planned begins early
  obtain ⟨j, answered⟩ := polled.answered waiting
  obtain ⟨led, now, asked⟩ := answered.after
  rw [decides] at led
  have freed := (lends.along p s j).releases ((start.along p s j).change_step p (s j)) answered.found rfl led
    (by simp [Watch.report?, WatchProgress.ofVerdict])
  refine ⟨j + 1, by have := answered.later; omega, led, now.trans answered.now, asked, freed, ?_⟩
  intro k later earlier
  exact answered.live k later (by omega)

end Faucet

end GasFaucet
