import GasFaucet.Proofs.Schedules

/-!
# Deadlines

A request whose calls are bounded and whose wait is limited is over in time, whatever the node and all
others do.  A round leases every signer at most once and makes at most four calls for each, a rest ends by
the limit of the wait, and no round begins after that.
-/

namespace GasFaucet

def Link.after (l : Link) (w : Wire) : Query → Wire
  | .balance account => (l.balanceOf account .latest w).2
  | .gasPrice => (l.suggestGasPrice w).2
  | .nonce account => (l.nextNonce account w).2
  | .broadcast t => (l.broadcast t w).2
  | .receipt transaction => (l.receiptStatus transaction w).2

theorem Link.now_after (l : Link) (w : Wire) (q : Query) :
    (l.after w q).now = w.now + min w.next.delay l.timeout := by
  cases q with
  | balance _ | gasPrice | nonce _ | receipt _ => rfl
  | broadcast t =>
    unfold after broadcast
    dsimp only
    split
    · split <;> rfl
    · rfl

/-- A call over a link takes no longer than the link's timeout, even if the node never answers. -/
theorem Link.now_after_le (l : Link) (w : Wire) (q : Query) : (l.after w q).now ≤ w.now + l.timeout := by
  rw [now_after]
  omega

theorem Link.admits_ask (l : Link) (w : Wire) (q : Query) : q.admits (l.ask w q) = true := by
  cases q <;> rfl

namespace Faucet

/-- By an event a request gets to a progress, and asks what it then waits for. -/
structure Enters (start : Faucet) (p : Policy) (s : Nat → Event) (number : Nat) (r : Request)
    (progress : Progress) (i : Nat) : Prop where
  found : (start.along p s (i + 1)).requests[number]? = some (r, progress)
  asked : asks (start.along p s (i + 1)).desk.journal (.request number) =
    asks (start.along p s i).desk.journal (.request number) ++ (progress.query? r).toList

/--
A request's calls go over a link and are answered by the time they end, and its rests end when they
should; unless its caller drops it before.
-/
structure Punctual (start : Faucet) (p : Policy) (l : Link) (s : Nat → Event) (number : Nat) : Prop where
  answers : ∀ {i q},
    asks (start.along p s (i + 1)).desk.journal (.request number) =
      asks (start.along p s i).desk.journal (.request number) ++ [q] →
    ∃ w j, i < j ∧ w.now = (start.along p s (i + 1)).desk.now ∧
      (start.along p s j).desk.now ≤ (l.after w q).now ∧
      (s j = .answerRequest number (l.ask w q) ∨ s j = .cancelRequest number)
  wakes : ∀ {i wakeAt}, (start.along p s i).wakeAt? (.request number) = some wakeAt →
    ∃ j, i ≤ j ∧
      (s j = .wakeRequest number ∧ (start.along p s j).desk.now = wakeAt ∨
        s j = .cancelRequest number ∧ (start.along p s j).desk.now ≤ wakeAt)

variable {start : Faucet} {p : Policy} {l : Link} {s : Nat → Event} {number i k : Nat} {r : Request}
variable {progress : Progress} {out : Desk × Progress}

theorem Turns.enters (t : start.Turns p s number r progress k out) :
    start.Enters p s number r out.2 k :=
  ⟨t.found_after, t.asks_after⟩

theorem enters_gate (begins : s k = .request r) :
    start.Enters p s (start.along p s k).requests.length r .gate k := by
  have accepted : start.along p s (k + 1) = (start.along p s k).accept r := by
    rw [along, begins]
    rfl
  constructor
  · rw [accepted, accept_eq]
    exact List.getElem?_concat_length
  · rw [accepted, accept_eq]
    exact asks_asked_self ..

section Punctual

variable (punctual : start.Punctual p l s number)
include punctual

theorem Punctual.turns_of_asking {q : Query} (enters : start.Enters p s number r progress i)
    (asking : progress.query? r = some q) :
    ∃ k out, i < k ∧ start.Turns p s number r progress k out ∧
      (start.along p s k).desk.now ≤ (start.along p s (i + 1)).desk.now + l.timeout := by
  have asked := enters.asked
  rw [asking] at asked
  obtain ⟨w, j, later, begins, ends, event⟩ := punctual.answers asked
  have ongoing : progress.isOver = false := by
    cases progress <;> first | rfl | cases asking
  have moves : (start.along p s j).requests[number]? = some (r, progress) →
      ∃ out, start.Turns p s number r progress j out := by
    intro found
    rcases event with answered | dropped
    · exact turns_of_answer found answered asking (l.admits_ask w q)
    · exact turns_of_cancel found dropped ongoing
  obtain ⟨k, out, after, before, turns⟩ := exists_turn enters.found later moves
  refine ⟨k, out, after, turns, ?_⟩
  calc (start.along p s k).desk.now
      ≤ (start.along p s j).desk.now := now_le_along before
    _ ≤ (l.after w q).now := ends
    _ ≤ w.now + l.timeout := l.now_after_le w q
    _ = (start.along p s (i + 1)).desk.now + l.timeout := by rw [begins]

theorem Punctual.turns_of_resting {since wakeAt : Nat}
    (enters : start.Enters p s number r (.resting since wakeAt) i) :
    ∃ k out, i < k ∧ start.Turns p s number r (.resting since wakeAt) k out ∧
      (start.along p s k).desk.now ≤ wakeAt := by
  have sleeping : (start.along p s (i + 1)).wakeAt? (.request number) = some wakeAt := by
    unfold wakeAt?
    simp only [enters.found]
  obtain ⟨j, later, event⟩ := punctual.wakes sleeping
  have moves : (start.along p s j).requests[number]? = some (r, .resting since wakeAt) →
      ∃ out, start.Turns p s number r (.resting since wakeAt) j out := by
    intro found
    rcases event with ⟨woken, due⟩ | ⟨dropped, -⟩
    · exact turns_of_wake found woken rfl (Nat.le_of_eq due.symm)
    · exact turns_of_cancel found dropped rfl
  obtain ⟨k, out, after, before, turns⟩ := exists_turn enters.found later moves
  refine ⟨k, out, after, turns, ?_⟩
  have upTo : (start.along p s k).desk.now ≤ (start.along p s j).desk.now := now_le_along before
  rcases event with ⟨-, due⟩ | ⟨-, early⟩ <;> omega

end Punctual

/-- After a moment and by some time a request strides on to where something holds of it and of the time. -/
def Reaches (start : Faucet) (p : Policy) (s : Nat → Event) (number : Nat) (r : Request) (i deadline : Nat)
    (holds : Progress → Nat → Prop) : Prop :=
  ∃ k before out, i < k ∧ start.Turns p s number r before k out ∧
    (start.along p s (k + 1)).desk.now ≤ deadline ∧ holds out.2 (start.along p s (k + 1)).desk.now

theorem Reaches.mono {i' deadline deadline' : Nat} {holds : Progress → Nat → Prop}
    (h : start.Reaches p s number r i' deadline' holds) (later : i ≤ i') (sooner : deadline' ≤ deadline) :
    start.Reaches p s number r i deadline holds := by
  obtain ⟨k, before, out, after, turns, inTime, there⟩ := h
  exact ⟨k, before, out, Nat.lt_of_le_of_lt later after, turns, Nat.le_trans inTime sooner, there⟩

/-- A request is over, or it rests for some time within the limit of its wait. -/
def Pauses (since limit : Nat) (progress : Progress) (now : Nat) : Prop :=
  progress.isOver = true ∨
    ∃ wakeAt, progress = .resting since wakeAt ∧ now < wakeAt ∧ wakeAt ≤ since + limit

section Limited

variable {limit since : Nat} (patience : p.terms.maxLeaseWait = some limit)
variable (interval : 0 < p.terms.retryInterval)
variable (punctual : start.Punctual p l s number) {accounts : List Address} (draws : start.Draws accounts)
include patience interval punctual draws

/-- A round pauses by the time that the calls take which it may still make. -/
theorem Punctual.round_pauses (calls : Nat) {tried : List Address} {lease : Lease} {stage : Stage}
    (few : callsLeft accounts tried stage ≤ calls)
    (enters : start.Enters p s number r (.trying since tried lease stage) i) :
    start.Reaches p s number r i ((start.along p s (i + 1)).desk.now + calls * l.timeout)
      (Pauses since limit) := by
  induction calls generalizing i tried lease stage with
  | zero =>
    have := callsLeft_pos accounts tried stage
    omega
  | succ calls ih =>
    obtain ⟨q, asking⟩ : ∃ q, (Progress.trying since tried lease stage).query? r = some q := by
      cases stage <;> exact ⟨_, rfl⟩
    obtain ⟨k, out, later, turns, inTime⟩ := punctual.turns_of_asking enters asking
    have now := turns.coeval.now
    have pool := draws.along p s k
    rw [Nat.succ_mul]
    have pauses (there : Pauses since limit out.2 (start.along p s (k + 1)).desk.now) :
        start.Reaches p s number r i
          ((start.along p s (i + 1)).desk.now + (calls * l.timeout + l.timeout)) (Pauses since limit) :=
      ⟨k, _, out, later, turns, by omega, there⟩
    rcases turns.strides.leads.round (pool.drawn turns.found) pool.belong with
      ⟨tried', lease', next, after, fewer⟩ | ⟨wakeAt, rests, naps⟩ | finished
    · have continued := ih (by omega) (after ▸ turns.enters)
      exact continued.mono (Nat.le_of_lt later) (by omega)
    · have afterwards := naps.later interval
      exact pauses (.inr ⟨wakeAt, rests, by omega, naps.bounded patience⟩)
    · exact pauses (.inl finished)

/-- A round that begins at the moment of an event pauses by the time that all its calls take. -/
theorem Punctual.search_pauses {before : Progress} (turns : start.Turns p s number r before k out)
    (found : (start.along p s k).desk.Finds p since [] out.2) (later : i < k) :
    start.Reaches p s number r i
      ((start.along p s k).desk.now + 4 * accounts.length * l.timeout) (Pauses since limit) := by
  have now := turns.coeval.now
  generalize reached : out.2 = next at found
  cases found with
  | @leases lease known untried =>
    have drawn : Drawn accounts [lease.signer.address] :=
      (Drawn.nil accounts).cons ((draws.along p s k).belong known) untried
    have few : callsLeft accounts [lease.signer.address] .balance ≤ 4 * accounts.length := by
      have first : Stage.rank .balance = 0 := rfl
      have leased := drawn.length_le
      unfold callsLeft
      rw [first]
      rw [List.length_singleton] at leased ⊢
      omega
    have paused := punctual.round_pauses patience interval draws _ few (reached ▸ turns.enters)
    exact paused.mono (Nat.le_of_lt later) (by omega)
  | rests naps =>
    have afterwards := naps.later interval
    exact ⟨k, _, out, later, turns, by omega,
      .inr ⟨_, reached, by omega, naps.bounded patience⟩⟩
  | exhausts _ _ => exact ⟨k, _, out, later, turns, by omega, .inl (reached ▸ rfl)⟩

/-- Whoever rests within the limit of its wait is over after one more round at the latest. -/
theorem Punctual.rest_ends (rest : Nat) {wakeAt : Nat} (within : wakeAt ≤ since + limit)
    (left : since + limit - wakeAt ≤ rest)
    (enters : start.Enters p s number r (.resting since wakeAt) i) :
    start.Reaches p s number r i (since + limit + 4 * accounts.length * l.timeout)
      fun progress _ => progress.isOver = true := by
  induction rest using Nat.strongRecOn generalizing i wakeAt with
  | ind rest ih =>
    obtain ⟨k, out, later, turns, inTime⟩ := punctual.turns_of_resting enters
    have now := turns.coeval.now
    have ends (finished : out.2.isOver = true) : start.Reaches p s number r i
        (since + limit + 4 * accounts.length * l.timeout) fun progress _ => progress.isOver = true :=
      ⟨k, _, out, later, turns, by omega, finished⟩
    have leads := turns.strides.leads
    have searches (found : (start.along p s k).desk.Finds p since [] out.2) (before : k - 1 < k) :=
      punctual.search_pauses patience interval draws turns found before
    generalize reached : out.2 = next at leads ends searches
    generalize s k = event at leads
    cases leads with
    | stops _ _ | drops _ => exact ends rfl
    | renews due running found =>
      obtain ⟨k', before, out', beyond, turns', soon, finished | ⟨wakeAt', rests, afterwards, within'⟩⟩ :=
        searches found (by omega)
      · exact ⟨k', before, out', by omega, turns', by omega, finished⟩
      · -- The next rest ends later than this one, so less of the wait is left.
        have since' : (start.along p s k).desk.now ≤ (start.along p s (k' + 1)).desk.now :=
          now_le_along (by omega)
        have again := ih (since + limit - wakeAt') (by omega) within' (Nat.le_refl _)
          (rests ▸ turns'.enters)
        exact again.mono (by omega) (Nat.le_refl _)

theorem Punctual.gate_ends (enters : start.Enters p s number r .gate i) :
    start.Reaches p s number r i
      ((start.along p s (i + 1)).desk.now + (l.timeout + limit + 4 * accounts.length * l.timeout))
      fun progress _ => progress.isOver = true := by
  obtain ⟨k, out, later, turns, inTime⟩ := punctual.turns_of_asking enters rfl
  have now := turns.coeval.now
  have ends (finished : out.2.isOver = true) : start.Reaches p s number r i
      ((start.along p s (i + 1)).desk.now + (l.timeout + limit + 4 * accounts.length * l.timeout))
      fun progress _ => progress.isOver = true :=
    ⟨k, _, out, later, turns, by omega, finished⟩
  have leads := turns.strides.leads
  have searches (found : (start.along p s k).desk.Finds p (start.along p s k).desk.now [] out.2) :=
    punctual.search_pauses patience interval draws turns found later
  generalize reached : out.2 = next at leads ends searches
  generalize s k = event at leads
  cases leads with
  | funded _ | unknown | collapses | refused _ _ | drops _ => exact ends rfl
  | opens _ _ found =>
    obtain ⟨k', before, out', beyond, turns', soon, finished | ⟨wakeAt, rests, -, within⟩⟩ :=
      searches found
    · exact ⟨k', before, out', beyond, turns', by omega, finished⟩
    · have ended := punctual.rest_ends patience interval draws _ within (Nat.le_refl _)
        (rests ▸ turns'.enters)
      exact ended.mono (Nat.le_of_lt beyond) (by omega)

end Limited

theorem draws_fresh (signers : List Signer) :
    (fresh (.ofSigners signers)).Draws (signers.map Signer.address) := by
  constructor
  · intro index signer known
    apply List.mem_map_of_mem
    apply List.mem_of_getElem? (i := index)
    rw [← Pool.signerAt?_ofSigners]
    exact known
  · intro number r since tried lease stage impossible
    cases impossible

/--
A request whose calls take at most the timeout of a link and whose wait is limited is over within one call,
the limit and the calls of one round: it has ended or broken down, unless its caller has dropped it.
-/
theorem over_in_time (signers : List Signer) (p : Policy) (l : Link) (s : Nat → Event) {k limit : Nat}
    {r : Request} (patience : p.terms.maxLeaseWait = some limit) (interval : 0 < p.terms.retryInterval)
    (begins : s k = .request r) :
    let start := fresh (.ofSigners signers)
    let number := (start.along p s k).requests.length
    start.Punctual p l s number →
    ∃ j progress, k < j ∧ (start.along p s j).requests[number]? = some (r, progress) ∧
      progress.isOver = true ∧
      (progress = .cancelled → ∃ i, k < i ∧ i < j ∧ s i = .cancelRequest number) ∧
      (start.along p s j).desk.now ≤
        (start.along p s k).desk.now + (l.timeout + limit + 4 * signers.length * l.timeout) := by
  intro start number punctual
  obtain ⟨j, before, out, later, turns, inTime, finished⟩ :=
    punctual.gate_ends patience interval (draws_fresh signers) (enters_gate begins)
  have now : (start.along p s (k + 1)).desk.now = (start.along p s k).desk.now := by
    obtain ⟨now, -⟩ := clock_step p (start.along p s k) (s k)
    rw [along, now, begins]
    rfl
  rw [now, List.length_map] at inTime
  refine ⟨j + 1, out.2, by omega, turns.enters.found, finished, ?_, inTime⟩
  intro dropped
  have leads := turns.strides.leads
  rw [dropped] at leads
  exact ⟨j, later, by omega, leads.event_of_cancelled⟩

namespace Hanging

/-- Rounds are tried again after a tenth of a second, for half a second. -/
def policy : Policy :=
  ⟨31337, ⟨none, 1⟩, ⟨100, 100, some 500, none, 7, transferGas⟩⟩

def link : Link :=
  ⟨⟨"anvil", 31337, 1, none, 7⟩, "http://localhost:8545", 1000, transferGas, 7⟩

def request : Request :=
  ⟨⟨0⟩, 5, 0⟩

/-- The destination's balance comes at once, the signer's not within a second. -/
def schedule (signer : Signer) : Nat → Event
  | 0 => .request request
  | 1 => .answerRequest 0 (link.ask (.fresh [⟨0, .result (.string "0x0")⟩]) (.balance request.destination))
  | 2 => .pass 1000
  | 3 => .answerRequest 0 (link.ask (.fresh [⟨1001, .refusal "late"⟩]) (.balance signer.address))
  | _ => .pass 0

variable (signer : Signer)

def state : Nat → Faucet :=
  (fresh (.ofSigners [signer])).along policy (schedule signer)

def asked (k : Nat) : List Query :=
  asks (state signer k).desk.journal (.request 0)

theorem asked_one : asked signer 1 = asked signer 0 ++ [.balance request.destination] :=
  rfl

theorem state_two :
    (state signer 2).requests = [(request, .trying 0 [signer.address] ⟨0, signer⟩ .balance)] ∧
      (state signer 2).desk.now = 0 ∧ asked signer 2 = asked signer 1 ++ [.balance signer.address] := by
  have read : Json.word? (.string "0x0") = some 0 := by decide
  have passed : schedule signer 1 = .answerRequest 0 (.number (.value 0)) := by
    change Event.answerRequest 0 (link.ask _ _) = _
    rw [Link.ask_eq]
    simp [Wire.next, Wire.fresh, Delivery.within, Query.heard, heard, read, Reply.ofExcept]
  unfold asked state
  simp only [along, passed]
  exact ⟨rfl, rfl, rfl⟩

theorem state_three :
    (state signer 3).requests = [(request, .trying 0 [signer.address] ⟨0, signer⟩ .balance)] ∧
      (state signer 3).desk.now = 1000 ∧ asked signer 3 = asked signer 2 := by
  obtain ⟨requests, now, -⟩ := state_two signer
  refine ⟨requests, ?_, rfl⟩
  change (state signer 2).desk.now + 1000 = 1000
  rw [now]

/-- The signer's balance comes too late, and so does every other round. -/
theorem state_four : ∃ progress, (state signer 4).requests[0]? = some (request, progress) ∧
    progress.isOver = true ∧ asked signer 4 = asked signer 3 := by
  obtain ⟨requests, now, -⟩ := state_three signer
  have found : (state signer 3).requests[0]? =
      some (request, .trying 0 [signer.address] ⟨0, signer⟩ .balance) := by
    rw [requests]
    rfl
  obtain ⟨out, turns⟩ := turns_of_answer found rfl rfl (link.admits_ask _ _)
  have late : schedule signer 3 = .answerRequest 0 (.number (.failure (.timeout "balance"))) := by
    change Event.answerRequest 0 (link.ask _ _) = _
    rw [Link.ask_eq]
    rfl
  have finished : out.2.isOver = true := by
    have leads := turns.strides.leads
    rw [late] at leads
    generalize out.2 = next at leads
    cases leads with
    | advances further => cases further
    | passes searched =>
      cases searched with
      | leases known untried =>
        have drawn := (draws_fresh [signer]).along policy (schedule signer) 3
        exact absurd (drawn.belong known) untried
      | rests naps =>
        have bounded := naps.bounded (show policy.terms.maxLeaseWait = some 500 from rfl)
        have later : (state signer 3).desk.now < _ := naps.later (by decide)
        omega
      | exhausts _ _ => rfl
    | fails _ _ | breaks _ => rfl
  have entered := turns.enters
  refine ⟨out.2, entered.found, finished, ?_⟩
  have silent : out.2.query? request = none := by
    revert finished
    cases out.2 <;> simp [Progress.isOver, Progress.query?]
  have asked' := entered.asked
  rw [silent] at asked'
  exact asked'.trans (List.append_nil _)

theorem state_add_four (k : Nat) : state signer (k + 4) = state signer 4 := by
  induction k with
  | zero => rfl
  | succ k ih => exact ih

theorem punctual : (fresh (.ofSigners [signer])).Punctual policy link (schedule signer) 0 := by
  constructor
  · intro i q grows
    change asked signer (i + 1) = asked signer i ++ [q] at grows
    rcases i with _ | _ | _ | _ | k
    · rw [asked_one, List.append_right_inj, List.singleton_inj] at grows
      subst grows
      exact ⟨.fresh [⟨0, .result (.string "0x0")⟩], 1, Nat.zero_lt_one, rfl, Nat.zero_le _, .inl rfl⟩
    · obtain ⟨-, now, asks⟩ := state_two signer
      rw [asks, List.append_right_inj, List.singleton_inj] at grows
      subst grows
      refine ⟨.fresh [⟨1001, .refusal "late"⟩], 3, by decide, now.symm, ?_, .inl rfl⟩
      obtain ⟨-, then', -⟩ := state_three signer
      rw [Link.now_after]
      exact Nat.le_of_eq then'
    · obtain ⟨-, -, same⟩ := state_three signer
      simp [same] at grows
    · obtain ⟨_, -, -, same⟩ := state_four signer
      simp [same] at grows
    · have same : asked signer (k + 4 + 1) = asked signer (k + 4) := rfl
      simp [same] at grows
  · intro i wakeAt sleeps
    obtain ⟨r, since, found⟩ := resting_of_wakeAt? sleeps
    change (state signer i).requests[0]? = _ at found
    match i with
    | 0 | 1 => cases found
    | 2 =>
      rw [(state_two signer).1] at found
      cases found
    | 3 =>
      rw [(state_three signer).1] at found
      cases found
    | k + 4 =>
      obtain ⟨progress, there, finished, -⟩ := state_four signer
      rw [state_add_four, there] at found
      cases found
      cases finished

end Hanging

/-- A request whose signer's balance never comes is over when its call and the limit are. -/
theorem over_in_time_hanging :
    let signer : Signer := ⟨.ofKey ⟨1, by decide, by decide⟩, 31337⟩
    let start := fresh (.ofSigners [signer])
    let s := Hanging.schedule signer
    let number := (start.along Hanging.policy s 0).requests.length
    Hanging.policy.terms.maxLeaseWait = some 500 ∧ 0 < Hanging.policy.terms.retryInterval ∧
      s 0 = .request Hanging.request ∧ start.Punctual Hanging.policy Hanging.link s number ∧
      ∃ j progress, 0 < j ∧
        (start.along Hanging.policy s j).requests[number]? = some (Hanging.request, progress) ∧
        progress.isOver = true ∧
        (progress = .cancelled → ∃ i, 0 < i ∧ i < j ∧ s i = .cancelRequest number) ∧
        (start.along Hanging.policy s j).desk.now ≤
          (start.along Hanging.policy s 0).desk.now + (1000 + 500 + 4 * 1 * 1000) :=
  ⟨rfl, by decide, rfl, Hanging.punctual _,
    over_in_time [_] Hanging.policy Hanging.link (Hanging.schedule _) rfl (by decide) rfl
      (Hanging.punctual _)⟩

end Faucet

end GasFaucet
