import GasFaucet.Proofs.Standings

/-!
# Bookkeeping

The counts of a running faucet add up.  Every lease that was ever granted shows as a signer that was
passed over, as a transfer, or in the standing of a request; every request that came back is counted once;
and every transfer has a watch whose end was counted with its latency, or that goes on or broke down.
-/

namespace GasFaucet

def Progress.hasReturned : Progress → Bool
  | ended _ => true
  | _ => false

def Watch.isOpen (w : Watch) : Bool :=
  match w.progress with
  | .concluded _ => false
  | _ => true

def Watch.hasCrashed (w : Watch) : Bool :=
  match w.progress with
  | .crashed => true
  | _ => false

namespace Desk

/--
The counts of a desk square with its pool and its watches, where requests answer for `owed` leases and
`returned` of them came back.
-/
structure Squares (p : Policy) (d : Desk) (owed returned : Nat) : Prop where
  leases : d.pool.totalLeases = d.tally.signerSkips.total + d.tally.submitted.total + owed
  skips : d.tally.signerSkips.total = d.tally.signerSkips.count ["insufficient_balance"] +
    d.tally.signerSkips.count ["balance_error"] + d.tally.signerSkips.count ["broadcast_error"]
  returned : d.tally.fundRequests.total = returned
  inFlight : d.tally.fundRequests.count [toString p.chainId.toNat, "in_flight"] =
    d.tally.submitted.total
  submissions : d.tally.submitted.count [toString p.chainId.toNat] = d.tally.submitted.total
  transfers : d.tally.submitted.total = d.tally.confirmations.total + d.watches.countP (·.isOpen)
  latencies : Tally.observations d.tally.latencies = d.tally.confirmations.total

variable {p : Policy} {d e : Desk} {owed returned : Nat}

namespace Squares

theorem fresh (p : Policy) (signers : List Signer) : (Desk.fresh (.ofSigners signers)).Squares p 0 0 :=
  ⟨rfl, rfl, rfl, rfl, rfl, rfl, rfl⟩

theorem congr (h : d.Squares p owed returned) (pool : e.pool = d.pool) (tally : e.tally = d.tally)
    (watches : e.watches = d.watches) : e.Squares p owed returned := by
  constructor
  case leases => rw [pool, tally, h.leases]
  case skips => rw [tally, h.skips]
  case returned => rw [tally, h.returned]
  case inFlight => rw [tally, h.inFlight]
  case submissions => rw [tally, h.submissions]
  case transfers => rw [tally, watches, h.transfers]
  case latencies => rw [tally, h.latencies]

theorem alike (h : d.Squares p owed returned) (same : e.Alike d) : e.Squares p owed returned :=
  h.congr same.pool same.tally same.watches

theorem write (h : d.Squares p owed returned) (line : Entry) : (d.write line).Squares p owed returned :=
  ⟨h.leases, h.skips, h.returned, h.inFlight, h.submissions, h.transfers, h.latencies⟩

theorem release (h : d.Squares p owed returned) (lease : Lease) :
    (d.release lease).Squares p owed returned :=
  ⟨h.leases, h.skips, h.returned, h.inFlight, h.submissions, h.transfers, h.latencies⟩

theorem inquire (h : d.Squares p owed returned) (who : Actor) (q? : Option Query) :
    (d.inquire who q?).Squares p owed returned := by
  cases q? with
  | none => exact h
  | some q => exact h.write _

theorem skip (h : d.Squares p (owed + 1) returned) {reason : String} (named : reason ∈ skipReasons) :
    (d.skip reason).Squares p owed returned where
  leases := by
    have leases := h.leases
    simp only [Desk.skip, Tally.signerSkip, Counter.total_bump]
    omega
  skips := by
    have skips := h.skips
    have apart {other : String} (different : other ≠ reason) :
        (d.tally.signerSkips.bump [reason]).count [other] = d.tally.signerSkips.count [other] :=
      Counter.count_bump_of_ne (by simpa using different)
    simp only [Desk.skip, Tally.signerSkip, Counter.total_bump, skips]
    simp only [skipReasons, List.mem_cons, List.not_mem_nil, or_false] at named
    rcases named with rfl | rfl | rfl
    · rw [Counter.count_bump_self, apart (by decide), apart (by decide)]
      omega
    · rw [Counter.count_bump_self, apart (by decide), apart (by decide)]
      omega
    · rw [Counter.count_bump_self, apart (by decide), apart (by decide)]
      omega
  returned := h.returned
  inFlight := h.inFlight
  submissions := h.submissions
  transfers := h.transfers
  latencies := h.latencies

theorem conclude (h : d.Squares p owed returned) {v : Verdict} (unsent : v.label ≠ "in_flight") :
    (d.conclude p v).1.Squares p owed (returned + 1) where
  leases := h.leases
  skips := h.skips
  returned := by
    simp only [Desk.conclude, Tally.fundRequest, Counter.total_bump, h.returned]
  inFlight := by
    have apart : [toString p.chainId.toNat, "in_flight"] ≠ [toString p.chainId.toNat, v.label] := by
      simpa using unsent.symm
    simp only [Desk.conclude, Tally.fundRequest, Counter.count_bump_of_ne apart, h.inFlight]
  submissions := h.submissions
  transfers := h.transfers
  latencies := h.latencies

theorem fail (h : d.Squares p owed returned) (f : Failure) :
    (d.conclude p (.failed f)).1.Squares p owed (returned + 1) := by
  apply h.conclude
  cases f <;> simp [Verdict.label]

theorem endRound (h : d.Squares p owed returned) (since : Nat) :
    (d.endRound p since).1.Squares p (owed + (d.endRound p since).2.lease?.isSome.toNat)
      (returned + (d.endRound p since).2.hasReturned.toNat) := by
  unfold Desk.endRound
  cases p.terms.maxLeaseWait with
  | none => exact h.write _
  | some limit =>
    dsimp only
    split
    · exact (h.write _).fail _
    · exact h.write _

theorem tryNext (h : d.Squares p owed returned) (since : Nat) (tried : List Address) :
    (d.tryNext p since tried).1.Squares p (owed + (d.tryNext p since tried).2.lease?.isSome.toNat)
      (returned + (d.tryNext p since tried).2.hasReturned.toNat) := by
  unfold Desk.tryNext Desk.lease?
  cases found : d.pool.lease? fun l => !tried.contains l.signer.address with
  | none => exact h.endRound since
  | some granted =>
    obtain ⟨lease, pool⟩ := granted
    obtain ⟨-, -, -, rfl⟩ := Pool.lease?_eq_some found
    have leases := congrArg (· + 1) h.leases
    exact ⟨leases, h.skips, h.returned, h.inFlight, h.submissions, h.transfers, h.latencies⟩

theorem beginRound (h : d.Squares p owed returned) (since : Nat) :
    (d.beginRound p since).1.Squares p (owed + (d.beginRound p since).2.lease?.isSome.toNat)
      (returned + (d.beginRound p since).2.hasReturned.toNat) := by
  unfold Desk.beginRound
  split
  · exact h.fail _
  · exact h.tryNext since []

theorem passGate (h : d.Squares p owed returned) (r : Request) (reply : Reply Word) :
    (d.passGate p r reply).1.Squares p (owed + (d.passGate p r reply).2.lease?.isSome.toNat)
      (returned + (d.passGate p r reply).2.hasReturned.toNat) := by
  unfold Desk.passGate
  cases reply with
  | crash m => exact h
  | failure f => exact h.fail f
  | value balance =>
    dsimp only
    split
    · exact (h.write _).conclude (by simp [Verdict.label])
    · exact h.beginRound d.now

theorem cancel (h : d.Squares p owed returned) (progress : Progress) :
    (d.cancel progress).1.Squares p owed returned := by
  unfold Desk.cancel
  split
  · exact h
  · cases progress.lease? with
    | none => exact h
    | some lease => exact h.release lease

theorem send (h : d.Squares p (owed + 1) returned) (since : Nat) (tried : List Address) (lease : Lease)
    (t : SignedTransfer) (hash : Digest) :
    (d.enact p since tried lease (.sent t hash)).1.Squares p owed (returned + 1) where
  leases := by
    have leases := h.leases
    simp only [Desk.enact, Tally.fundRequest, Tally.transferSubmitted, Pool.modifyFloor,
      Counter.total_bump]
    omega
  skips := h.skips
  returned := by
    simp only [Desk.enact, Tally.fundRequest, Tally.transferSubmitted, Counter.total_bump, h.returned]
  inFlight := by
    simp only [Desk.enact, Tally.fundRequest, Tally.transferSubmitted, Counter.total_bump,
      Counter.count_bump_self, h.inFlight]
  submissions := by
    simp only [Desk.enact, Tally.fundRequest, Tally.transferSubmitted, Counter.total_bump,
      Counter.count_bump_self, h.submissions]
  transfers := by
    have transfers := h.transfers
    have begun : (⟨t.transaction lease hash d.now, lease, .planned⟩ : Watch).isOpen = true := rfl
    simp only [Desk.enact, Tally.fundRequest, Tally.transferSubmitted, Counter.total_bump,
      List.countP_append, List.countP_singleton, begun, if_true]
    omega
  latencies := h.latencies

theorem setWatch (h : d.Squares p owed returned) {number : Nat} {w : Watch}
    (found : d.watches[number]? = some w) (before : w.isOpen = true) {progress : WatchProgress}
    (after : ({ w with progress := progress } : Watch).isOpen = true) :
    (d.setWatch number progress).Squares p owed returned where
  leases := h.leases
  skips := h.skips
  returned := h.returned
  inFlight := h.inFlight
  submissions := h.submissions
  transfers := by
    have counted := Pool.countP_modify (·.isOpen) (fun w : Watch => { w with progress := progress }) found
    rw [before, after] at counted
    exact h.transfers.trans (congrArg _ (Nat.add_right_cancel counted).symm)
  latencies := h.latencies

theorem concludeWatch (h : d.Squares p owed returned) {number : Nat} {w : Watch}
    (found : d.watches[number]? = some w) (before : w.isOpen = true) (line : Entry) (c : Conclusion) :
    ((d.write line).concludeWatch p number w c).Squares p owed returned := by
  have counted := Pool.countP_modify (·.isOpen)
    (fun w : Watch => { w with progress := .concluded c }) found
  have closed : ({ w with progress := .concluded c } : Watch).isOpen = false := rfl
  rw [before, closed] at counted
  have transfers : d.tally.submitted.total =
      (d.tally.confirmations.bump [toString p.chainId.toNat, c.label]).total +
        (d.watches.modify number fun w => { w with progress := .concluded c }).countP (·.isOpen) := by
    have transfers := h.transfers
    rw [Counter.total_bump]
    simp only [Bool.toNat_true, Bool.toNat_false] at counted
    omega
  have latencies (ms : Nat) :
      Tally.observations (Tally.observe d.tally.latencies (toString p.chainId.toNat) ms) =
        (d.tally.confirmations.bump [toString p.chainId.toNat, c.label]).total := by
    rw [Tally.observations_observe, Counter.total_bump, h.latencies]
  cases c with
  | confirmed | reverted | givenUp reason =>
    exact ⟨h.leases, h.skips, h.returned, h.inFlight, h.submissions, transfers, latencies _⟩

/-- Tending a watch keeps the counts square: what it stops holding open, it counts as ended. -/
theorem tends (h : d.Squares p owed returned) {number : Nat} {w : Watch} {event : Event} {d' : Desk}
    (found : d.watches[number]? = some w) (t : d.Tends p number w event d') :
    d'.Squares p owed returned := by
  have opens {since : Nat} (asking : w.progress = .asking since) : w.isOpen = true := by
    unfold Watch.isOpen
    rw [asking]
  cases t with
  | begins planned =>
    refine h.setWatch found ?_ rfl
    unfold Watch.isOpen
    rw [planned]
  | looks sleeping due =>
    refine (h.setWatch found ?_ rfl).write _
    unfold Watch.isOpen
    rw [sleeping]
  | waits asking alike => exact ((h.write _).setWatch found (opens asking) rfl).alike alike
  | breaks m asking => exact ((h.write _).release w.lease).setWatch found (opens asking) rfl
  | concludes c asking => exact h.concludeWatch found (opens asking) _ c

end Squares

variable {number : Nat} {r : Request} {event : Event} {progress : Progress} {out : Desk × Progress}
variable {h : History} {watches : List Watch}

/-- What an attempt turns into squares with what its request then answers for. -/
theorem Squares.enact (squares : d.Squares p (owed + 1) returned) (since : Nat) (tried : List Address)
    (lease : Lease) {turnout : Turnout} {s : Standing}
    (named : ∀ {reason}, turnout = .passedOver reason → reason ∈ skipReasons)
    (after : s.progress = (d.enact p since tried lease turnout).2)
    (grave : ∀ f, s.grave? = some f ↔ turnout = .fails f) :
    (d.enact p since tried lease turnout).1.Squares p (owed + s.weight)
      (returned + s.progress.hasReturned.toNat) := by
  cases turnout with
  | goesOn stage =>
    have holding : s.weight = 1 := by
      unfold Standing.weight Standing.charge?
      rw [after]
      rfl
    rw [holding, after]
    exact squares
  | passedOver reason =>
    have mild : s.grave? = none := by
      apply Option.eq_none_iff_forall_ne_some.mpr
      intro f found
      cases (grave f).mp found
    have sought := tryNext_sought ((d.skip reason).release lease) p since tried
    have sought' : s.progress.Sought since := by
      rw [after]
      exact sought
    rw [weight_of_sought sought' mild, after]
    exact ((squares.skip (named rfl)).release lease).tryNext since tried
  | fails f =>
    have spoiled : s.weight = 1 := by
      unfold Standing.weight Standing.charge?
      rw [after]
      simp [Desk.enact, Desk.conclude, (grave f).mpr rfl]
    rw [spoiled, after]
    exact (squares.release lease).fail f
  | breaks m =>
    have broken : s.weight = 1 := by
      unfold Standing.weight Standing.charge?
      rw [after]
      rfl
    rw [broken, after]
    exact squares.release lease
  | sent t hash =>
    have paid : s.weight = 0 := by
      unfold Standing.weight Standing.charge?
      rw [after]
      rfl
    rw [paid, after]
    exact squares.send since tried lease t hash

theorem Strides.squares {rest : Nat} (strides : d.Strides p number r event progress out)
    (squares : d.Squares p (rest + (h.standing progress).weight) returned)
    (record : Record p r progress h watches) (mild : (h.standing progress).grave? = none) :
    out.1.Squares p (rest + ((h.standing progress).next r (event.told r progress) out.2).weight)
      (returned + out.2.hasReturned.toNat) := by
  cases strides with
  | passes reply =>
    have before : d.Squares p rest returned := squares
    rw [weight_of_passGate rfl (Standing.grave?_next_singleton ..)]
    exact (before.write _).passGate r reply
  | @wakes since wakeAt due =>
    have before : d.Squares p rest returned := squares
    have told : Event.told r (.resting since wakeAt) (.wakeRequest number) = [] := rfl
    rw [told, weight_of_sought (d.beginRound_sought p since) ((Standing.grave?_next_nil ..).trans mild)]
    exact before.beginRound since
  | drops ongoing =>
    have told : Event.told r progress (.cancelRequest number) = [] := rfl
    have weight := record.weight_of_drop ongoing mild
    rw [told, d.cancel_progress ongoing, weight]
    exact squares.cancel progress
  | @turns since tried lease stage q a turnout _ asking admitted decided same =>
    have told : Event.told r (.trying since tried lease stage) (.answerRequest number a) = [(q, a)] := by
      simp [Event.told, asking]
    have grave : ∀ f, (((h.standing (.trying since tried lease stage)).next r [(q, a)] out.2).grave? =
        some f ↔ turnout = .fails f) := by
      intro f
      rw [Standing.grave?_next_singleton]
      exact grave?_iff_fails asking decided f
    have reason {reason : String} (passed : turnout = .passedOver reason) : reason ∈ skipReasons := by
      rw [passed] at decided
      exact Stage.reason_of_passedOver decided
    rw [told]
    have before : d.Squares p (rest + 1) returned := squares
    exact ((before.write _).enact since tried lease reason same.progress grave).alike same.desk

end Desk

namespace Faucet

variable {p : Policy} {f g : Faucet} {e : Event} {number : Nat}

/-- The counts square with how all requests stand. -/
structure Squared (p : Policy) (f : Faucet) : Prop where
  squares : f.desk.Squares p (f.standings.countP (·.charge?.isSome))
    (f.requests.countP (·.2.hasReturned))
  mild : ∀ {number : Nat} {r progress}, f.requests[number]? = some (r, progress) →
    progress.isOver = false → (f.standing number progress).grave? = none

namespace Squared

theorem fresh (p : Policy) (signers : List Signer) : (Faucet.fresh (.ofSigners signers)).Squared p where
  squares := .fresh p signers
  mild impossible := by cases impossible

theorem of_apart (h : f.Squared p) (left : f.Apart g) : g.Squared p where
  squares := by
    rw [standings_congr left.requests left.standing, left.requests]
    exact h.squares.congr left.pool left.tally left.watches
  mild found ongoing := by
    rw [left.requests] at found
    rw [left.standing]
    exact h.mild found ongoing

theorem of_accept (h : f.Squared p) {turns : List (Faucet × Faucet)}
    (recorded : f.Recorded p f.requests.length turns) (r : Request) : (f.accept r).Squared p where
  squares := by
    rw [standings_accept p f r, List.countP_append, accept_eq]
    have squares := h.squares.write (.asked (.request f.requests.length) (.balance r.destination))
    simpa [Progress.hasReturned, standing, Standing.charge?] using squares
  mild := by
    intro number r' progress found ongoing
    have change : Change p f (.request r) (f.accept r) := .accepts r
    rcases f.getElem?_accept found with stays | ⟨rfl, -, rfl⟩
    · obtain ⟨there, -⟩ := List.getElem?_eq_some_iff.mp stays
      have other : f.mover? (.request r) ≠ some number := by
        intro same
        have := Option.some.inj same
        omega
      rw [change.standing_others other]
      exact h.mild stays ongoing
    · have before := recorded.absent (by simp)
      simp only [historyAfter, History.mk.injEq] at before
      obtain ⟨-, silent, -, -⟩ := before
      have answered : answers (f.accept r).desk.journal (.request f.requests.length) = [] := by
        rw [accept_eq]
        exact (answers_asked ..).trans silent
      simp [Standing.grave?, standing, answered]

theorem of_strides (h : f.Squared p) {turns : List (Faucet × Faucet)}
    (recorded : f.Recorded p number turns) {r : Request} {progress : Progress} {out : Desk × Progress}
    (found : f.requests[number]? = some (r, progress)) (s : f.desk.Strides p number r e progress out) :
    (f.put number r out).Squared p where
  squares := by
    have standing : f.standings[number]? = some (f.standing number progress) := by
      rw [getElem?_standings, found]
      rfl
    obtain ⟨owed, before, after⟩ := countP_set (·.charge?.isSome) standing
    obtain ⟨returned, was, becomes⟩ := countP_set (fun entry => entry.2.hasReturned) found
    have unreturned : progress.hasReturned = false := by
      have ongoing := s.ongoing
      cases progress <;> first | rfl | cases ongoing
    have squares := h.squares
    rw [before, was, unreturned] at squares
    rw [standings_put found s, after]
    change (out.1.inquire _ _).Squares p _ ((f.requests.set number (r, out.2)).countP _)
    rw [becomes]
    have strode := s.squares (h := f.historyAfter number turns) squares (recorded.present found)
      (h.mild found s.ongoing)
    exact strode.inquire _ _
  mild := by
    intro k r' after found' ongoing
    obtain ⟨rfl, rfl, rfl⟩ | ⟨elsewhere, stays⟩ := getElem?_put found found'
    · rw [standing_put s]
      exact s.mild (h.mild found s.ongoing) ongoing
    · have other : f.mover? e ≠ some k := by
        rw [mover?_of_strides s]
        exact fun moved => elsewhere (Option.some.inj moved).symm
      rw [(Change.strides found s).standing_others other]
      exact h.mild stays ongoing

theorem of_tends (h : f.Squared p) {w : Watch} {d : Desk} (found : f.desk.watches[number]? = some w)
    (t : f.desk.Tends p number w e d) : ({ f with desk := d } : Faucet).Squared p where
  squares := by
    rw [standings_of_tends t]
    exact h.squares.tends found t
  mild := by
    intro k r progress found' ongoing
    rw [standing_of_tends t]
    exact h.mild found' ongoing

theorem step (h : f.Squared p) (recorded : ∀ number, ∃ turns, f.Recorded p number turns) (e : Event) :
    (f.step p e).Squared p := by
  have changed := f.change_step p e
  generalize f.step p e = g at changed
  cases changed with
  | apart left => exact h.of_apart left
  | accepts r =>
    obtain ⟨turns, here⟩ := recorded f.requests.length
    exact h.of_accept here r
  | @strides number r progress _ out found s =>
    obtain ⟨turns, here⟩ := recorded number
    exact h.of_strides here found s
  | tends found t => exact h.of_tends found t

theorem run (h : f.Squared p) (recorded : ∀ number, ∃ turns, f.Recorded p number turns)
    (events : List Event) : (f.run p events).Squared p := by
  induction events generalizing f with
  | nil => exact h
  | cons e rest ih =>
    apply ih (h.step recorded e)
    intro number
    obtain ⟨turns, here⟩ := recorded number
    exact ⟨_, here.step e⟩

end Squared

theorem countP_isOpen (l : List Watch) :
    l.countP (·.isOpen) = l.countP (·.lease?.isSome) + l.countP (·.hasCrashed) := by
  induction l with
  | nil => rfl
  | cons w rest ih =>
    have one : (if w.isOpen = true then 1 else 0) =
        (if w.lease?.isSome = true then 1 else 0) + (if w.hasCrashed = true then 1 else 0) := by
      unfold Watch.isOpen Watch.lease? Watch.hasCrashed
      cases w.progress <;> rfl
    simp only [List.countP_cons, ih, one]
    omega

/--
The counts account for every lease, request and transfer: leases by what became of them, requests by
whether they came back, and transfers by their watches, which are counted, or go on, or broke down.
-/
structure Balanced (p : Policy) (f : Faucet) : Prop where
  leases : f.desk.pool.totalLeases =
    f.desk.tally.signerSkips.total + f.desk.tally.submitted.total + f.charged .spoiled +
      f.charged .broken + f.charged .dropped + f.charged .holding
  skips : f.desk.tally.signerSkips.total = f.desk.tally.signerSkips.count ["insufficient_balance"] +
    f.desk.tally.signerSkips.count ["balance_error"] + f.desk.tally.signerSkips.count ["broadcast_error"]
  returned : f.desk.tally.fundRequests.total = f.requests.countP (·.2.hasReturned)
  inFlight : f.desk.tally.fundRequests.count [toString p.chainId.toNat, "in_flight"] =
    f.desk.tally.submitted.total
  submissions : f.desk.tally.submitted.count [toString p.chainId.toNat] = f.desk.tally.submitted.total
  transfers : f.desk.tally.submitted.total = f.desk.tally.confirmations.total +
    f.desk.watches.countP (·.lease?.isSome) + f.desk.watches.countP (·.hasCrashed)
  latencies : Tally.observations f.desk.tally.latencies = f.desk.tally.confirmations.total

theorem Squared.balanced (h : f.Squared p) : f.Balanced p := by
  obtain ⟨leases, skips, returned, inFlight, submissions, transfers, latencies⟩ := h.squares
  refine ⟨?_, skips, returned, inFlight, submissions, ?_, latencies⟩
  · rw [countP_charge] at leases
    unfold charged
    omega
  · rw [countP_isOpen] at transfers
    omega

/--
The counts balance in every state of every run, whatever the node answers; and no lease is dropped unless a
caller gives up.
-/
theorem run_balances (signers : List Signer) (p : Policy) (events : List Event) :
    let f := (fresh (.ofSigners signers)).run p events
    f.Balanced p ∧ f.charged .dropped ≤ events.countP (·.cancels) := by
  intro f
  have recorded : ∀ number, ∃ turns, (fresh (.ofSigners signers)).Recorded p number turns := by
    intro number
    refine ⟨[], ?_, ?_⟩
    · intro r progress impossible
      cases impossible
    · intro _
      rfl
  constructor
  · exact ((Squared.fresh p signers).run recorded events).balanced
  · have dropped := (fresh (.ofSigners signers)).dropped_run p events
    have none : (fresh (.ofSigners signers)).charged .dropped = 0 := rfl
    rwa [none, Nat.zero_add] at dropped

end Faucet

end GasFaucet
