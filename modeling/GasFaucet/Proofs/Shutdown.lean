import GasFaucet.Proofs.Schedules
import GasFaucet.Proofs.Watching

/-!
# Shutdown

Once the faucet is stopped no request begins another round.  Whoever is idle by then, or comes in later, is
over with its next stride and leases nobody; whoever is in a round finishes that round, and rests once more
at most.  Watches go on as if nothing had happened, and whoever is served is over in the end.
-/

namespace GasFaucet

/-- Whether a request is between rounds: it waits at its gate or rests. -/
def Progress.isIdle : Progress → Bool
  | gate | resting .. => true
  | _ => false

def Answer.isCrash : Answer → Bool
  | .number (.crash _) | .digest (.crash _) | .mined (.crash _) => true
  | _ => false

/-- How a request that is idle goes on while the faucet stops. -/
inductive Closes (number : Nat) (r : Request) : Event → Progress → Progress → Prop
  | funded {b} : r.cap < b →
      Closes number r (.answerRequest number (.number (.value b))) .gate (.ended (.alreadyFunded b))
  | unknown {f} :
      Closes number r (.answerRequest number (.number (.failure f))) .gate (.ended (.failed f))
  | refused {b} : ¬r.cap < b →
      Closes number r (.answerRequest number (.number (.value b))) .gate (.ended (.failed .shuttingDown))
  | stops {since wakeAt} :
      Closes number r (.wakeRequest number) (.resting since wakeAt) (.ended (.failed .shuttingDown))
  | drops {progress} : progress.isIdle = true → Closes number r (.cancelRequest number) progress .cancelled

/-- How a request goes on in its round, as long as the node does not break down. -/
inductive Desk.Finishes (p : Policy) (number : Nat) (r : Request) (d : Desk) :
    Event → Progress → Progress → Prop
  | advances {since tried lease stage a next} :
      stage.Advances p r lease.signer (d.pool.floor lease.index) a next →
      Finishes p number r d (.answerRequest number a) (.trying since tried lease stage)
        (.trying since tried lease next)
  | leases {since tried lease stage a} {other : Lease} :
      d.pool.signerAt? other.index = some other.signer → other.signer.address ∉ tried →
      Finishes p number r d (.answerRequest number a) (.trying since tried lease stage)
        (.trying since (other.signer.address :: tried) other .balance)
  | sends {since tried lease t hash ticket} :
      Finishes p number r d (.answerRequest number (.digest (.value hash)))
        (.trying since tried lease (.broadcast t)) (.ended (.inFlight ticket))
  | fails {since tried lease stage a f} : f.skipsSigner = false →
      a = .number (.failure f) ∨ a = .digest (.failure f) →
      Finishes p number r d (.answerRequest number a) (.trying since tried lease stage)
        (.ended (.failed f))
  | exhausts {since tried lease stage a limit} : p.terms.maxLeaseWait = some limit →
      limit ≤ d.now - since →
      Finishes p number r d (.answerRequest number a) (.trying since tried lease stage)
        (.ended (.failed (.noSignerAvailable ((d.now - since) / 1000))))
  | rests {since tried lease stage a wakeAt} : d.Naps p since wakeAt →
      Finishes p number r d (.answerRequest number a) (.trying since tried lease stage)
        (.resting since wakeAt)
  | overflows {since tried lease price reported} : (d.pool.floor lease.index).next? reported = none →
      Finishes p number r d (.answerRequest number (.number (.value reported)))
        (.trying since tried lease (.nonce price)) (.crashed overflowMessage (some lease))
  | drops {since tried lease stage} :
      Finishes p number r d (.cancelRequest number) (.trying since tried lease stage) .cancelled

namespace Desk

variable {d : Desk} {p : Policy} {number : Nat} {r : Request} {e : Event} {progress next : Progress}
variable {out : Desk × Progress}

theorem Leads.closes (leads : d.Leads p number r e progress next) (stopping : d.stopped = true)
    (idle : progress.isIdle = true) (calm : ∀ a, e = .answerRequest number a → a.isCrash = false) :
    Closes number r e progress next := by
  cases leads with
  | funded exceeds => exact .funded exceeds
  | unknown => exact .unknown
  | collapses => cases calm _ rfl
  | refused within _ => exact .refused within
  | opens _ running _ | renews _ running _ =>
    rw [stopping] at running
    cases running
  | stops _ _ => exact .stops
  | advances _ | passes _ | sends | fails _ _ | breaks _ => cases idle
  | drops _ => exact .drops idle

theorem Leads.finishes {since : Nat} {tried : List Address} {lease : Lease} {stage : Stage}
    (leads : d.Leads p number r e (.trying since tried lease stage) next)
    (calm : ∀ a, e = .answerRequest number a → a.isCrash = false) :
    d.Finishes p number r e (.trying since tried lease stage) next := by
  cases leads with
  | advances further => exact .advances further
  | passes found =>
    cases found with
    | leases known untried => exact .leases known untried
    | rests naps => exact .rests naps
    | exhausts limited reached => exact .exhausts limited reached
  | sends => exact .sends
  | fails grave reported => exact .fails grave reported
  | breaks breaking =>
    cases breaking with
    | number | digest => cases calm _ rfl
    | overflow exhausted => exact .overflows exhausted
  | drops _ => exact .drops

end Desk

theorem Closes.isOver {number : Nat} {r : Request} {e : Event} {progress next : Progress}
    (h : Closes number r e progress next) : next.isOver = true := by
  cases h <;> rfl

theorem Progress.query?_of_over {progress : Progress} (finished : progress.isOver = true) (r : Request) :
    progress.query? r = none := by
  cases progress with
  | ended _ | crashed _ _ | cancelled => rfl
  | gate | trying _ _ _ _ | resting _ _ => cases finished

theorem Progress.lease?_of_over {progress : Progress} (finished : progress.isOver = true) :
    progress.lease? = none := by
  cases progress with
  | ended _ | crashed _ _ | cancelled => rfl
  | gate | trying _ _ _ _ | resting _ _ => cases finished

theorem Progress.lease?_of_idle {progress : Progress} (idle : progress.isIdle = true) :
    progress.lease? = none := by
  cases progress with
  | gate | resting _ _ => rfl
  | trying _ _ _ _ | ended _ | crashed _ _ | cancelled => cases idle

theorem Desk.Strides.pool_of_stopped {d : Desk} {p : Policy} {number : Nat} {r : Request} {e : Event}
    {progress : Progress} {out : Desk × Progress} (s : d.Strides p number r e progress out)
    (stopping : d.stopped = true) (idle : progress.isIdle = true) : out.1.pool = d.pool := by
  cases s with
  | passes reply =>
    unfold passGate
    cases reply with
    | crash m | failure f => rfl
    | value b =>
      dsimp only
      split
      · rfl
      · unfold beginRound
        rw [show (d.write _).stopped = true from stopping]
        rfl
  | wakes _ =>
    unfold beginRound
    rw [stopping]
    rfl
  | drops _ =>
    unfold cancel
    rw [Progress.lease?_of_idle idle]
    split <;> rfl
  | turns _ _ _ _ => cases idle

namespace Desk

def unstopped (d : Desk) : Desk :=
  { d with stopped := false }

theorem wakeWatch_unstopped (d : Desk) (p : Policy) (number : Nat) :
    d.unstopped.wakeWatch p number = (d.wakeWatch p number).unstopped := by
  unfold wakeWatch
  rw [show d.unstopped.watches = d.watches from rfl, show d.unstopped.now = d.now from rfl]
  cases d.watches[number]? with
  | none => rfl
  | some w =>
    dsimp only
    cases w.progress with
    | sleeping since wakeAt =>
      dsimp only
      split <;> rfl
    | planned | asking _ | concluded _ | crashed => rfl

theorem concludeWatch_unstopped (d : Desk) (p : Policy) (number : Nat) (w : Watch) (c : Conclusion) :
    d.unstopped.concludeWatch p number w c = (d.concludeWatch p number w c).unstopped := by
  cases c <;> rfl

theorem onReceipt_unstopped (d : Desk) (p : Policy) (number : Nat) (reply : Reply Bool) :
    d.unstopped.onReceipt p number reply = (d.onReceipt p number reply).unstopped := by
  unfold onReceipt
  rw [show d.unstopped.watches = d.watches from rfl, show d.unstopped.now = d.now from rfl]
  cases d.watches[number]? with
  | none => rfl
  | some w =>
    dsimp only
    cases w.progress with
    | asking since =>
      cases reply with
      | crash m => rfl
      | value mined =>
        dsimp only
        split
        · exact d.concludeWatch_unstopped p number w _
        · rfl
      | failure f =>
        dsimp only
        split
        · exact d.concludeWatch_unstopped p number w _
        · rfl
    | planned | sleeping _ _ | concluded _ | crashed => rfl

end Desk

namespace Faucet

/-- What has become by moment `k` of a request that was idle at moment `i`. -/
structure Lingers (start : Faucet) (p : Policy) (s : Nat → Event) (number : Nat) (r : Request)
    (progress : Progress) (i k : Nat) : Prop where
  waits_or_over : (start.along p s k).requests[number]? = some (r, progress) ∨
    ∃ j ended, i ≤ j ∧ j < k ∧ Closes number r (s j) progress ended ∧
      (start.along p s k).requests[number]? = some (r, ended)
  silent : asks (start.along p s k).desk.journal (.request number) =
    asks (start.along p s i).desk.journal (.request number)
  leaseless : (start.along p s k).leaseOf? (.request number) = none
  apart : ∀ j, i ≤ j → j < k → (start.along p s j).mover? (s j) = some number →
    (start.along p s (j + 1)).desk.pool = (start.along p s j).desk.pool

/--
How far a request can be at moment `k` that was in a round at moment `m`: still in that round, over with a
stride of it, at its one rest after it, or over from that rest.
-/
inductive Finishing (start : Faucet) (p : Policy) (s : Nat → Event) (number : Nat) (r : Request)
    (since : Nat) (tried : List Address) (m k : Nat) : Progress → Prop
  | tries {tried' lease stage} : tried <:+ tried' →
      Finishing start p s number r since tried m k (.trying since tried' lease stage)
  | ends {j before ended} : m ≤ j → j < k →
      (start.along p s j).desk.Finishes p number r (s j) before ended → ended.isOver = true →
      Finishing start p s number r since tried m k ended
  | rests {j wakeAt} : m ≤ j → j < k → (start.along p s j).desk.Naps p since wakeAt →
      Finishing start p s number r since tried m k (.resting since wakeAt)
  | closes {j i wakeAt ended} : m ≤ j → j < i → i < k → (start.along p s j).desk.Naps p since wakeAt →
      Closes number r (s i) (.resting since wakeAt) ended →
      Finishing start p s number r since tried m k ended

def unstopped (f : Faucet) : Faucet :=
  { f with desk := f.desk.unstopped }

/-- What a request waits for comes, and it is woken when its time has come; unless its caller drops it. -/
structure Served (start : Faucet) (p : Policy) (s : Nat → Event) (number : Nat) : Prop where
  answers : ∀ {i q}, (start.along p s i).query? (.request number) = some q →
    ∃ j, i ≤ j ∧ ((∃ a, s j = .answerRequest number a ∧ q.admits a = true) ∨ s j = .cancelRequest number)
  wakes : ∀ {i wakeAt}, (start.along p s i).wakeAt? (.request number) = some wakeAt →
    ∃ j, i ≤ j ∧ (s j = .wakeRequest number ∧ wakeAt ≤ (start.along p s j).desk.now ∨
      s j = .cancelRequest number)

/-- What holds from the moment `m` on at which a faucet is stopped. -/
structure WindsUp (start : Faucet) (p : Policy) (s : Nat → Event) (m : Nat) : Prop where
  rounds : ∀ {k number r progress out}, m ≤ k → start.Turns p s number r progress k out →
    progress.isIdle = true → out.2.isOver = true
  idle : ∀ {i k number : Nat} {r progress}, m ≤ i → i ≤ k →
    (start.along p s i).requests[number]? = some (r, progress) → progress.isIdle = true →
    start.Lingers p s number r progress i k
  arrives : ∀ {i r}, m ≤ i → s i = .request r →
    (start.along p s (i + 1)).requests[(start.along p s i).requests.length]? = some (r, .gate) ∧
      asks (start.along p s (i + 1)).desk.journal (.request (start.along p s i).requests.length) =
        asks (start.along p s i).desk.journal (.request (start.along p s i).requests.length) ++
          [.balance r.destination]
  busy : ∀ {k number : Nat} {r since tried lease stage}, m ≤ k →
    (start.along p s m).requests[number]? = some (r, .trying since tried lease stage) →
    ∃ progress, (start.along p s k).requests[number]? = some (r, progress) ∧
      start.Finishing p s number r since tried m k progress
  returns : ∀ {i number : Nat} {r progress}, m ≤ i →
    (start.along p s i).requests[number]? = some (r, progress) → start.Served p s number →
    ∃ j ended, i ≤ j ∧ (start.along p s j).requests[number]? = some (r, ended) ∧ ended.isOver = true
  spares : (start.along p s (m + 1)).desk.watches = (start.along p s m).desk.watches ∧
    (start.along p s (m + 1)).desk.pool = (start.along p s m).desk.pool
  heedless : ∀ {k number}, m ≤ k → (s k = .wakeWatch number ∨ ∃ a, s k = .answerWatch number a) →
    (start.along p s (k + 1)).unstopped = (start.along p s k).unstopped.step p (s k)
  settles : ∀ {k number : Nat} {w since reply}, m ≤ k →
    (start.along p s k).desk.watches[number]? = some w → w.progress = .asking since →
    s k = .answerWatch number (.mined reply) →
    (∃ f, reply = .failure f ∧
      Watch.judge p.terms.confirmationTimeout since (start.along p s k).desk.now (.error f) = none) ∨
    ∃ w', (start.along p s (k + 1)).desk.watches[number]? = some w' ∧ w'.report? ≠ none
  releases : ∀ {k number : Nat} {w w'}, m ≤ k → (start.along p s k).desk.watches[number]? = some w →
    w.report? = none → (start.along p s (k + 1)).desk.watches[number]? = some w' → w'.report? ≠ none →
    (start.along p s (k + 1)).desk.pool.isLeased w.lease.index = false

variable {start : Faucet} {p : Policy} {s : Nat → Event} {number m i k : Nat} {r : Request}
variable {progress : Progress} {out : Desk × Progress}

section Idle

variable (halts : s m = .stop) (calm : ∀ k number a, s k = .answerRequest number a → a.isCrash = false)
include halts

theorem stopped_after (later : m < k) : (start.along p s k).desk.stopped = true := by
  apply stopped_along (i := m + 1) later
  obtain ⟨-, stopped⟩ := clock_step p (start.along p s m) (s m)
  rw [along, stopped, halts]
  exact Bool.or_true _

theorem Turns.after_stop (t : start.Turns p s number r progress k out) (later : m ≤ k) : m < k := by
  rcases Nat.eq_or_lt_of_le later with rfl | beyond
  · have strides := t.strides
    rw [halts] at strides
    cases strides
  · exact beyond

include calm

theorem Turns.closes (t : start.Turns p s number r progress k out) (later : m ≤ k)
    (idle : progress.isIdle = true) : Closes number r (s k) progress out.2 :=
  t.strides.leads.closes (stopped_after halts (t.after_stop halts later)) idle
    fun a event => calm k number a event

theorem lingers (later : m ≤ i) (upTo : i ≤ k)
    (found : (start.along p s i).requests[number]? = some (r, progress))
    (idle : progress.isIdle = true) : start.Lingers p s number r progress i k := by
  rcases abides_or_turns found upTo with abides | ⟨j, out, after, before, abides, turns⟩
  · obtain ⟨requests, asks⟩ := abides.same upTo
    have still := requests.trans found
    refine ⟨.inl still, asks, ?_, fun j after before => (abides j after before).pool⟩
    rw [leaseOf?_request still]
    exact Progress.lease?_of_idle idle
  · -- There is one more stride, to the end, and nothing after it.
    have closes := turns.closes halts calm (Nat.le_trans later after) idle
    have ended := turns.found_after
    have rest := abides_of_over ended closes.isOver before
    obtain ⟨requests, asked⟩ := rest.same before
    have still := requests.trans ended
    constructor
    · exact .inr ⟨j, out.2, after, before, closes, still⟩
    · rw [asked, turns.asks_after, Progress.query?_of_over closes.isOver, (abides.same after).2]
      exact List.append_nil _
    · rw [leaseOf?_request still]
      exact Progress.lease?_of_over closes.isOver
    · intro j' from' to'
      rcases Nat.lt_trichotomy j' j with first | rfl | last
      · exact (abides j' from' first).pool
      · intro _
        rw [turns.pool_after]
        have beyond := turns.after_stop halts (Nat.le_trans later after)
        have stopping : (start.along p s j').desk.stopped = true := stopped_after halts beyond
        exact turns.strides.pool_of_stopped stopping idle
      · exact (rest j' last to').pool

theorem finishing {since : Nat} {tried : List Address} {lease : Lease} {stage : Stage} (later : m ≤ k)
    (found : (start.along p s m).requests[number]? = some (r, .trying since tried lease stage)) :
    ∃ progress, (start.along p s k).requests[number]? = some (r, progress) ∧
      start.Finishing p s number r since tried m k progress := by
  induction k, later using Nat.le_induction with
  | base => exact ⟨_, found, .tries (List.suffix_refl tried)⟩
  | succ k later ih =>
    obtain ⟨progress, here, finishing⟩ := ih
    have changed := (start.along p s k).change_step p (s k)
    rcases changed.still_or_strides here with still | ⟨out, strides, result⟩
    · refine ⟨progress, still.requests.trans here, ?_⟩
      cases finishing with
      | tries same => exact .tries same
      | ends after before finishes finished =>
        exact .ends after (Nat.lt_succ_of_lt before) finishes finished
      | rests after before naps => exact .rests after (Nat.lt_succ_of_lt before) naps
      | closes after between before naps closes =>
        exact .closes after between (Nat.lt_succ_of_lt before) naps closes
    · have turns : start.Turns p s number r progress k out := ⟨here, strides, result⟩
      refine ⟨out.2, turns.found_after, ?_⟩
      cases finishing with
      | ends after before finishes finished =>
        rw [strides.ongoing] at finished
        cases finished
      | closes after between before naps closes =>
        have finished := closes.isOver
        rw [strides.ongoing] at finished
        cases finished
      | rests after before naps =>
        exact .closes after before (Nat.lt_succ_self k) naps (turns.closes halts calm later rfl)
      | @tries tried' lease stage same =>
        have finishes := strides.leads.finishes fun a event => calm k number a event
        have ends (finished : out.2.isOver = true) :
            start.Finishing p s number r since tried m (k + 1) out.2 :=
          .ends later (Nat.lt_succ_self k) finishes finished
        generalize out.2 = next at finishes ends
        generalize event : s k = e at finishes
        cases finishes with
        | advances _ => exact .tries same
        | leases _ _ => exact .tries (same.trans (List.suffix_cons _ _))
        | rests naps => exact .rests later (Nat.lt_succ_self k) naps
        | sends | fails _ _ | exhausts _ _ | overflows _ | drops => exact ends rfl

end Idle

section Served

variable (served : start.Served p s number)
include served

theorem Served.turns (found : (start.along p s i).requests[number]? = some (r, progress))
    (ongoing : progress.isOver = false) :
    ∃ k out, i ≤ k ∧ start.Turns p s number r progress k out := by
  cases asking : progress.query? r with
  | some q =>
    obtain ⟨j, later, event⟩ := served.answers ((query?_request found).trans asking)
    have moves : (start.along p s j).requests[number]? = some (r, progress) →
        ∃ out, start.Turns p s number r progress j out := by
      intro there
      rcases event with ⟨a, answered, admitted⟩ | dropped
      · exact turns_of_answer there answered asking admitted
      · exact turns_of_cancel there dropped ongoing
    obtain ⟨k, out, after, -, turns⟩ := exists_turn found later moves
    exact ⟨k, out, after, turns⟩
  | none =>
    obtain ⟨since, wakeAt, rfl⟩ : ∃ since wakeAt, progress = .resting since wakeAt := by
      cases progress with
      | resting since wakeAt => exact ⟨since, wakeAt, rfl⟩
      | trying _ _ _ stage => cases stage <;> cases asking
      | gate => cases asking
      | ended _ | crashed _ _ | cancelled => cases ongoing
    have sleeping : (start.along p s i).wakeAt? (.request number) = some wakeAt := by
      unfold wakeAt?
      simp only [found]
    obtain ⟨j, later, event⟩ := served.wakes sleeping
    have moves : (start.along p s j).requests[number]? = some (r, .resting since wakeAt) →
        ∃ out, start.Turns p s number r (.resting since wakeAt) j out := by
      intro there
      rcases event with ⟨woken, due⟩ | dropped
      · exact turns_of_wake there woken rfl due
      · exact turns_of_cancel there dropped rfl
    obtain ⟨k, out, after, -, turns⟩ := exists_turn found later moves
    exact ⟨k, out, after, turns⟩

variable (halts : s m = .stop) (calm : ∀ k number a, s k = .answerRequest number a → a.isCrash = false)
include halts calm

theorem Served.returns_of_idle (later : m ≤ i)
    (found : (start.along p s i).requests[number]? = some (r, progress)) (idle : progress.isIdle = true) :
    ∃ j ended, i ≤ j ∧ (start.along p s j).requests[number]? = some (r, ended) ∧ ended.isOver = true := by
  have ongoing : progress.isOver = false := by
    cases progress with
    | gate | resting _ _ => rfl
    | trying _ _ _ _ | ended _ | crashed _ _ | cancelled => cases idle
  obtain ⟨k, out, after, turns⟩ := served.turns found ongoing
  have closes := turns.closes halts calm (Nat.le_trans later after) idle
  exact ⟨k + 1, out.2, Nat.le_succ_of_le after, turns.found_after, closes.isOver⟩

/-- A round comes to its end, since it has ever fewer calls to make, and there is no other. -/
theorem Served.returns_of_trying {accounts : List Address} (draws : start.Draws accounts) (calls : Nat)
    {since : Nat} {tried : List Address} {lease : Lease} {stage : Stage} (later : m ≤ i)
    (few : callsLeft accounts tried stage ≤ calls)
    (found : (start.along p s i).requests[number]? = some (r, .trying since tried lease stage)) :
    ∃ j ended, i ≤ j ∧ (start.along p s j).requests[number]? = some (r, ended) ∧ ended.isOver = true := by
  induction calls generalizing i tried lease stage with
  | zero =>
    have := callsLeft_pos accounts tried stage
    omega
  | succ calls ih =>
    obtain ⟨k, out, after, turns⟩ := served.turns found rfl
    have pool := draws.along p s k
    have arrived := turns.found_after
    rcases turns.strides.leads.round (pool.drawn turns.found) pool.belong with
      ⟨tried', lease', next, goesOn, fewer⟩ | ⟨wakeAt, rests, -⟩ | finished
    · rw [goesOn] at arrived
      obtain ⟨j, ended, beyond, there, finished⟩ := ih (by omega) (by omega) arrived
      exact ⟨j, ended, by omega, there, finished⟩
    · rw [rests] at arrived
      obtain ⟨j, ended, beyond, there, finished⟩ :=
        served.returns_of_idle halts calm (by omega) arrived rfl
      exact ⟨j, ended, by omega, there, finished⟩
    · exact ⟨k + 1, out.2, by omega, arrived, finished⟩

theorem Served.returns {accounts : List Address} (draws : start.Draws accounts) (later : m ≤ i)
    (found : (start.along p s i).requests[number]? = some (r, progress)) :
    ∃ j ended, i ≤ j ∧ (start.along p s j).requests[number]? = some (r, ended) ∧ ended.isOver = true := by
  cases progress with
  | gate | resting _ _ => exact served.returns_of_idle halts calm later found rfl
  | trying since tried lease stage =>
    exact served.returns_of_trying halts calm draws _ later (Nat.le_refl _) found
  | ended _ | crashed _ _ | cancelled => exact ⟨i, _, Nat.le_refl i, found, rfl⟩

end Served

section Watches

theorem query?_unstopped (f : Faucet) (who : Actor) : f.unstopped.query? who = f.query? who := by
  cases who <;> rfl

theorem writeQuery_unstopped (f : Faucet) (who : Actor) :
    f.unstopped.writeQuery who = (f.writeQuery who).unstopped := by
  rw [writeQuery_eq, writeQuery_eq, query?_unstopped]
  cases f.query? who <;> rfl

theorem hear?_unstopped (f : Faucet) (who : Actor) (a : Answer) :
    f.unstopped.hear? who a = (f.hear? who a).map unstopped := by
  unfold hear?
  rw [query?_unstopped]
  cases f.query? who with
  | none => rfl
  | some q =>
    dsimp only
    split <;> rfl

theorem wakeWatch_unstopped (f : Faucet) (p : Policy) (number : Nat) :
    f.unstopped.wakeWatch p number = (f.wakeWatch p number).unstopped := by
  unfold wakeWatch
  rw [query?_unstopped]
  cases f.query? (.watch number) with
  | some q => rfl
  | none =>
    dsimp only
    rw [← writeQuery_unstopped]
    unfold unstopped
    rw [Desk.wakeWatch_unstopped]

theorem answerWatch_unstopped (f : Faucet) (p : Policy) (number : Nat) (a : Answer) :
    f.unstopped.answerWatch p number a = (f.answerWatch p number a).unstopped := by
  unfold answerWatch
  rw [hear?_unstopped]
  cases a with
  | number _ | digest _ => rfl
  | mined reply =>
    cases f.hear? (.watch number) (.mined reply) with
    | none => rfl
    | some g =>
      dsimp only [Option.map_some]
      unfold unstopped
      rw [Desk.onReceipt_unstopped]

theorem settles {f : Faucet} {number since : Nat} {w : Watch} {reply : Reply Bool}
    (found : f.desk.watches[number]? = some w) (asking : w.progress = .asking since) (p : Policy) :
    (∃ failure, reply = .failure failure ∧
      Watch.judge p.terms.confirmationTimeout since f.desk.now (.error failure) = none) ∨
    ∃ w', (f.answerWatch p number (.mined reply)).desk.watches[number]? = some w' ∧
      w'.report? ≠ none := by
  have after := getElem?_answerWatch found asking p reply
  unfold WatchProgress.ofReply at after
  cases reply with
  | crash m => exact .inr ⟨_, after, by simp [Watch.report?]⟩
  | value mined =>
    right
    refine ⟨_, after, ?_⟩
    cases mined <;> simp [Watch.report?, Watch.judge, WatchProgress.ofVerdict]
  | failure failure =>
    cases verdict : Watch.judge p.terms.confirmationTimeout since f.desk.now (.error failure) with
    | none => exact .inl ⟨failure, rfl, verdict⟩
    | some c =>
      simp only [verdict] at after
      exact .inr ⟨_, after, by simp [Watch.report?, WatchProgress.ofVerdict]⟩

end Watches

theorem Initial.draws (h : start.Initial) :
    start.Draws (start.desk.pool.slots.map (·.signer.address)) := by
  constructor
  · intro index signer known
    obtain ⟨slot, there, rfl⟩ := Option.map_eq_some_iff.mp known
    exact List.mem_map_of_mem (List.mem_of_getElem? there)
  · intro number r since tried lease stage found
    rw [h.idle] at found
    cases found

/-- A faucet that is stopped winds up, whatever the node and all others do, unless the node breaks down. -/
theorem winds_up (initial : start.Initial) (p : Policy) (halts : s m = .stop)
    (calm : ∀ k number a, s k = .answerRequest number a → a.isCrash = false) : start.WindsUp p s m where
  rounds later turns idle := (turns.closes halts calm later idle).isOver
  idle later upTo found idle := lingers halts calm later upTo found idle
  arrives {i r} later begins := by
    have accepted : start.along p s (i + 1) = (start.along p s i).accept r := by
      rw [along, begins]
      rfl
    rw [accepted, accept_eq]
    exact ⟨List.getElem?_concat_length, asks_asked_self ..⟩
  busy later found := finishing halts calm later found
  returns later found served := served.returns halts calm initial.draws later found
  spares := by
    rw [along, halts]
    exact ⟨rfl, rfl⟩
  heedless {k number} later event := by
    rcases event with wakes | ⟨a, answers⟩
    · rw [along, wakes]
      exact (wakeWatch_unstopped _ p number).symm
    · rw [along, answers]
      exact (answerWatch_unstopped _ p number a).symm
  settles {k number w since reply} later found asking event := by
    rw [along, event]
    exact settles found asking p
  releases {k number w w'} later found unreported after reported := by
    exact (initial.lends_along p s k).releases ((start.along p s k).change_step p (s k)) found unreported
      after reported

section Instances

/-- A signer with too little is passed over after the stop, and its request gets to no other round. -/
def poorSignerSchedule (r : Request) : Nat → Event
  | 0 => .request r
  | 1 | 3 => .answerRequest 0 (.number (.value 0))
  | 2 => .stop
  | 4 => .pass 5000
  | 5 => .wakeRequest 0
  | _ => .pass 0

theorem winds_up_poor_signer :
    let signer : Signer := ⟨.ofKey ⟨1, by decide, by decide⟩, 31337⟩
    let p : Policy := ⟨31337, ⟨none, 1⟩, ⟨5000, 5000, none, none, 7, transferGas⟩⟩
    let start := fresh (.ofSigners [signer])
    let s := poorSignerSchedule ⟨⟨0⟩, 5, 0⟩
    start.Initial ∧ s 2 = .stop ∧
      (∀ k number a, s k = .answerRequest number a → a.isCrash = false) ∧ start.WindsUp p s 2 := by
  intro signer p start s
  have calm : ∀ k number a, s k = .answerRequest number a → a.isCrash = false := by
    intro k number a event
    match k with
    | 0 | 2 | 4 | 5 | _ + 6 => cases event
    | 1 | 3 =>
      cases event
      rfl
  exact ⟨initial_fresh _, rfl, calm, winds_up (initial_fresh _) p rfl calm⟩

/-- The node reports a nonce after the stop, for a signer that has used up the last one. -/
def lastNonceSchedule (r : Request) : Nat → Event
  | 0 => .request r
  | 1 | 4 => .answerRequest 0 (.number (.value 0))
  | 2 => .answerRequest 0 (.number (.value 100))
  | 3 => .stop
  | _ => .pass 0

/--
A round that is finished after the stop may break down although the node never does: the signer has sent a
transfer with the largest nonce, so there is none left to use.
-/
theorem breaks_down_after_last_nonce :
    let signer : Signer := ⟨.ofKey ⟨1, by decide, by decide⟩, 31337⟩
    let p : Policy := ⟨31337, ⟨some 1, 1⟩, ⟨5000, 5000, none, none, 7, transferGas⟩⟩
    let start := fresh ((Pool.ofSigners [signer]).modifyFloor 0 (·.record (BitVec.allOnes 256)))
    let r : Request := ⟨⟨0⟩, 5, 0⟩
    let s := lastNonceSchedule r
    start.Initial ∧ s 3 = .stop ∧
      (∀ k number a, s k = .answerRequest number a → a.isCrash = false) ∧
      (start.along p s 3).requests[0]? =
        some (r, .trying 0 [signer.address] ⟨0, signer⟩ (.nonce 1)) ∧
      (start.along p s 5).requests[0]? = some (r, .crashed overflowMessage (some ⟨0, signer⟩)) := by
  intro signer p start r s
  have calm : ∀ k number a, s k = .answerRequest number a → a.isCrash = false := by
    intro k number a event
    match k with
    | 0 | 3 | _ + 5 => cases event
    | 1 | 2 | 4 =>
      cases event
      rfl
  have initial : start.Initial := ⟨Desk.Lends.modifyFloor (lends_fresh [signer]) 0 _, rfl, rfl⟩
  exact ⟨initial, rfl, calm, rfl, rfl⟩

end Instances

end Faucet

end GasFaucet
