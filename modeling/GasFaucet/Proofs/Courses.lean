import GasFaucet.Proofs.Absorption
import Mathlib.Data.List.Perm.Subperm

/-!
# Courses

How one event can lead a request from one progress to the next.  `Strides.leads` lists all ways: the gate
and a rest end in a refusal or in a search for a signer, depending on whether the faucet stops; an attempt
advances, sends, ends the request or leaves the round to search on; and a search ends in a lease, in
another rest or, once the limit of the wait is reached, in a failure.
-/

namespace GasFaucet

namespace Desk

/-- A rest that begins now: no longer than the interval, and not beyond the limit of the wait. -/
structure Naps (d : Desk) (p : Policy) (since wakeAt : Nat) : Prop where
  short : wakeAt ≤ d.now + p.terms.retryInterval
  bounded : ∀ {limit}, p.terms.maxLeaseWait = some limit → wakeAt ≤ since + limit
  later : 0 < p.terms.retryInterval → d.now < wakeAt

/-- Where a round may get to that looks for a signer it has not tried. -/
inductive Finds (d : Desk) (p : Policy) (since : Nat) (tried : List Address) : Progress → Prop
  | leases {lease : Lease} : d.pool.signerAt? lease.index = some lease.signer →
      lease.signer.address ∉ tried →
      Finds d p since tried (.trying since (lease.signer.address :: tried) lease .balance)
  | rests {wakeAt : Nat} : d.Naps p since wakeAt → Finds d p since tried (.resting since wakeAt)
  | exhausts {limit : Nat} : p.terms.maxLeaseWait = some limit → limit ≤ d.now - since →
      Finds d p since tried (.ended (.failed (.noSignerAvailable ((d.now - since) / 1000))))

variable {d e : Desk} {p : Policy} {since : Nat} {tried : List Address}

theorem endRound_finds (d : Desk) (p : Policy) (since : Nat) (tried : List Address) :
    d.Finds p since tried (d.endRound p since).2 := by
  have retires := d.endRound_retires p since
  generalize (d.endRound p since).2 = next at retires
  cases retires with
  | rests unlimited =>
    apply Finds.rests
    refine ⟨Nat.le_refl _, ?_, by omega⟩
    intro limit impossible
    cases unlimited.symm.trans impossible
  | restsWithin limited within =>
    apply Finds.rests
    refine ⟨by omega, ?_, by omega⟩
    intro limit' same
    obtain rfl := Option.some.inj (limited.symm.trans same)
    omega
  | exhausts limited reached => exact .exhausts limited reached

theorem tryNext_finds (d : Desk) (p : Policy) (since : Nat) (tried : List Address) :
    d.Finds p since tried (d.tryNext p since tried).2 := by
  unfold tryNext Desk.lease?
  cases found : d.pool.lease? fun l => !tried.contains l.signer.address with
  | some granted =>
    obtain ⟨lease, pool⟩ := granted
    obtain ⟨known, -, untried, -⟩ := Pool.lease?_eq_some found
    exact .leases known (by simpa using untried)
  | none => exact d.endRound_finds p since tried

theorem beginRound_finds (running : d.stopped = false) (p : Policy) (since : Nat) :
    d.Finds p since [] (d.beginRound p since).2 := by
  unfold beginRound
  rw [running]
  exact d.tryNext_finds p since []

theorem beginRound_of_stopped (stopping : d.stopped = true) (p : Policy) (since : Nat) :
    (d.beginRound p since).2 = .ended (.failed .shuttingDown) := by
  unfold beginRound
  rw [stopping]
  rfl

theorem Finds.congr {next : Progress} (found : e.Finds p since tried next) (now : e.now = d.now)
    (signer : ∀ index, e.pool.signerAt? index = d.pool.signerAt? index) : d.Finds p since tried next := by
  cases found with
  | leases known untried => exact .leases ((signer _).symm.trans known) untried
  | rests naps =>
    obtain ⟨short, bounded, later⟩ := naps
    rw [now] at short later
    exact .rests ⟨short, bounded, later⟩
  | exhausts limited reached =>
    rw [now] at reached ⊢
    exact .exhausts limited reached

end Desk

/-- What breaks an attempt: an answer, or a signer whose floor is the largest nonce. -/
inductive Stage.Breaking (floor : NonceFloor) : Stage → Answer → String → Prop
  | number {stage m} : Breaking floor stage (.number (.crash m)) m
  | digest {t m} : Breaking floor (.broadcast t) (.digest (.crash m)) m
  | overflow {price reported} : floor.next? reported = none →
      Breaking floor (.nonce price) (.number (.value reported)) overflowMessage

section Attempts

variable {p : Policy} {r : Request} {signer : Signer} {floor : NonceFloor} {stage : Stage} {a : Answer}
variable {m : String}

theorem Stage.breaking_of_breaks (decided : stage.turnout? p r signer floor a = some (.breaks m)) :
    stage.Breaking floor a m := by
  cases Stage.decides decided with
  | collapses _ => exact .number
  | collapsesAtBroadcast => exact .digest
  | overflows exhausted => exact .overflow exhausted

end Attempts

namespace Desk

/-- How an event leads a request from one progress to the next. -/
inductive Leads (p : Policy) (number : Nat) (r : Request) (d : Desk) :
    Event → Progress → Progress → Prop
  | funded {b} : r.cap < b →
      Leads p number r d (.answerRequest number (.number (.value b))) .gate (.ended (.alreadyFunded b))
  | unknown {f} :
      Leads p number r d (.answerRequest number (.number (.failure f))) .gate (.ended (.failed f))
  | collapses {m} :
      Leads p number r d (.answerRequest number (.number (.crash m))) .gate (.crashed m none)
  | refused {b} : ¬r.cap < b → d.stopped = true →
      Leads p number r d (.answerRequest number (.number (.value b))) .gate
        (.ended (.failed .shuttingDown))
  | opens {b next} : ¬r.cap < b → d.stopped = false → d.Finds p d.now [] next →
      Leads p number r d (.answerRequest number (.number (.value b))) .gate next
  | stops {since wakeAt} : wakeAt ≤ d.now → d.stopped = true →
      Leads p number r d (.wakeRequest number) (.resting since wakeAt) (.ended (.failed .shuttingDown))
  | renews {since wakeAt next} : wakeAt ≤ d.now → d.stopped = false → d.Finds p since [] next →
      Leads p number r d (.wakeRequest number) (.resting since wakeAt) next
  | advances {since tried lease stage a next} :
      stage.Advances p r lease.signer (d.pool.floor lease.index) a next →
      Leads p number r d (.answerRequest number a) (.trying since tried lease stage)
        (.trying since tried lease next)
  | passes {since tried lease stage a next} : d.Finds p since tried next →
      Leads p number r d (.answerRequest number a) (.trying since tried lease stage) next
  | sends {since tried lease t hash ticket} :
      Leads p number r d (.answerRequest number (.digest (.value hash)))
        (.trying since tried lease (.broadcast t)) (.ended (.inFlight ticket))
  | fails {since tried lease stage a f} : f.skipsSigner = false →
      a = .number (.failure f) ∨ a = .digest (.failure f) →
      Leads p number r d (.answerRequest number a) (.trying since tried lease stage) (.ended (.failed f))
  | breaks {since tried lease stage a m} : stage.Breaking (d.pool.floor lease.index) a m →
      Leads p number r d (.answerRequest number a) (.trying since tried lease stage)
        (.crashed m (some lease))
  | drops {progress} : progress.isOver = false →
      Leads p number r d (.cancelRequest number) progress .cancelled

variable {d : Desk} {p : Policy} {number : Nat} {r : Request} {e : Event} {progress : Progress}
variable {out : Desk × Progress}

theorem Strides.ongoing (s : d.Strides p number r e progress out) : progress.isOver = false := by
  cases s with
  | passes _ | turns _ _ _ _ | wakes _ => rfl
  | drops ongoing => exact ongoing

theorem passGate_leads (d : Desk) (p : Policy) (number : Nat) (r : Request) (line : Entry)
    (reply : Reply Word) :
    Leads p number r d (.answerRequest number (.number reply)) .gate
      ((d.write line).passGate p r reply).2 := by
  unfold passGate
  cases reply with
  | crash m => exact .collapses
  | failure f => exact .unknown
  | value b =>
    dsimp only
    split
    · rename_i exceeds
      exact .funded exceeds
    · rename_i within
      cases stopping : d.stopped with
      | true =>
        rw [beginRound_of_stopped (d := d.write line) stopping]
        exact .refused within stopping
      | false =>
        have found := beginRound_finds (d := d.write line) stopping p d.now
        exact .opens within stopping (found.congr rfl fun _ => rfl)

/-- Every stride takes one of these ways. -/
theorem Strides.leads (s : d.Strides p number r e progress out) : d.Leads p number r e progress out.2 := by
  cases s with
  | passes reply => exact d.passGate_leads p number r _ reply
  | @wakes since wakeAt due =>
    cases stopping : d.stopped with
    | true =>
      rw [beginRound_of_stopped stopping]
      exact .stops due stopping
    | false => exact .renews due stopping (beginRound_finds stopping p since)
  | drops ongoing =>
    rw [d.cancel_progress ongoing]
    exact .drops ongoing
  | @turns since tried lease stage q a turnout _ asking admitted decided same =>
    rw [same.progress]
    cases turnout with
    | goesOn next => exact .advances (Stage.advances_of_goesOn decided)
    | passedOver reason =>
      have found := tryNext_finds (((d.write (.answered (.request number) q a)).skip reason).release lease)
        p since tried
      exact .passes (found.congr rfl (d.pool.signerAt?_setLeased lease.index · false))
    | fails f =>
      obtain ⟨grave, reported⟩ := Stage.turnout?_fails decided
      exact .fails grave reported
    | breaks m => exact .breaks (Stage.breaking_of_breaks decided)
    | sent t hash =>
      obtain ⟨rfl, rfl⟩ := Stage.turnout?_sent decided
      exact .sends

theorem Leads.event_of_cancelled (leads : d.Leads p number r e progress .cancelled) :
    e = .cancelRequest number := by
  cases leads with
  | opens _ _ found | renews _ _ found | passes found => cases found
  | drops _ => rfl

end Desk

def Stage.rank : Stage → Nat
  | balance => 0
  | gasPrice => 1
  | nonce _ => 2
  | broadcast _ => 3

theorem Stage.rank_lt_four (stage : Stage) : stage.rank < 4 := by
  cases stage <;> simp [rank]

theorem GasPricing.rank_firstStage_pos (g : GasPricing) : 0 < g.firstStage.rank := by
  unfold firstStage
  cases g.fixed with
  | none => exact Nat.zero_lt_one
  | some price => exact Nat.zero_lt_two

theorem Stage.Advances.rank_lt {p : Policy} {r : Request} {signer : Signer} {floor : NonceFloor}
    {stage next : Stage} {a : Answer} (h : stage.Advances p r signer floor a next) :
    stage.rank < next.rank := by
  cases h with
  | funded _ first =>
    rw [first]
    exact p.pricing.rank_firstStage_pos
  | suggested | unsuggested | signed _ _ => exact Nat.lt_succ_self _

/-- The signers that a round has leased, each of them once, among the accounts of the pool. -/
structure Drawn (accounts tried : List Address) : Prop where
  once : tried.Nodup
  known : tried ⊆ accounts

namespace Drawn

variable {accounts tried : List Address} {a : Address}

theorem nil (accounts : List Address) : Drawn accounts [] :=
  ⟨List.nodup_nil, List.nil_subset _⟩

theorem cons (h : Drawn accounts tried) (known : a ∈ accounts) (untried : a ∉ tried) :
    Drawn accounts (a :: tried) :=
  ⟨List.nodup_cons.mpr ⟨untried, h.once⟩, List.cons_subset.mpr ⟨known, h.known⟩⟩

theorem length_le (h : Drawn accounts tried) : tried.length ≤ accounts.length :=
  (List.subperm_of_subset h.once h.known).length_le

end Drawn

def callsLeft (accounts tried : List Address) (stage : Stage) : Nat :=
  4 * (accounts.length - tried.length) + (4 - stage.rank)

theorem callsLeft_pos (accounts tried : List Address) (stage : Stage) :
    0 < callsLeft accounts tried stage := by
  have := stage.rank_lt_four
  unfold callsLeft
  omega

theorem callsLeft_advance {stage next : Stage} (accounts tried : List Address)
    (further : stage.rank < next.rank) :
    callsLeft accounts tried next < callsLeft accounts tried stage := by
  have := next.rank_lt_four
  unfold callsLeft
  omega

theorem callsLeft_lease {accounts tried : List Address} {a : Address} (drawn : Drawn accounts (a :: tried))
    (stage : Stage) :
    callsLeft accounts (a :: tried) .balance < callsLeft accounts tried stage := by
  have leased := drawn.length_le
  have := stage.rank_lt_four
  have first : Stage.rank .balance = 0 := rfl
  unfold callsLeft
  rw [List.length_cons] at leased ⊢
  omega

/-- A round that goes on has fewer calls to make, and one that does not go on rests or is over. -/
theorem Desk.Leads.round {accounts tried : List Address} {d : Desk} {p : Policy} {number since : Nat}
    {r : Request} {e : Event} {lease : Lease} {stage : Stage} {next : Progress}
    (leads : d.Leads p number r e (.trying since tried lease stage) next)
    (drawn : Drawn accounts tried)
    (belong : ∀ {index signer}, d.pool.signerAt? index = some signer → signer.address ∈ accounts) :
    (∃ tried' lease' stage', next = .trying since tried' lease' stage' ∧
      callsLeft accounts tried' stage' < callsLeft accounts tried stage) ∨
    (∃ wakeAt, next = .resting since wakeAt ∧ d.Naps p since wakeAt) ∨ next.isOver = true := by
  cases leads with
  | advances further => exact .inl ⟨_, _, _, rfl, callsLeft_advance accounts tried further.rank_lt⟩
  | passes found =>
    cases found with
    | leases known untried =>
      have drawn' := drawn.cons (belong known) untried
      exact .inl ⟨_, _, _, rfl, callsLeft_lease drawn' stage⟩
    | rests naps => exact .inr (.inl ⟨_, rfl, naps⟩)
    | exhausts _ _ => exact .inr (.inr rfl)
  | sends | fails _ _ | breaks _ | drops _ => exact .inr (.inr rfl)

theorem Desk.Finds.drawn {accounts : List Address} {d : Desk} {p : Policy} {since since' : Nat}
    {tried tried' : List Address} {lease : Lease} {stage : Stage}
    (found : d.Finds p since tried (.trying since' tried' lease stage))
    (drawn : Drawn accounts tried)
    (belong : ∀ {index signer}, d.pool.signerAt? index = some signer → signer.address ∈ accounts) :
    Drawn accounts tried' := by
  cases found with
  | leases known untried => exact drawn.cons (belong known) untried

namespace Faucet

/-- Every round leases signers of these accounts, each of them once. -/
structure Draws (accounts : List Address) (f : Faucet) : Prop where
  belong : ∀ {index signer}, f.desk.pool.signerAt? index = some signer → signer.address ∈ accounts
  drawn : ∀ {number : Nat} {r since tried lease stage},
    f.requests[number]? = some (r, .trying since tried lease stage) → Drawn accounts tried

variable {accounts : List Address} {p : Policy} {f g : Faucet} {e : Event}

theorem Draws.change (h : f.Draws accounts) (c : Change p f e g) : g.Draws accounts := by
  constructor
  · intro index signer known
    rw [c.signer] at known
    exact h.belong known
  · intro number r since tried lease stage found
    rcases c.request found with stays | begins | ⟨before, out, known, s, after⟩
    · exact h.drawn stays
    · cases begins
    · have leads := s.leads
      rw [← after] at leads
      cases leads with
      | opens _ _ found | renews _ _ found => exact found.drawn (.nil accounts) h.belong
      | advances _ => exact h.drawn known
      | passes found => exact found.drawn (h.drawn known) h.belong

end Faucet

end GasFaucet
