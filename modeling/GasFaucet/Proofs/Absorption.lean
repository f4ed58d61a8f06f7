import GasFaucet.Node.Link
import GasFaucet.Proofs.Rounds
import GasFaucet.Proofs.Verdicts
import GasFaucet.Rehearsal

/-!
# Absorption

Behind a link, trouble with a signer never ends a request.  The failures that a link reports are such that
the round goes on: without a gas price of the node it goes on with the fallback, and without a balance, a
nonce, a signature or a taken transfer it goes on with the next signer.  A request fails for want of a
signer, because the faucet stops, or because its destination's balance could not be had in the first place.
-/

namespace GasFaucet

section Link

variable {l : Link} {w : Wire} {q : Query} {f : Failure}

def Link.ask (l : Link) (w : Wire) : Query → Answer
  | .balance account => .number (.ofExcept (l.balanceOf account .latest w).1)
  | .gasPrice => .number (.ofExcept (l.suggestGasPrice w).1)
  | .nonce account => .number (.ofExcept (l.nextNonce account w).1)
  | .broadcast t => .digest (.ofExcept (l.broadcast t w).1)
  | .receipt transaction => .mined (.ofExcept (l.receiptStatus transaction w).1)

theorem Link.ask_eq (l : Link) (w : Wire) (q : Query) : l.ask w q = q.heard (w.next.within l.timeout) := by
  cases q with
  | balance _ | gasPrice | nonce _ | receipt _ => rfl
  | broadcast t =>
    unfold Link.ask Link.broadcast Query.heard Wire.exchange
    dsimp only
    cases heardBroadcast t.sender (w.next.within l.timeout) <;> rfl

theorem Reply.ofExcept_eq_failure {α : Type} {result : Except Failure α}
    (failed : Reply.ofExcept result = .failure f) : result = .error f := by
  cases result with
  | ok a => cases failed
  | error e =>
    obtain rfl := Reply.failure.inj failed
    rfl

theorem heard_eq_error {α : Type} {operation : String} {decode : Json → Option α} {o : Option Outcome}
    (failed : heard operation decode o = .error f) :
    f = .timeout operation ∨ ∃ message, f = .query operation message := by
  cases o with
  | none => exact .inl (Except.error.inj failed).symm
  | some outcome =>
    right
    cases outcome with
    | refusal message => exact ⟨_, (Except.error.inj failed).symm⟩
    | result j =>
      unfold heard at failed
      dsimp only at failed
      split at failed
      · cases failed
      · exact ⟨_, (Except.error.inj failed).symm⟩

theorem heardBroadcast_eq_error {sender : Address} {o : Option Outcome}
    (failed : heardBroadcast sender o = .error f) :
    f = .timeout "broadcast" ∨ ∃ message, f = .broadcast sender.text message := by
  cases o with
  | none => exact .inl (Except.error.inj failed).symm
  | some outcome =>
    right
    cases outcome with
    | refusal message => exact ⟨_, (Except.error.inj failed).symm⟩
    | result j =>
      unfold heardBroadcast at failed
      dsimp only at failed
      split at failed
      · cases failed
      · exact ⟨_, (Except.error.inj failed).symm⟩

theorem Link.ask_balance_failure {account : Address}
    (failed : l.ask w (.balance account) = .number (.failure f)) :
    f = .timeout "balance" ∨ ∃ message, f = .query "balance" message := by
  rw [Link.ask_eq] at failed
  exact heard_eq_error (Reply.ofExcept_eq_failure (Answer.number.inj failed))

/-- Every failure that a link reports of what a leased signer needs is one that skips the signer. -/
theorem Link.skipsSigner_of_ask
    (failed : l.ask w q = .number (.failure f) ∨ l.ask w q = .digest (.failure f)) :
    f.skipsSigner = true := by
  rw [Link.ask_eq] at failed
  cases q with
  | balance _ | gasPrice | nonce _ =>
    rcases failed with number | impossible
    · obtain rfl | ⟨message, rfl⟩ :=
        heard_eq_error (Reply.ofExcept_eq_failure (Answer.number.inj number))
      · rfl
      · rfl
    · cases impossible
  | broadcast t =>
    rcases failed with impossible | digest
    · cases impossible
    · obtain rfl | ⟨message, rfl⟩ :=
        heardBroadcast_eq_error (Reply.ofExcept_eq_failure (Answer.digest.inj digest))
      · rfl
      · rfl
  | receipt _ => rcases failed with impossible | impossible <;> cases impossible

end Link

/-- A step of a leased signer that fails: one that the node answers with a failure, or the signing. -/
inductive Stage.Trouble (p : Policy) (r : Request) (signer : Signer) (floor : NonceFloor) :
    Stage → Answer → Prop
  | balance {f} : Trouble p r signer floor .balance (.number (.failure f))
  | gasPrice {f} : Trouble p r signer floor .gasPrice (.number (.failure f))
  | nonce {price f} : Trouble p r signer floor (.nonce price) (.number (.failure f))
  | signing {price reported nonce f} : floor.next? reported = some nonce →
      signer.sign ⟨r.destination, r.effectiveAmount p.terms, nonce, p.terms.gasLimit, price⟩ = .error f →
      Trouble p r signer floor (.nonce price) (.number (.value reported))
  | broadcast {t f} : Trouble p r signer floor (.broadcast t) (.digest (.failure f))

section Turnouts

variable {p : Policy} {r : Request} {signer : Signer} {floor : NonceFloor} {stage : Stage} {a : Answer}

theorem Turnout.ofFailure_of_skips {f : Failure} (skips : f.skipsSigner = true) :
    Turnout.ofFailure f = .passedOver "broadcast_error" :=
  if_pos skips

theorem Stage.Trouble.turnout (trouble : stage.Trouble p r signer floor a)
    (mild : ∀ f, a = .number (.failure f) ∨ a = .digest (.failure f) → f.skipsSigner = true) :
    (stage = .gasPrice ∧
      stage.turnout? p r signer floor a = some (.goesOn (.nonce p.pricing.fallback))) ∨
    (stage ≠ .gasPrice ∧ ∃ reason, stage.turnout? p r signer floor a = some (.passedOver reason)) := by
  cases trouble with
  | gasPrice => exact .inl ⟨rfl, rfl⟩
  | balance => exact .inr ⟨Stage.noConfusion, _, rfl⟩
  | @nonce price f =>
    have passed := Turnout.ofFailure_of_skips (mild f (.inl rfl))
    exact .inr ⟨Stage.noConfusion, _, congrArg some passed⟩
  | @broadcast t f =>
    have passed := Turnout.ofFailure_of_skips (mild f (.inr rfl))
    exact .inr ⟨Stage.noConfusion, _, congrArg some passed⟩
  | @signing price reported nonce f chosen unsigned =>
    have passed := Turnout.ofFailure_of_skips (Signer.skipsSigner_of_sign unsigned)
    refine .inr ⟨Stage.noConfusion, "broadcast_error", congrArg some ?_⟩
    unfold Turnout.ofNonce
    simp only [chosen, unsigned]
    exact passed

/-- An attempt ends its request only over a failure that does not skip the signer. -/
theorem Stage.turnout?_fails {f : Failure} (decided : stage.turnout? p r signer floor a = some (.fails f)) :
    f.skipsSigner = false ∧ (a = .number (.failure f) ∨ a = .digest (.failure f)) := by
  cases Stage.decides decided with
  | failsAtNonce grave => exact ⟨grave, .inl rfl⟩
  | failsAtBroadcast grave => exact ⟨grave, .inr rfl⟩

end Turnouts

/-- Why a request may have failed: for want of a signer, to shut down, or at its only query. -/
inductive Excused (r : Request) (h : History) : Failure → Prop
  | noSigner {secs} : Excused r h (.noSignerAvailable secs)
  | stopping : Excused r h .shuttingDown
  | unanswered {f} : (f = .timeout "balance" ∨ ∃ message, f = .query "balance" message) →
      h.asked = [.balance r.destination] →
      h.answered = [(.balance r.destination, .number (.failure f))] → h.taken = 0 → Excused r h f

section Turn

variable {d : Desk} {p : Policy} {number : Nat} {r : Request} {e : Event} {progress : Progress}
variable {out : Desk × Progress} {l : Link} {h : History} {f : Failure}

theorem excused_of_beginRound {since : Nat} (failed : (d.beginRound p since).2 = .ended (.failed f)) :
    Excused r h f := by
  rcases d.beginRound_seeks p since with stops | seeks
  · cases stops.symm.trans failed
    exact .stopping
  · obtain ⟨secs, rfl⟩ := seeks.failed failed
    exact .noSigner

theorem Desk.Strides.excused (s : d.Strides p number r e progress out)
    (record : Record p r progress h d.watches)
    (via : ∀ q a, progress.query? r = some q → e = .answerRequest number a → ∃ w, a = l.ask w q)
    (failed : out.2 = .ended (.failed f)) : Excused r (h.extend r (e.told r progress) d out) f := by
  cases s with
  | passes reply =>
    cases reply with
    | crash m => cases failed
    | failure f' =>
      cases failed
      obtain ⟨w, asked⟩ := via (.balance r.destination) _ rfl rfl
      obtain ⟨silent, untaken⟩ := record.fresh rfl
      have opening := record.dialogue Progress.noConfusion
      rw [silent] at opening
      refine .unanswered (Link.ask_balance_failure asked.symm) ?_ ?_ ?_
      · simpa [History.extend, Progress.query?, Desk.passGate, Desk.conclude] using opening
      · simp [History.extend, silent, Event.told, Progress.query?]
      · simp [History.extend, untaken, Desk.passGate, Desk.conclude, Desk.write]
    | value b =>
      unfold Desk.passGate at failed
      dsimp only at failed
      split at failed
      · cases failed
      · exact excused_of_beginRound failed
  | wakes due => exact excused_of_beginRound failed
  | drops ongoing =>
    rw [d.cancel_progress ongoing] at failed
    cases failed
  | @turns since tried lease stage q a turnout _ asking admitted decided same =>
    have turned := same.progress
    rw [failed] at turned
    cases turnout with
    | goesOn _ | breaks _ | sent _ _ => cases turned
    | passedOver reason =>
      obtain ⟨secs, rfl⟩ := (Desk.tryNext_seeks _ p since tried).failed turned.symm
      exact .noSigner
    | fails f' =>
      cases turned
      obtain ⟨w, rfl⟩ := via q a asking rfl
      obtain ⟨grave, failed⟩ := Stage.turnout?_fails decided
      rw [Link.skipsSigner_of_ask failed] at grave
      cases grave

end Turn

/-- What actors are answered in an event is what the link makes of some line to its node. -/
def Event.Via (l : Link) (f : Faucet) (e : Event) : Prop :=
  ∀ who q a, e = Rehearsal.answerEvent who a → f.query? who = some q → ∃ w, a = l.ask w q

namespace Faucet

def Via (l : Link) (p : Policy) : Faucet → List Event → Prop
  | _, [] => True
  | f, e :: events => e.Via l f ∧ Via l p (f.step p e) events

def Excuses (f : Faucet) (number : Nat) (turns : List (Faucet × Faucet)) : Prop :=
  ∀ r failure, f.requests[number]? = some (r, .ended (.failed failure)) →
    Excused r (f.historyAfter number turns) failure

variable {l : Link} {p : Policy} {f : Faucet} {e : Event} {number : Nat}
variable {turns : List (Faucet × Faucet)}

theorem Excuses.step (excuses : f.Excuses number turns) (recorded : f.Recorded p number turns)
    (via : e.Via l f) :
    (f.step p e).Excuses number
      (turns ++ if f.mover? e = some number then [(f, f.step p e)] else []) := by
  have changed := f.change_step p e
  generalize f.step p e = g at changed
  intro r failure found
  split
  · rename_i own
    cases changed with
    | apart left =>
      rw [left.requests] at found
      rw [left.historyAfter]
      exact excuses r failure found
    | accepts r' =>
      obtain rfl := Option.some.inj own
      rcases f.getElem?_accept found with stays | ⟨-, -, impossible⟩
      · simp at stays
      · cases impossible
    | @strides mover r' progress _ out known s =>
      rw [mover?_of_strides s] at own
      obtain rfl := Option.some.inj own
      obtain ⟨-, rfl, after⟩ | ⟨elsewhere, -⟩ := getElem?_put known found
      · rw [historyAfter_put s]
        have answered : ∀ q a, progress.query? r = some q → e = .answerRequest mover a →
            ∃ w, a = l.ask w q := by
          rintro q a asking rfl
          exact via (.request mover) q a rfl ((query?_request known).trans asking)
        exact s.excused (recorded.present known) answered after.symm
      · exact absurd rfl elsewhere
    | tends watched t =>
      rw [mover?_of_tends t] at own
      cases own
  · rename_i other
    rw [List.append_nil, changed.historyAfter_others other]
    obtain ⟨requests, -, -⟩ := changed.others other
    rw [requests] at found
    exact excuses r failure found

theorem Excuses.run {events : List Event} (excuses : f.Excuses number turns)
    (recorded : f.Recorded p number turns) (via : f.Via l p events) :
    (f.run p events).Excuses number (turns ++ f.turns p number events) := by
  induction events generalizing f turns with
  | nil => simpa [Faucet.turns] using excuses
  | cons e rest ih =>
    have after := ih (excuses.step recorded via.1) (recorded.step e) via.2
    rwa [List.append_assoc] at after

/-- How a round goes on from a step of a leased signer that fails. -/
inductive Absorbed (p : Policy) (since : Nat) (tried : List Address) (lease : Lease) (pool : Pool) :
    Stage → Progress → Prop
  | priced : Absorbed p since tried lease pool .gasPrice
      (.trying since tried lease (.nonce p.pricing.fallback))
  | next {stage other} : stage ≠ .gasPrice → pool.isLeased lease.index = false →
      pool.signerAt? other.index = some other.signer → other.signer.address ∉ tried →
      Absorbed p since tried lease pool stage
        (.trying since (other.signer.address :: tried) other .balance)
  | rests {stage wakeAt} : stage ≠ .gasPrice → pool.isLeased lease.index = false →
      (∀ index signer, pool.signerAt? index = some signer → signer.address ∉ tried →
        pool.isLeased index = true) →
      Absorbed p since tried lease pool stage (.resting since wakeAt)
  | exhausts {stage secs} : stage ≠ .gasPrice → pool.isLeased lease.index = false →
      (∀ index signer, pool.signerAt? index = some signer → signer.address ∉ tried →
        pool.isLeased index = true) →
      Absorbed p since tried lease pool stage (.ended (.failed (.noSignerAvailable secs)))

/-- A signer that is passed over is free again when its request goes on, and has had its turn. -/
theorem absorbed_of_passedOver {d : Desk} {since : Nat} {tried : List Address} {lease : Lease}
    {stage : Stage} {reason : String} {out : Desk × Progress}
    (known : d.pool.signerAt? lease.index = some lease.signer) (mark : lease.signer.address ∈ tried)
    (unpriced : stage ≠ .gasPrice)
    (same : Desk.SameTurn out (d.enact p since tried lease (.passedOver reason))) :
    Absorbed p since tried lease out.1.pool stage out.2 := by
  have seeks := ((d.skip reason).release lease).tryNext_seeks p since tried
  have free : (d.pool.setLeased lease.index false).isLeased lease.index = false := by
    rw [Pool.isLeased_setLeased known, if_pos rfl]
  obtain ⟨alike, progress⟩ := same
  rw [alike.pool, progress]
  unfold Desk.enact
  dsimp only
  generalize ((d.skip reason).release lease).tryNext p since tried = sought at seeks
  cases seeks with
  | @leases other e there _ untried pool =>
    have apart : other.index ≠ lease.index := by
      intro place
      have here := (d.pool.signerAt?_setLeased lease.index other.index false).symm.trans there
      rw [place, known] at here
      rw [← Option.some.inj here] at untried
      exact untried mark
    refine .next unpriced ?_ ?_ untried
    · rw [pool]
      change (((d.skip reason).release lease).pool.setLeased other.index true).isLeased
        lease.index = false
      rw [Pool.isLeased_setLeased there, if_neg apart]
      exact free
    · rw [pool]
      exact (Pool.signerAt?_setLeased _ _ _ _).trans there
  | rests pool nobody =>
    refine .rests unpriced ?_ ?_
    · rw [pool]
      exact free
    · rw [pool]
      exact nobody
  | exhausts pool nobody =>
    refine .exhausts unpriced ?_ ?_
    · rw [pool]
      exact free
    · rw [pool]
      exact nobody

theorem step_absorbs (h : f.Lends) (marked : f.Marked) {r : Request} {since : Nat} {tried : List Address}
    {lease : Lease} {stage : Stage} {q : Query} {w : Wire}
    (found : f.requests[number]? = some (r, .trying since tried lease stage))
    (asking : f.query? (.request number) = some q)
    (trouble : stage.Trouble p r lease.signer (f.desk.pool.floor lease.index) (l.ask w q)) :
    ∃ progress,
      (f.step p (.answerRequest number (l.ask w q))).requests[number]? = some (r, progress) ∧
      Absorbed p since tried lease (f.step p (.answerRequest number (l.ask w q))).desk.pool stage
        progress := by
  rw [query?_request found] at asking
  have admitted : q.admits (l.ask w q) = true := by cases q <;> rfl
  obtain ⟨out, s, result⟩ := strides_answerRequest found asking admitted p
  have put : f.step p (.answerRequest number (l.ask w q)) = f.put number r out := result
  have mild : ∀ f, l.ask w q = .number (.failure f) ∨ l.ask w q = .digest (.failure f) →
      f.skipsSigner = true := fun _ failed => Link.skipsSigner_of_ask failed
  rw [put]
  refine ⟨out.2, getElem?_put_self found, ?_⟩
  change Absorbed p since tried lease (out.1.inquire _ _).pool stage out.2
  rw [Desk.inquire_pool]
  rcases trouble.turnout mild with ⟨rfl, decided⟩ | ⟨unpriced, reason, decided⟩
  · obtain ⟨q', -, progress⟩ := s.turned decided
    rw [progress]
    exact .priced
  · obtain ⟨q', same⟩ := s.turned decided
    have mark := marked number r since tried lease stage found
    refine absorbed_of_passedOver ?_ mark unpriced same
    exact h.lent.known (holds_iff.mp (.request found))

/--
Behind a link, a request that fails is excused, and every step of a leased signer that fails is absorbed by
its round.
-/
theorem run_absorbs (signers : List Signer) (p : Policy) (l : Link) {events : List Event}
    (via : (fresh (.ofSigners signers)).Via l p events) :
    let start := fresh (.ofSigners signers)
    let f := start.run p events
    (∀ (number : Nat) r failure, f.requests[number]? = some (r, .ended (.failed failure)) →
      Excused r (start.history p events number) failure) ∧
    ∀ (number : Nat) r since tried lease stage q w,
      f.requests[number]? = some (r, .trying since tried lease stage) →
      f.query? (.request number) = some q →
      stage.Trouble p r lease.signer (f.desk.pool.floor lease.index) (l.ask w q) →
      ∃ progress,
        (f.step p (.answerRequest number (l.ask w q))).requests[number]? = some (r, progress) ∧
        Absorbed p since tried lease (f.step p (.answerRequest number (l.ask w q))).desk.pool stage
          progress := by
  intro start f
  constructor
  · intro number
    have nothing : start.Recorded p number [] := by
      constructor
      · intro r progress impossible
        cases impossible
      · intro _
        rfl
    have excuses : start.Excuses number [] := by
      intro r failure impossible
      cases impossible
    exact excuses.run nothing via
  · intro number r since tried lease stage q w found asking trouble
    have initial : start.Initial := initial_fresh signers
    exact step_absorbs (initial.lends.run p events) (initial.marked.run p events) found asking trouble

/-- A signer with enough goes on to its nonce when the suggestion of a gas price comes too late. -/
theorem run_absorbs_late_gas_price :
    let signer : Signer := ⟨.ofKey ⟨1, by decide, by decide⟩, 31337⟩
    let p : Policy := ⟨31337, ⟨none, 1⟩, ⟨5000, 5000, none, none, 7, transferGas⟩⟩
    let l : Link := ⟨⟨"anvil", 31337, 1, none, 7⟩, "http://localhost:8545", 1000, transferGas, 7⟩
    let r : Request := ⟨⟨0⟩, 5, 0⟩
    let start := fresh (.ofSigners [signer])
    let events := [.request r, .answerRequest 0 (.number (.value 0)),
      .answerRequest 0 (.number (.value 100))]
    let late := l.ask (.fresh [⟨1001, .refusal "late"⟩]) .gasPrice
    start.Via l p events ∧ ∃ progress,
      ((start.run p events).step p (.answerRequest 0 late)).requests[0]? = some (r, progress) ∧
      Absorbed p 0 [signer.address] ⟨0, signer⟩
        ((start.run p events).step p (.answerRequest 0 late)).desk.pool .gasPrice progress := by
  intro signer p l r start events late
  have told (account : Address) {text : String} {number : Word}
      (read : Json.word? (.string text) = some number) :
      .number (.value number) = l.ask (.fresh [⟨0, .result (.string text)⟩]) (.balance account) := by
    rw [Link.ask_eq]
    simp [Wire.next, Wire.fresh, Delivery.within, Query.heard, heard, read, Reply.ofExcept]
  have via : start.Via l p events := by
    refine ⟨?_, ?_, ?_, trivial⟩
    · intro who q a brings _
      cases who <;> cases brings
    · intro who q a brings asking
      cases who with
      | request number =>
        cases brings
        cases asking
        exact ⟨_, told _ (by decide : Json.word? (.string "0x0") = some 0)⟩
      | watch _ | census _ _ => cases brings
    · intro who q a brings asking
      cases who with
      | request number =>
        cases brings
        cases asking
        exact ⟨_, told _ (by decide : Json.word? (.string "0x64") = some 100)⟩
      | watch _ | census _ _ => cases brings
  obtain ⟨-, absorbs⟩ := run_absorbs [signer] p l via
  exact ⟨via, absorbs 0 r 0 [signer.address] ⟨0, signer⟩ .gasPrice .gasPrice _ rfl rfl .gasPrice⟩

end Faucet

end GasFaucet
