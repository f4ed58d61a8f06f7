import GasFaucet.Proofs.Nonces
import GasFaucet.Proofs.Watching

/-!
# Settling a signer

The running faucet lets a watch settle its signer in one go.  Here the end of a watch is taken apart into
the chores that it is made of, and anything else may happen between two of them: requests lease and
release, other watches settle their own signers, time passes.  A watch reports to its handle over a line,
and a caller who waits at the handle returns once there is something on it.

Doing the chores one after the other is what the running faucet does at once (`settled_at_once`), and no
move but counting a conclusion changes what is counted of them.
-/

namespace GasFaucet

/-- How the task of a watch ends: with a conclusion, or because its lookup breaks down. -/
inductive WatchEnd
  | concludes (c : Conclusion)
  | breaks

/-- What a watch leaves on the line to its handle: an outcome, or nothing but the end of the line. -/
inductive Signal
  | outcome (c : Conclusion)
  | hangUp
  deriving DecidableEq

def Signal.conclusion : Signal → Conclusion
  | outcome c => c
  | hangUp => .givenUp "tracker task ended without reporting"

/-- One thing that the task of a watch does at its end. -/
inductive Chore
  | forget
  | count (c : Conclusion)
  | release (progress : WatchProgress)
  | report (signal : Signal)
  deriving DecidableEq

def Chore.counted? : Chore → Option Conclusion
  | count c => some c
  | _ => none

def Chore.signal? : Chore → Option Signal
  | report signal => some signal
  | _ => none

def Chore.leaves (before : WatchProgress) : Chore → WatchProgress
  | release progress => progress
  | _ => before

namespace WatchEnd

def progress : WatchEnd → WatchProgress
  | concludes c => .concluded c
  | breaks => .crashed

def signal : WatchEnd → Signal
  | concludes c => .outcome c
  | breaks => .hangUp

def outcome : WatchEnd → Conclusion
  | concludes c => c
  | breaks => .givenUp "tracker task ended without reporting"

def gaveUp : WatchEnd → Bool
  | concludes (.givenUp _) => true
  | _ => false

def counted : WatchEnd → List Conclusion
  | concludes c => [c]
  | breaks => []

def preparations : WatchEnd → List Chore
  | concludes (.givenUp reason) => [.forget, .count (.givenUp reason)]
  | concludes c => [.count c]
  | breaks => []

/--
All that is done, in order.  A task that breaks down lets go of what it owns in the order in which it
took it, the lease before its side of the handle.
-/
def chores (e : WatchEnd) : List Chore :=
  e.preparations ++ [.release e.progress, .report e.signal]

theorem report?_progress (e : WatchEnd) (w : Watch) :
    Watch.report? { w with progress := e.progress } = some e.outcome := by
  cases e <;> rfl

theorem conclusion_signal (e : WatchEnd) : e.signal.conclusion = e.outcome := by
  cases e <;> rfl

theorem progress_ne_asking (e : WatchEnd) (since : Nat) : e.progress ≠ .asking since := by
  cases e <;> exact WatchProgress.noConfusion

theorem release_notMem_preparations (e : WatchEnd) (progress : WatchProgress) :
    .release progress ∉ e.preparations := by
  rcases e with (_ | _ | _) | _ <;> simp [preparations]

theorem signal?_of_mem_preparations {e : WatchEnd} {c : Chore} (member : c ∈ e.preparations) :
    c.signal? = none := by
  cases c with
  | report signal => rcases e with (_ | _ | _) | _ <;> simp [preparations] at member
  | forget | count _ | release _ => rfl

theorem forget_mem_preparations (e : WatchEnd) : .forget ∈ e.preparations ↔ e.gaveUp = true := by
  rcases e with (_ | _ | _) | _ <;> simp [preparations, gaveUp]

theorem filterMap_preparations (e : WatchEnd) :
    e.preparations.filterMap Chore.counted? = e.counted := by
  rcases e with (_ | _ | _) | _ <;> rfl

end WatchEnd

/-- What the reply to a lookup means for a watch: its end, or another wait. -/
def Watch.ending? (p : Policy) (since now : Nat) : Reply Bool → Option WatchEnd
  | .crash _ => some .breaks
  | .value mined =>
      (Watch.judge p.terms.confirmationTimeout since now (.ok mined)).map .concludes
  | .failure f =>
      (Watch.judge p.terms.confirmationTimeout since now (.error f)).map .concludes

theorem WatchProgress.ofReply_eq (p : Policy) (since now : Nat) (reply : Reply Bool) :
    WatchProgress.ofReply p since now reply =
      match Watch.ending? p since now reply with
      | some e => e.progress
      | none => .sleeping since (now + p.terms.pollInterval) := by
  unfold WatchProgress.ofReply Watch.ending?
  cases reply with
  | crash m => rfl
  | value mined =>
    dsimp only
    cases Watch.judge p.terms.confirmationTimeout since now (.ok mined) <;> rfl
  | failure f =>
    dsimp only
    cases Watch.judge p.terms.confirmationTimeout since now (.error f) <;> rfl

namespace Desk

/--
What one chore does to the desk; `elapsed` is how long the transfer took.  A report goes to the handle
and leaves the desk alone.
-/
def perform (d : Desk) (p : Policy) (number : Nat) (w : Watch) (elapsed : Nat) : Chore → Desk
  | .forget => { d with pool := d.pool.modifyFloor w.lease.index fun _ => .clear }
  | .count c =>
      let d := d.note (concludingNotice w.transaction elapsed c)
      { d with tally := d.tally.confirmation p.chainId c.label elapsed }
  | .release progress => (d.release w.lease).setWatch number progress
  | .report _ => d

/-- The chores of an ending make what the answer to the lookup makes at once. -/
theorem foldl_perform_chores {d : Desk} {p : Policy} {number since : Nat} {w : Watch}
    {reply : Reply Bool} {e : WatchEnd} (found : d.watches[number]? = some w)
    (asking : w.progress = .asking since) (ends : Watch.ending? p since d.now reply = some e) :
    e.chores.foldl (fun desk => desk.perform p number w (d.now - w.transaction.submittedAt)) d =
      d.onReceipt p number reply := by
  unfold onReceipt
  simp only [found, asking]
  cases reply with
  | crash m =>
    cases ends
    rfl
  | value mined =>
    obtain ⟨c, judged, rfl⟩ := Option.map_eq_some_iff.mp ends
    simp only [judged]
    cases c <;> rfl
  | failure f =>
    obtain ⟨c, judged, rfl⟩ := Option.map_eq_some_iff.mp ends
    simp only [judged]
    cases c <;> rfl

end Desk

/-- A settlement under way: what was done of the chores of its ending, and what is left. -/
structure Settlement where
  ending : WatchEnd
  elapsed : Nat
  done : List Chore
  left : List Chore

def Settlement.begin (e : WatchEnd) (elapsed : Nat) : Settlement :=
  ⟨e, elapsed, [], e.chores⟩

def Settlement.advance (st : Settlement) (c : Chore) (left : List Chore) : Settlement :=
  { st with done := st.done ++ [c], left := left }

def Faucet.settlement? (p : Policy) (f : Faucet) (number : Nat) : Answer → Option Settlement
  | .mined reply =>
      match f.desk.watches[number]? with
      | some ⟨transaction, _, .asking since⟩ =>
          (Watch.ending? p since f.desk.now reply).map fun e =>
            .begin e (f.desk.now - transaction.submittedAt)
      | _ => none
  | _ => none

/-- What became of the handle through which a caller may learn the end of a watch. -/
inductive Handle
  | held
  | dropped
  | returned (c : Conclusion)

/--
A running faucet with the settlements that its watches have begun, what they have put on the lines to
their handles, and the handles.
-/
structure Office where
  faucet : Faucet
  settling : Nat → Option Settlement
  line : Nat → Option Signal
  handle : Nat → Handle

/-- What may happen in an office; all but `event` name a watch. -/
inductive Office.Move
  | event (e : Event)
  | chore (number : Nat)
  | drop (number : Nat)
  | wait (number : Nat)

/-- Whether a move is more than a caller's dealing with a handle. -/
def Office.Move.isWork : Office.Move → Bool
  | event _ | chore _ => true
  | drop _ | wait _ => false

namespace Office

def opened (f : Faucet) : Office :=
  ⟨f, fun _ => none, fun _ => none, fun _ => .held⟩

/-- The answer to a lookup begins a settlement where it ends the watch; a watch that settles has no lookup. -/
def answer (p : Policy) (s : Office) (number : Nat) (a : Answer) : Office :=
  match s.settling number with
  | some _ => s
  | none =>
      match s.faucet.settlement? p number a, s.faucet.hear? (.watch number) a with
      | some st, some f =>
          { s with faucet := f, settling := Function.update s.settling number (some st) }
      | _, _ => { s with faucet := s.faucet.step p (.answerWatch number a) }

def happen (p : Policy) (s : Office) : Event → Office
  | .answerWatch number a => s.answer p number a
  | e => { s with faucet := s.faucet.step p e }

/-- The next chore of a settlement is done.  A line carries the first signal that is put on it. -/
def settle (p : Policy) (s : Office) (number : Nat) : Office :=
  match s.settling number, s.faucet.desk.watches[number]? with
  | some ⟨ending, elapsed, done, c :: left⟩, some w =>
      { s with
        faucet := { s.faucet with desk := s.faucet.desk.perform p number w elapsed c }
        settling := Function.update s.settling number (some ⟨ending, elapsed, done ++ [c], left⟩)
        line := Function.update s.line number ((s.line number).or c.signal?) }
  | _, _ => s

/-- What a move makes of an office.  To wait at a handle returns what is on its line, if anything is. -/
def step (p : Policy) (s : Office) : Move → Office
  | .event e => s.happen p e
  | .chore number => s.settle p number
  | .drop number =>
      match s.handle number with
      | .held => { s with handle := Function.update s.handle number .dropped }
      | _ => s
  | .wait number =>
      match s.handle number, s.line number with
      | .held, some signal =>
          { s with handle := Function.update s.handle number (.returned signal.conclusion) }
      | _, _ => s

def run (p : Policy) (s : Office) (moves : List Move) : Office :=
  moves.foldl (step p) s

theorem run_append (p : Policy) (s : Office) (moves more : List Move) :
    s.run p (moves ++ more) = (s.run p moves).run p more :=
  List.foldl_append

end Office

/-! ## What is counted of conclusions -/

namespace Desk

variable (d : Desk) (p : Policy) (since : Nat)

theorem confirmations_endRound :
    (d.endRound p since).1.tally.confirmations = d.tally.confirmations := by
  unfold endRound
  cases p.terms.maxLeaseWait with
  | none => rfl
  | some limit =>
    dsimp only
    split <;> rfl

theorem confirmations_tryNext (tried : List Address) :
    (d.tryNext p since tried).1.tally.confirmations = d.tally.confirmations := by
  unfold tryNext Desk.lease?
  cases d.pool.lease? fun l => !tried.contains l.signer.address with
  | none => exact d.confirmations_endRound p since
  | some granted => rfl

theorem confirmations_beginRound :
    (d.beginRound p since).1.tally.confirmations = d.tally.confirmations := by
  unfold beginRound
  split
  · rfl
  · exact d.confirmations_tryNext p since []

theorem confirmations_passGate (r : Request) (reply : Reply Word) :
    (d.passGate p r reply).1.tally.confirmations = d.tally.confirmations := by
  unfold passGate
  cases reply with
  | crash m => rfl
  | failure f => rfl
  | value balance =>
    dsimp only
    split
    · rfl
    · exact d.confirmations_beginRound p d.now

theorem confirmations_cancel (progress : Progress) :
    (d.cancel progress).1.tally.confirmations = d.tally.confirmations := by
  unfold cancel
  split
  · rfl
  · cases progress.lease? <;> rfl

theorem confirmations_enact (tried : List Address) (lease : Lease) (turnout : Turnout) :
    (d.enact p since tried lease turnout).1.tally.confirmations = d.tally.confirmations := by
  cases turnout with
  | passedOver reason => exact confirmations_tryNext _ p since tried
  | goesOn _ | fails _ | breaks _ | sent _ _ => rfl

variable {d p}

theorem Strides.confirmations {number : Nat} {r : Request} {e : Event} {progress : Progress}
    {out : Desk × Progress} (s : d.Strides p number r e progress out) :
    out.1.tally.confirmations = d.tally.confirmations := by
  cases s with
  | passes reply => exact confirmations_passGate _ p r reply
  | wakes _ => exact d.confirmations_beginRound p _
  | drops _ => exact d.confirmations_cancel progress
  | turns _ _ _ same =>
    rw [same.desk.tally]
    exact confirmations_enact _ p _ _ _ _

theorem confirmations_perform (number : Nat) (w : Watch) (elapsed : Nat) (c : Chore) :
    (d.perform p number w elapsed c).tally.confirmations =
      match c.counted? with
      | some c => d.tally.confirmations.bump [toString p.chainId.toNat, c.label]
      | none => d.tally.confirmations := by
  cases c <;> rfl

end Desk

/-! ## Events that end no watch -/

namespace Faucet

variable {f g : Faucet} {p : Policy} {e : Event} {k : Nat} {w : Watch}

def Endless (f g : Faucet) : Prop :=
  ∀ (k : Nat) (w : Watch), f.desk.watches[k]? = some w → w.report? = none →
    ∃ progress, g.desk.watches[k]? = some { w with progress := progress } ∧
      Watch.report? { w with progress := progress } = none

theorem settlement?_of_asking {since : Nat} (found : f.desk.watches[k]? = some w)
    (asking : w.progress = .asking since) (p : Policy) (reply : Reply Bool) :
    f.settlement? p k (.mined reply) =
      (Watch.ending? p since f.desk.now reply).map fun e =>
        .begin e (f.desk.now - w.transaction.submittedAt) := by
  obtain ⟨transaction, lease, progress⟩ := w
  cases asking
  simp only [settlement?, found]

theorem settlement?_eq_some {a : Answer} {st : Settlement}
    (begins : f.settlement? p k a = some st) :
    ∃ reply w since e, a = .mined reply ∧ f.desk.watches[k]? = some w ∧
      w.progress = .asking since ∧ Watch.ending? p since f.desk.now reply = some e ∧
      st = .begin e (f.desk.now - w.transaction.submittedAt) := by
  cases a with
  | number _ | digest _ => cases begins
  | mined reply =>
    cases found : f.desk.watches[k]? with
    | none => simp [settlement?, found] at begins
    | some w =>
      obtain ⟨transaction, lease, progress⟩ := w
      cases progress with
      | asking since =>
        rw [settlement?_of_asking found rfl] at begins
        obtain ⟨e, ends, rfl⟩ := Option.map_eq_some_iff.mp begins
        exact ⟨reply, _, since, e, rfl, rfl, rfl, ends, rfl⟩
      | planned | sleeping _ _ | concluded _ | crashed => simp [settlement?, found] at begins

theorem hear?_of_asking {since : Nat} (found : f.desk.watches[k]? = some w)
    (asking : w.progress = .asking since) (reply : Reply Bool) :
    f.hear? (.watch k) (.mined reply) = some { f with
      desk := f.desk.write
        (.answered (.watch k) (.receipt w.transaction.hash) (.mined reply)) } := by
  have waits : w.query? = some (.receipt w.transaction.hash) := by
    unfold Watch.query?
    rw [asking]
  unfold hear?
  rw [query?_watch found, waits]
  rfl

theorem endless_step (undecided : ∀ k a, e = .answerWatch k a → f.settlement? p k a = none) :
    f.Endless (f.step p e) := by
  intro k w found unreported
  by_cases answered : ∃ a, e = .answerWatch k a
  · obtain ⟨a, rfl⟩ := answered
    have waits := undecided k a rfl
    rcases (f.change_step p (.answerWatch k a)).watch found with ⟨same, -⟩ | ⟨d, t, -⟩
    · exact ⟨w.progress, same, unreported⟩
    · obtain ⟨reply, since, rfl, asking⟩ : ∃ reply since, a = .mined reply ∧
          w.progress = .asking since := by
        cases t with
        | waits asking _ | breaks _ asking | concludes _ asking => exact ⟨_, _, rfl, asking⟩
      rw [settlement?_of_asking found asking] at waits
      refine ⟨_, getElem?_answerWatch found asking p reply, ?_⟩
      rw [WatchProgress.ofReply_eq, Option.map_eq_none_iff.mp waits]
      rfl
  · apply (f.change_step p e).watch_unanswered found unreported
    exact fun a same => answered ⟨a, same⟩

theorem Change.confirmations (c : Change p f e g) (endless : f.Endless g) :
    g.desk.tally.confirmations = f.desk.tally.confirmations := by
  cases c with
  | apart left => rw [left.tally]
  | accepts r =>
    rw [accept_eq]
    rfl
  | strides _ s =>
    unfold put
    rw [Desk.inquire_tally]
    exact s.confirmations
  | @tends number w _ d found t =>
    obtain ⟨progress, after, silent⟩ := endless number w found t.unreported
    cases t with
    | begins _ | looks _ _ => rfl
    | waits _ alike =>
      rw [alike.tally]
      rfl
    | breaks m _ =>
      cases after.symm.trans (getElem?_setWatch found .crashed)
      cases silent
    | concludes conclusion _ =>
      cases after.symm.trans (getElem?_concludeWatch found _ p conclusion)
      cases silent

/-- Nobody but its holder moves the floor of a signer that a watch keeps on lease. -/
theorem floor_step_of_endless (h : f.Lends) (found : f.desk.watches[k]? = some w)
    (unreported : w.report? = none) (endless : f.Endless (f.step p e)) :
    (f.step p e).desk.pool.floor w.lease.index = f.desk.pool.floor w.lease.index := by
  apply floor_step_unmarked h
  have mine : f.leaseOf? (.watch k) = some w.lease := holds_iff.mp (.watch found unreported)
  cases marked : f.mark? p w.lease.index e with
  | none => rfl
  | some mark =>
    cases mark with
    | sent nonce =>
      obtain ⟨other, hash, r, since, tried, lease, t, rfl, sends, place, -⟩ := mark?_eq_sent marked
      have theirs : f.leaseOf? (.request other) = some lease := holds_iff.mp (.request sends)
      cases h.lent.exclusive theirs mine place
    | gaveUp =>
      obtain ⟨other, a, before, after, rfl, watched, ended, -, silent, gaveUp⟩ :=
        mark?_eq_gaveUp marked
      obtain ⟨progress, still, quiet⟩ := endless other before watched silent
      cases ended.symm.trans still
      exact absurd quiet (Watch.report?_of_gaveUp gaveUp)

/-- A watch that waits for the node or has ended stays as it is while its lookup is not answered. -/
theorem Change.watch_kept (c : Change p f e g) (found : f.desk.watches[k]? = some w)
    (busy : ∀ wakeAt since, w.progress ≠ .planned ∧ w.progress ≠ .sleeping since wakeAt)
    (unanswered : ∀ a, e ≠ .answerWatch k a) : g.desk.watches[k]? = some w := by
  rcases c.watch found with ⟨same, -⟩ | ⟨d, t, rfl⟩
  · exact same
  · cases t with
    | begins planned => exact absurd planned (busy 0 0).1
    | looks sleeping _ => exact absurd sleeping (busy _ _).2
    | waits _ _ | breaks _ _ | concludes _ _ => exact absurd rfl (unanswered _)

end Faucet

namespace Office

/-! ## Moves -/

def deeds (s : Office) (k : Nat) : List Chore :=
  match s.settling k with
  | some st => st.done
  | none => []

def perform (s : Office) (p : Policy) (k : Nat) (w : Watch) (st : Settlement) (c : Chore)
    (left : List Chore) : Office :=
  { s with
    faucet := { s.faucet with desk := s.faucet.desk.perform p k w st.elapsed c }
    settling := Function.update s.settling k (some (st.advance c left))
    line := Function.update s.line k ((s.line k).or c.signal?) }

def begin (s : Office) (k : Nat) (w : Watch) (reply : Reply Bool) (e : WatchEnd) : Office :=
  { s with
    faucet := { s.faucet with
      desk := s.faucet.desk.write
        (.answered (.watch k) (.receipt w.transaction.hash) (.mined reply)) }
    settling := Function.update s.settling k
      (some (.begin e (s.faucet.desk.now - w.transaction.submittedAt))) }

section

variable (s : Office) (p : Policy) (k : Nat) (w : Watch)

theorem settling_perform (st : Settlement) (c : Chore) (left : List Chore) :
    (s.perform p k w st c left).settling k = some (st.advance c left) :=
  Function.update_self ..

theorem settling_perform_of_ne {j : Nat} (other : j ≠ k) (st : Settlement) (c : Chore)
    (left : List Chore) : (s.perform p k w st c left).settling j = s.settling j :=
  Function.update_of_ne other ..

theorem line_perform (st : Settlement) (c : Chore) (left : List Chore) :
    (s.perform p k w st c left).line k = (s.line k).or c.signal? :=
  Function.update_self ..

theorem line_perform_of_ne {j : Nat} (other : j ≠ k) (st : Settlement) (c : Chore)
    (left : List Chore) : (s.perform p k w st c left).line j = s.line j :=
  Function.update_of_ne other ..

theorem settling_begin (reply : Reply Bool) (e : WatchEnd) :
    (s.begin k w reply e).settling k =
      some (.begin e (s.faucet.desk.now - w.transaction.submittedAt)) :=
  Function.update_self ..

theorem settling_begin_of_ne {j : Nat} (other : j ≠ k) (reply : Reply Bool) (e : WatchEnd) :
    (s.begin k w reply e).settling j = s.settling j :=
  Function.update_of_ne other ..

end

inductive Moves (p : Policy) (s : Office) : Move → Office → Prop
  | idles {m} : Moves p s m s
  | goes {e} : (∀ k a, e = .answerWatch k a → s.settling k = none) →
      s.faucet.Endless (s.faucet.step p e) →
      Moves p s (.event e) { s with faucet := s.faucet.step p e }
  | ends {k reply w since e} : s.settling k = none → s.faucet.desk.watches[k]? = some w →
      w.progress = .asking since → Watch.ending? p since s.faucet.desk.now reply = some e →
      Moves p s (.event (.answerWatch k (.mined reply))) (s.begin k w reply e)
  | settles {k w st c left} : s.settling k = some st → st.left = c :: left →
      s.faucet.desk.watches[k]? = some w → Moves p s (.chore k) (s.perform p k w st c left)
  | drops {k} : s.handle k = .held →
      Moves p s (.drop k) { s with handle := Function.update s.handle k .dropped }
  | returns {k signal} : s.handle k = .held → s.line k = some signal → Moves p s (.wait k)
      { s with handle := Function.update s.handle k (.returned signal.conclusion) }

theorem moves_answer (p : Policy) (s : Office) (k : Nat) (a : Answer) :
    s.Moves p (.event (.answerWatch k a)) (s.answer p k a) := by
  unfold answer
  cases busy : s.settling k with
  | some st => exact .idles
  | none =>
    dsimp only
    cases begins : s.faucet.settlement? p k a with
    | none =>
      refine .goes ?_ (Faucet.endless_step ?_)
      · rintro _ _ ⟨⟩
        exact busy
      · rintro _ _ ⟨⟩
        exact begins
    | some st =>
      obtain ⟨reply, w, since, e, rfl, found, asking, ends, rfl⟩ :=
        Faucet.settlement?_eq_some begins
      rw [Faucet.hear?_of_asking found asking]
      exact .ends busy found asking ends

theorem moves_step (p : Policy) (s : Office) (m : Move) : s.Moves p m (s.step p m) := by
  cases m with
  | event e =>
    cases e with
    | answerWatch k a => exact moves_answer p s k a
    | _ => exact .goes (by rintro _ _ ⟨⟩) (Faucet.endless_step (by rintro _ _ ⟨⟩))
  | chore k =>
    change s.Moves p (.chore k) (s.settle p k)
    unfold settle
    split
    · exact .settles ‹_› rfl ‹_›
    · exact .idles
  | drop k =>
    unfold step
    dsimp only
    split
    · exact .drops ‹_›
    · exact .idles
  | wait k =>
    unfold step
    dsimp only
    split
    · exact .returns ‹_› ‹_›
    · exact .idles

/-! ## Settling at once -/

theorem step_chore {p : Policy} {s : Office} {k : Nat} {st : Settlement} {w : Watch} {c : Chore}
    {left : List Chore} (settling : s.settling k = some st) (next : st.left = c :: left)
    (found : s.faucet.desk.watches[k]? = some w) :
    s.step p (.chore k) = s.perform p k w st c left := by
  obtain ⟨ending, elapsed, done, _⟩ := st
  subst next
  change s.settle p k = _
  simp only [settle, settling, found]
  rfl

theorem step_chore_of_none {p : Policy} {s : Office} {k : Nat} (idle : s.settling k = none) :
    s.step p (.chore k) = s := by
  change s.settle p k = s
  simp [settle, idle]

theorem step_chore_of_finished {p : Policy} {s : Office} {k : Nat} {st : Settlement}
    (settling : s.settling k = some st) (finished : st.left = []) : s.step p (.chore k) = s := by
  obtain ⟨_, _, _, _⟩ := st
  subst finished
  change s.settle p k = s
  simp [settle, settling]

theorem getElem?_perform {d : Desk} {k : Nat} {w : Watch} (found : d.watches[k]? = some w)
    (p : Policy) (elapsed : Nat) (c : Chore) :
    (d.perform p k w elapsed c).watches[k]? = some { w with progress := c.leaves w.progress } := by
  cases c with
  | release progress => exact Faucet.getElem?_setWatch found progress
  | forget | count _ | report _ => exact found

theorem perform_progress (d : Desk) (p : Policy) (k : Nat) (w : Watch) (progress : WatchProgress)
    (elapsed : Nat) (c : Chore) :
    d.perform p k { w with progress := progress } elapsed c = d.perform p k w elapsed c := by
  cases c <;> rfl

/-- A settlement comes to its end, whatever it has been interrupted by so far. -/
theorem run_chores (p : Policy) {s : Office} {k : Nat} {st : Settlement} {w : Watch}
    {progress : WatchProgress} (settling : s.settling k = some st)
    (found : s.faucet.desk.watches[k]? = some { w with progress := progress }) :
    s.run p (List.replicate st.left.length (.chore k)) =
      { s with
        faucet := { s.faucet with
          desk := st.left.foldl (fun desk => desk.perform p k w st.elapsed) s.faucet.desk }
        settling := Function.update s.settling k
          (some { st with done := st.done ++ st.left, left := [] })
        line := Function.update s.line k ((s.line k).or (st.left.findSome? Chore.signal?)) } := by
  obtain ⟨ending, elapsed, done, left⟩ := st
  induction left generalizing s done progress with
  | nil =>
    have same : Function.update s.settling k (some ⟨ending, elapsed, done, []⟩) = s.settling := by
      rw [← settling, Function.update_eq_self]
    simp only [List.append_nil, same, List.findSome?_nil, Option.or_none, Function.update_eq_self]
    rfl
  | cons c left ih =>
    have found' := getElem?_perform found p elapsed c
    have rest := ih found' _ (s.settling_perform p k _ ⟨ending, elapsed, done, c :: left⟩ c left)
    rw [List.length_cons, List.replicate_succ]
    change (s.step p (.chore k)).run p _ = _
    rw [step_chore settling rfl found, rest]
    have signals : (c :: left).findSome? Chore.signal? =
        c.signal?.or (left.findSome? Chore.signal?) := by
      rw [List.findSome?_cons]
      cases c.signal? <;> rfl
    simp only [perform, perform_progress, Settlement.advance, Function.update_idem, List.append_assoc,
      List.singleton_append, List.foldl_cons, Function.update_self, signals, Option.or_assoc]

/-- The running faucet does at once what its chores do one after the other. -/
theorem settled_at_once (p : Policy) {s : Office} {k since : Nat} {w : Watch} {reply : Reply Bool}
    {e : WatchEnd} (idle : s.settling k = none) (found : s.faucet.desk.watches[k]? = some w)
    (asking : w.progress = .asking since)
    (ends : Watch.ending? p since s.faucet.desk.now reply = some e) :
    s.run p (.event (.answerWatch k (.mined reply)) ::
        List.replicate e.chores.length (.chore k)) =
      { s with
        faucet := s.faucet.step p (.answerWatch k (.mined reply))
        settling := Function.update s.settling k
          (some ⟨e, s.faucet.desk.now - w.transaction.submittedAt, e.chores, []⟩)
        line := Function.update s.line k ((s.line k).or (some e.signal)) } := by
  have heard := Faucet.hear?_of_asking found asking reply
  have begins : s.step p (.event (.answerWatch k (.mined reply))) = s.begin k w reply e := by
    change s.answer p k (.mined reply) = _
    simp only [answer, idle, Faucet.settlement?_of_asking found asking, ends, Option.map_some, heard]
    rfl
  have found' : (s.begin k w reply e).faucet.desk.watches[k]? = some w := found
  have settled := run_chores p (s.settling_begin k w reply e) found'
  have atOnce := Desk.foldl_perform_chores (d := (s.begin k w reply e).faucet.desk) found' asking ends
  have answered : s.faucet.step p (.answerWatch k (.mined reply)) = { s.faucet with
      desk := (s.begin k w reply e).faucet.desk.onReceipt p k reply } := by
    change s.faucet.answerWatch p k (.mined reply) = _
    simp only [Faucet.answerWatch, heard]
    rfl
  change (s.step p _).run p _ = _
  rw [begins, answered, ← atOnce]
  refine settled.trans ?_
  have signals : e.chores.findSome? Chore.signal? = some e.signal := by
    rw [WatchEnd.chores, List.findSome?_append,
      List.findSome?_eq_none_iff.mpr fun _ => WatchEnd.signal?_of_mem_preparations]
    rfl
  simp only [begin, Function.update_idem, Settlement.begin, signals]
  rfl

end Office

end GasFaucet
