import GasFaucet.Faucet
import GasFaucet.Proofs.Attempt
import GasFaucet.Proofs.Dialogue

/-!
# Turns

What one turn of a request or of a watch can do to the desk.  Looking for a signer changes only
leases and counts; a request strides on by being answered, by waking or by being dropped; a watch is
tended by waking or by an answer.
-/

namespace GasFaucet

namespace Desk

/-- A desk that differs in leases, counts and notices only. -/
structure Keeps (d e : Desk) : Prop where
  now : e.now = d.now
  watches : e.watches = d.watches
  stopped : e.stopped = d.stopped
  spoken : GasFaucet.spoken e.journal = GasFaucet.spoken d.journal
  floor : ∀ index, e.pool.floor index = d.pool.floor index
  signer : ∀ index, e.pool.signerAt? index = d.pool.signerAt? index

namespace Keeps

variable {c d e : Desk}

theorem refl (d : Desk) : d.Keeps d :=
  ⟨rfl, rfl, rfl, rfl, fun _ => rfl, fun _ => rfl⟩

theorem trans (h : c.Keeps d) (h' : d.Keeps e) : c.Keeps e :=
  ⟨h'.now.trans h.now, h'.watches.trans h.watches, h'.stopped.trans h.stopped,
    h'.spoken.trans h.spoken, fun index => (h'.floor index).trans (h.floor index),
    fun index => (h'.signer index).trans (h.signer index)⟩

theorem of_alike (h : e.Alike d) : d.Keeps e :=
  ⟨h.now, h.watches, h.stopped, h.spoken, fun index => by rw [h.pool], fun index => by rw [h.pool]⟩

end Keeps

variable (d : Desk) (p : Policy) (since : Nat) (tried : List Address)

theorem note_keeps (n : Notice) : d.Keeps (d.note n) :=
  .of_alike ((Alike.refl d).note_left n)

theorem conclude_keeps (v : Verdict) : d.Keeps (d.conclude p v).1 :=
  ⟨rfl, rfl, rfl, rfl, fun _ => rfl, fun _ => rfl⟩

theorem release_keeps (lease : Lease) : d.Keeps (d.release lease) :=
  ⟨rfl, rfl, rfl, rfl, fun index => d.pool.floor_setLeased lease.index index false,
    fun index => d.pool.signerAt?_setLeased lease.index index false⟩

theorem skip_keeps (reason : String) : d.Keeps (d.skip reason) :=
  ⟨rfl, rfl, rfl, rfl, fun _ => rfl, fun _ => rfl⟩

theorem endRound_keeps : d.Keeps (d.endRound p since).1 := by
  unfold endRound
  cases p.terms.maxLeaseWait with
  | none => exact d.note_keeps _
  | some limit =>
    dsimp only
    split
    · exact (d.note_keeps _).trans (conclude_keeps _ p _)
    · exact d.note_keeps _

theorem tryNext_keeps : d.Keeps (d.tryNext p since tried).1 := by
  unfold tryNext Desk.lease?
  cases found : d.pool.lease? fun l => !tried.contains l.signer.address with
  | none => exact d.endRound_keeps p since
  | some granted =>
    obtain ⟨lease, pool⟩ := granted
    obtain ⟨-, -, -, rfl⟩ := Pool.lease?_eq_some found
    exact ⟨rfl, rfl, rfl, rfl, fun index => d.pool.floor_setLeased lease.index index true,
      fun index => d.pool.signerAt?_setLeased lease.index index true⟩

theorem beginRound_keeps : d.Keeps (d.beginRound p since).1 := by
  unfold beginRound
  split
  · exact d.conclude_keeps p _
  · exact d.tryNext_keeps p since []

theorem passGate_keeps (r : Request) (reply : Reply Word) : d.Keeps (d.passGate p r reply).1 := by
  unfold passGate
  cases reply with
  | crash m => exact .refl d
  | failure f => exact d.conclude_keeps p _
  | value balance =>
    dsimp only
    split
    · exact (d.note_keeps _).trans (conclude_keeps _ p _)
    · exact d.beginRound_keeps p d.now

theorem cancel_keeps (progress : Progress) : d.Keeps (d.cancel progress).1 := by
  unfold cancel
  split
  · exact .refl d
  · cases progress.lease? with
    | none => exact .refl d
    | some lease => exact d.release_keeps lease

/-- An attempt leaves floors and watches alone unless it ends in a transfer. -/
theorem enact_keeps (lease : Lease) (turnout : Turnout)
    (unsent : ∀ transfer hash, turnout ≠ .sent transfer hash) :
    d.Keeps (d.enact p since tried lease turnout).1 := by
  cases turnout with
  | goesOn stage => exact .refl d
  | passedOver reason =>
    have skipped := d.skip_keeps reason
    have released := (d.skip reason).release_keeps lease
    exact (skipped.trans released).trans (tryNext_keeps _ p since tried)
  | fails f => exact (d.release_keeps lease).trans (conclude_keeps _ p _)
  | breaks m => exact d.release_keeps lease
  | sent transfer hash => exact absurd rfl (unsent transfer hash)

end Desk

def Event.told (r : Request) (progress : Progress) : Event → List (Query × Answer)
  | .answerRequest _ a => (progress.query? r).toList.map fun q => (q, a)
  | _ => []

/-- How far a request can be after it has looked for a signer. -/
inductive Progress.Sought (since : Nat) : Progress → Prop
  | leases {tried lease} : Sought since (.trying since tried lease .balance)
  | rests {wakeAt} : Sought since (.resting since wakeAt)
  | fails {f} : Sought since (.ended (.failed f))

theorem Progress.Sought.stage_eq {start since : Nat} {tried : List Address} {lease : Lease}
    {stage : Stage} (h : Sought start (.trying since tried lease stage)) : stage = .balance := by
  cases h
  rfl

namespace Desk

variable (d : Desk) (p : Policy) (since : Nat) (tried : List Address)

theorem endRound_sought : (d.endRound p since).2.Sought since := by
  unfold endRound
  cases p.terms.maxLeaseWait with
  | none => exact .rests
  | some limit =>
    dsimp only
    split
    · exact .fails
    · exact .rests

theorem tryNext_sought : (d.tryNext p since tried).2.Sought since := by
  unfold tryNext
  cases d.lease? fun l => !tried.contains l.signer.address with
  | none => exact d.endRound_sought p since
  | some granted => exact .leases

theorem beginRound_sought : (d.beginRound p since).2.Sought since := by
  unfold beginRound
  split
  · exact .fails
  · exact d.tryNext_sought p since []

theorem passGate_sought (r : Request) (reply : Reply Word) :
    (d.passGate p r reply).2.Sought d.now ∨ (d.passGate p r reply).2.isOver = true := by
  unfold passGate
  cases reply with
  | crash m | failure f => exact .inr rfl
  | value balance =>
    dsimp only
    split
    · exact .inr rfl
    · exact .inl (d.beginRound_sought p d.now)

theorem cancel_progress {progress : Progress} (ongoing : progress.isOver = false) :
    (d.cancel progress).2 = .cancelled := by
  unfold cancel
  rw [ongoing]
  cases progress.lease? <;> rfl

/-- How an event makes a request stride on: by an answer, by waking, or by being dropped. -/
inductive Strides (p : Policy) (number : Nat) (r : Request) (d : Desk) :
    Event → Progress → Desk × Progress → Prop
  | passes (reply : Reply Word) :
      Strides p number r d (.answerRequest number (.number reply)) .gate
        ((d.write (.answered (.request number) (.balance r.destination) (.number reply))).passGate
          p r reply)
  | turns {since tried lease stage q a turnout out} :
      (Progress.trying since tried lease stage).query? r = some q → q.admits a = true →
      stage.turnout? p r lease.signer (d.pool.floor lease.index) a = some turnout →
      SameTurn out
        ((d.write (.answered (.request number) q a)).enact p since tried lease turnout) →
      Strides p number r d (.answerRequest number a) (.trying since tried lease stage) out
  | wakes {since wakeAt} : wakeAt ≤ d.now →
      Strides p number r d (.wakeRequest number) (.resting since wakeAt) (d.beginRound p since)
  | drops {progress} : progress.isOver = false →
      Strides p number r d (.cancelRequest number) progress (d.cancel progress)

variable {d p} {number : Nat} {r : Request} {e : Event} {progress : Progress} {out : Desk × Progress}

def hear (d : Desk) (who : Actor) (told : List (Query × Answer)) : Desk :=
  { d with journal := told.map (fun line => (d.now, .answered who line.1 line.2)) ++ d.journal }

/-- A request that strides on is told what it asked, and changes leases only or sends a transfer. -/
theorem Strides.keeps_or_sends (s : d.Strides p number r e progress out) :
    (d.hear (.request number) (e.told r progress)).Keeps out.1 ∨
    ∃ since tried lease t hash, progress = .trying since tried lease (.broadcast t) ∧
      e = .answerRequest number (.digest (.value hash)) ∧
      SameTurn out ((d.write (.answered (.request number) (.broadcast t) (.digest (.value hash)))).enact
        p since tried lease (.sent t hash)) := by
  cases s with
  | passes reply => exact .inl (passGate_keeps _ p r reply)
  | wakes due => exact .inl (d.beginRound_keeps p _)
  | drops ongoing => exact .inl (d.cancel_keeps progress)
  | @turns since tried lease stage q a turnout _ asking admitted decided same =>
    obtain ⟨t, hash, rfl⟩ | unsent := turnout.sent_or_not
    · obtain ⟨rfl, rfl⟩ := Stage.turnout?_sent decided
      obtain rfl : Query.broadcast t = q := by simpa [Progress.query?] using asking
      exact .inr ⟨since, tried, lease, t, hash, rfl, rfl, same⟩
    · have told : Event.told r (.trying since tried lease stage) (.answerRequest number a) = [(q, a)] := by
        simp [Event.told, asking]
      rw [told]
      exact .inl ((enact_keeps _ p since tried lease turnout unsent).trans (.of_alike same.desk))

theorem Strides.signer (s : d.Strides p number r e progress out) (index : Nat) :
    out.1.pool.signerAt? index = d.pool.signerAt? index := by
  obtain kept | ⟨_, _, lease, _, _, -, -, same⟩ := s.keeps_or_sends
  · exact kept.signer index
  · rw [same.desk.pool]
    exact d.pool.signerAt?_modifyFloor lease.index index _

theorem Strides.sends {since : Nat} {tried : List Address} {lease : Lease} {t : SignedTransfer}
    {hash : Digest} (s : d.Strides p number r (.answerRequest number (.digest (.value hash)))
      (.trying since tried lease (.broadcast t)) out) :
    SameTurn out ((d.write (.answered (.request number) (.broadcast t) (.digest (.value hash)))).enact
      p since tried lease (.sent t hash)) := by
  cases s with
  | @turns _ _ _ _ q _ turnout _ asking admitted decided same =>
    obtain rfl : Query.broadcast t = q := by simpa [Progress.query?] using asking
    obtain rfl : Turnout.sent t hash = turnout := Option.some.inj decided
    exact same

theorem Strides.signs {since : Nat} {tried : List Address} {lease : Lease} {t : SignedTransfer}
    {price reported nonce : Word}
    (s : d.Strides p number r (.answerRequest number (.number (.value reported)))
      (.trying since tried lease (.nonce price)) out)
    (chosen : (d.pool.floor lease.index).next? reported = some nonce)
    (signing : lease.signer.sign
      ⟨r.destination, r.effectiveAmount p.terms, nonce, p.terms.gasLimit, price⟩ = .ok t) :
    out.2 = .trying since tried lease (.broadcast t) ∧ out.1.now = d.now ∧ out.1.watches = d.watches := by
  cases s with
  | turns _ _ decided same =>
    obtain rfl := Option.some.inj decided
    rw [Turnout.ofNonce_of_sign chosen signing] at same
    exact ⟨same.progress, same.desk.now, same.desk.watches⟩

/-- A request that holds a lease after striding on has just leased it or has gone on with it. -/
theorem Strides.trying {since : Nat} {tried : List Address} {lease : Lease} {stage : Stage}
    (s : d.Strides p number r e progress out) (after : out.2 = .trying since tried lease stage) :
    stage = .balance ∨ ∃ before a, progress = .trying since tried lease before ∧
      e = .answerRequest number a ∧
      before.Advances p r lease.signer (d.pool.floor lease.index) a stage := by
  cases s with
  | passes reply =>
    obtain sought | finished := passGate_sought
      (d.write (.answered (.request number) (.balance r.destination) (.number reply))) p r reply
    · rw [after] at sought
      exact .inl sought.stage_eq
    · rw [after] at finished
      cases finished
  | @wakes start wakeAt due =>
    have sought := d.beginRound_sought p start
    rw [after] at sought
    exact .inl sought.stage_eq
  | drops ongoing =>
    rw [d.cancel_progress ongoing] at after
    cases after
  | @turns since' tried' lease' before q a turnout _ asking admitted decided same =>
    have turned := same.progress
    rw [after] at turned
    cases turnout with
    | goesOn next =>
      cases turned
      exact .inr ⟨before, a, rfl, rfl, Stage.advances_of_goesOn decided⟩
    | passedOver reason =>
      have sought : Progress.Sought since' (.trying since tried lease stage) := by
        rw [turned]
        exact tryNext_sought _ p since' tried'
      exact .inl sought.stage_eq
    | fails f | breaks m | sent t hash => cases turned

/-- A request that has just signed a transfer pays what it asks for, above the signer's floor. -/
theorem Strides.offers {since : Nat} {tried : List Address} {lease : Lease} {t : SignedTransfer}
    (s : d.Strides p number r e progress out)
    (after : out.2 = .trying since tried lease (.broadcast t)) :
    t.Pays p r lease.signer ∧
      ∀ last, (d.pool.floor lease.index).lastSent = some last → last < t.nonce := by
  obtain impossible | ⟨before, a, -, -, advances⟩ := s.trying after
  · cases impossible
  · obtain ⟨price, reported, nonce, -, -, chosen, signing⟩ := advances.signs
    refine ⟨SignedTransfer.pays_of_sign signing, ?_⟩
    intro last sent
    obtain ⟨same, -⟩ := Transfer.sign_eq_ok signing
    rw [same]
    exact NonceFloor.lt_of_next?_eq_some chosen sent

theorem exists_turnout {r : Request} {since : Nat} {tried : List Address} {lease : Lease}
    {stage : Stage} {q : Query} {a : Answer}
    (asking : (Progress.trying since tried lease stage).query? r = some q)
    (admitted : q.admits a = true) (p : Policy) (floor : NonceFloor) :
    ∃ turnout, stage.turnout? p r lease.signer floor a = some turnout := by
  cases stage with
  | broadcast transfer =>
    obtain rfl : Query.broadcast transfer = q := by simpa [Progress.query?] using asking
    cases a with
    | digest reply => cases reply <;> exact ⟨_, rfl⟩
    | number _ | mined _ => cases admitted
  | balance | gasPrice | nonce _ =>
    cases a with
    | number reply => cases reply <;> exact ⟨_, rfl⟩
    | digest _ | mined _ =>
      simp only [Progress.query?, Option.some.injEq] at asking
      subst asking
      cases admitted

theorem strides_resume {p : Policy} {r : Request} {progress : Progress} {q : Query} {a : Answer}
    (asking : progress.query? r = some q) (admitted : q.admits a = true) (number : Nat) :
    Strides p number r d (.answerRequest number a) progress
      ((d.write (.answered (.request number) q a)).resume p r progress a) := by
  cases progress with
  | gate =>
    obtain rfl : Query.balance r.destination = q := by simpa [Progress.query?] using asking
    cases a with
    | number reply => exact .passes reply
    | digest _ | mined _ => cases admitted
  | trying since tried lease stage =>
    obtain ⟨turnout, decided⟩ := exists_turnout asking admitted p (d.pool.floor lease.index)
    have decided' : stage.turnout? p r lease.signer
        ((d.write (.answered (.request number) q a)).pool.floor lease.index) a = some turnout := decided
    exact .turns asking admitted decided (resume_of_turnout? decided')
  | resting _ _ | ended _ | crashed _ _ | cancelled => cases asking

/-- How an event tends the watch over a transaction. -/
inductive Tends (p : Policy) (number : Nat) (d : Desk) (w : Watch) : Event → Desk → Prop
  | begins : w.progress = .planned →
      Tends p number d w (.wakeWatch number) (d.sleepWatch p number d.now)
  | looks {since wakeAt} : w.progress = .sleeping since wakeAt → wakeAt ≤ d.now →
      Tends p number d w (.wakeWatch number) ((d.setWatch number (.asking since)).write
        (.asked (.watch number) (.receipt w.transaction.hash)))
  | waits {since reply e} : w.progress = .asking since →
      e.Alike ((d.write (.answered (.watch number) (.receipt w.transaction.hash)
        (.mined reply))).sleepWatch p number since) →
      Tends p number d w (.answerWatch number (.mined reply)) e
  | breaks {since : Nat} (m : String) : w.progress = .asking since →
      Tends p number d w (.answerWatch number (.mined (.crash m)))
        (((d.write (.answered (.watch number) (.receipt w.transaction.hash)
          (.mined (.crash m)))).release w.lease).setWatch number .crashed)
  | concludes {since reply} (c : Conclusion) : w.progress = .asking since →
      Tends p number d w (.answerWatch number (.mined reply))
        ((d.write (.answered (.watch number) (.receipt w.transaction.hash)
          (.mined reply))).concludeWatch p number w c)

theorem Tends.signer {w : Watch} {d' : Desk} (t : d.Tends p number w e d') (index : Nat) :
    d'.pool.signerAt? index = d.pool.signerAt? index := by
  have released (pool : Pool) : (pool.setLeased w.lease.index false).signerAt? index =
      pool.signerAt? index := pool.signerAt?_setLeased w.lease.index index false
  cases t with
  | begins _ | looks _ _ => rfl
  | waits asking alike => rw [alike.pool]; rfl
  | breaks m asking => exact released d.pool
  | concludes c asking =>
    cases c with
    | confirmed | reverted => exact released d.pool
    | givenUp reason =>
      exact (released _).trans (d.pool.signerAt?_modifyFloor w.lease.index index _)

/-- A watch that is tended leaves all floors alone unless it gives up. -/
theorem Tends.settled_or_gaveUp {w : Watch} {d' : Desk} (t : d.Tends p number w e d') :
    (∀ index, d'.pool.floor index = d.pool.floor index) ∨
    ∃ since reply reason, w.progress = .asking since ∧ e = .answerWatch number (.mined reply) ∧
      d' = (d.write (.answered (.watch number) (.receipt w.transaction.hash)
        (.mined reply))).concludeWatch p number w (.givenUp reason) := by
  cases t with
  | begins _ | looks _ _ => exact .inl fun _ => rfl
  | waits asking alike => exact .inl fun index => by rw [alike.pool]; rfl
  | breaks m asking => exact .inl fun index => d.pool.floor_setLeased w.lease.index index false
  | @concludes since reply c asking =>
    cases c with
    | confirmed | reverted =>
      exact .inl fun index => d.pool.floor_setLeased w.lease.index index false
    | givenUp reason => exact .inr ⟨since, reply, reason, asking, rfl, rfl⟩

theorem floor_concludeWatch_givenUp {w : Watch} {signer : Signer}
    (known : d.pool.signerAt? w.lease.index = some signer) (line : Entry) (p : Policy) (number : Nat)
    (reason : String) (index : Nat) :
    ((d.write line).concludeWatch p number w (.givenUp reason)).pool.floor index =
      if w.lease.index = index then .clear else d.pool.floor index := by
  have cleared := Pool.floor_modifyFloor known (fun _ => .clear) index
  rw [← cleared]
  exact Pool.floor_setLeased _ _ _ _

theorem tends_onReceipt {p : Policy} {number : Nat} {w : Watch} {since : Nat}
    (found : d.watches[number]? = some w) (asking : w.progress = .asking since) (reply : Reply Bool) :
    Tends p number d w (.answerWatch number (.mined reply))
      ((d.write (.answered (.watch number) (.receipt w.transaction.hash) (.mined reply))).onReceipt
        p number reply) := by
  unfold onReceipt
  have there : (d.write (.answered (.watch number) (.receipt w.transaction.hash)
      (.mined reply))).watches[number]? = some w := found
  simp only [there, asking]
  cases reply with
  | crash m => exact .breaks m asking
  | value mined =>
    dsimp only
    split
    · exact .concludes _ asking
    · exact .waits asking (.refl _)
  | failure f =>
    dsimp only
    split
    · exact .concludes _ asking
    · exact .waits asking ⟨rfl, rfl, rfl, rfl, rfl, rfl⟩

end Desk

end GasFaucet
