import GasFaucet.Proofs.Exclusivity
import GasFaucet.Proofs.Histories

/-!
# Watching

What becomes of one watch in a run.  It begins with a transfer that the node takes, and what it is about
never changes.  Nothing moves it but being woken and having its lookup answered, which leads it to its end
or to another wait; and with its end its signer is free.
-/

namespace GasFaucet

def Conclusion.timeUp (limit : Nat) : Conclusion :=
  let limitSecs := limit / 1000
  .givenUp s!"no receipt after {limitSecs}s"

theorem Watch.judge_notFound (limit : Option Nat) (since now : Nat) (transaction : String) :
    judge limit since now (.error (.receiptNotFound transaction)) =
      match limit with
      | some limit => if limit ≤ now - since then some (.timeUp limit) else none
      | none => none := by
  cases limit <;> rfl

/-- Where the verdict on a lookup leads a watch: to its end, or to another wait. -/
def WatchProgress.ofVerdict (p : Policy) (since now : Nat) : Option Conclusion → WatchProgress
  | some c => .concluded c
  | none => .sleeping since (now + p.terms.pollInterval)

def WatchProgress.ofReply (p : Policy) (since now : Nat) : Reply Bool → WatchProgress
  | .value mined =>
      .ofVerdict p since now (Watch.judge p.terms.confirmationTimeout since now (.ok mined))
  | .failure f =>
      .ofVerdict p since now (Watch.judge p.terms.confirmationTimeout since now (.error f))
  | .crash _ => .crashed

namespace Desk

variable {d e : Desk} {p : Policy} {number k : Nat} {w : Watch} {event : Event}

theorem getElem?_setWatch_of_ne (d : Desk) (other : number ≠ k) (progress : WatchProgress) :
    (d.setWatch number progress).watches[k]? = d.watches[k]? := by
  unfold setWatch
  simp [other]

theorem Tends.elsewhere (t : d.Tends p number w event e) (other : number ≠ k) :
    e.watches[k]? = d.watches[k]? := by
  cases t with
  | begins _ | looks _ _ | breaks _ _ => exact d.getElem?_setWatch_of_ne other _
  | waits _ alike =>
    rw [alike.watches]
    exact getElem?_setWatch_of_ne _ other _
  | concludes c _ => cases c <;> exact getElem?_setWatch_of_ne _ other _

theorem Tends.unreported (t : d.Tends p number w event e) : w.report? = none := by
  unfold Watch.report?
  cases t with
  | begins planned => rw [planned]
  | looks sleeping _ => rw [sleeping]
  | waits asking _ | breaks _ asking | concludes _ asking => rw [asking]

theorem Tends.of_wakeWatch (t : d.Tends p number w (.wakeWatch k) e)
    (found : d.watches[number]? = some w) :
    ∃ progress, e.watches[number]? = some { w with progress := progress } ∧
      Watch.report? { w with progress := progress } = none := by
  cases t with
  | begins _ => exact ⟨_, Faucet.getElem?_setWatch found _, rfl⟩
  | looks _ _ => exact ⟨_, Faucet.getElem?_setWatch found (.asking _), rfl⟩

theorem getElem?_onReceipt {since : Nat} (found : d.watches[number]? = some w)
    (asking : w.progress = .asking since) (p : Policy) (reply : Reply Bool) :
    (d.onReceipt p number reply).watches[number]? =
      some { w with progress := .ofReply p since d.now reply } := by
  have concluded (c : Conclusion) {e : Desk} (found : e.watches[number]? = some w) :
      (e.concludeWatch p number w c).watches[number]? = some { w with progress := .concluded c } := by
    cases c <;> exact Faucet.getElem?_setWatch found _
  unfold onReceipt WatchProgress.ofReply
  simp only [found, asking]
  cases reply with
  | crash m => exact Faucet.getElem?_setWatch found .crashed
  | value mined =>
    dsimp only
    cases Watch.judge p.terms.confirmationTimeout since d.now (.ok mined) with
    | none => exact Faucet.getElem?_setWatch found _
    | some c => exact concluded c found
  | failure failure =>
    dsimp only
    cases Watch.judge p.terms.confirmationTimeout since d.now (.error failure) with
    | none => exact Faucet.getElem?_setWatch found _
    | some c => exact concluded c found

end Desk

namespace Faucet

variable {f g : Faucet} {p : Policy} {e : Event} {number k : Nat} {w : Watch}

theorem wakeWatch_of_planned (found : f.desk.watches[number]? = some w)
    (planned : w.progress = .planned) (p : Policy) :
    f.wakeWatch p number = { f with desk := f.desk.sleepWatch p number f.desk.now } := by
  have silent : f.query? (.watch number) = none := by
    rw [query?_watch found]
    unfold Watch.query?
    rw [planned]
  unfold wakeWatch Desk.wakeWatch
  rw [silent]
  simp only [found, planned]
  rw [writeQuery_eq, query?_watch (getElem?_setWatch found _)]
  rfl

theorem getElem?_answerWatch {since : Nat} (found : f.desk.watches[number]? = some w)
    (asking : w.progress = .asking since) (p : Policy) (reply : Reply Bool) :
    (f.answerWatch p number (.mined reply)).desk.watches[number]? =
      some { w with progress := .ofReply p since f.desk.now reply } := by
  have waits : w.query? = some (.receipt w.transaction.hash) := by
    unfold Watch.query?
    rw [asking]
  have heard : f.hear? (.watch number) (.mined reply) = some { f with
      desk := f.desk.write
        (.answered (.watch number) (.receipt w.transaction.hash) (.mined reply)) } := by
    unfold hear?
    rw [query?_watch found, waits]
    rfl
  unfold answerWatch
  rw [heard]
  exact Desk.getElem?_onReceipt (d := f.desk.write _) found asking p reply

theorem Change.watch (c : Change p f e g) (found : f.desk.watches[k]? = some w) :
    (g.desk.watches[k]? = some w ∧
      asks g.desk.journal (.watch k) = asks f.desk.journal (.watch k)) ∨
    ∃ d, f.desk.Tends p k w e d ∧ g = { f with desk := d } := by
  cases c with
  | apart left =>
    rw [left.watches, left.asks fun _ _ => Actor.noConfusion]
    exact .inl ⟨found, rfl⟩
  | accepts r =>
    rw [accept_eq]
    exact .inl ⟨found, asks_asked_of_ne _ _ _ Actor.noConfusion⟩
  | strides _ s =>
    left
    unfold put
    rw [Desk.inquire_watches, Desk.asks_inquire_of_ne _ _ Actor.noConfusion, s.asks]
    obtain kept | ⟨_, _, _, _, _, -, -, same⟩ := s.keeps_or_sends
    · rw [kept.watches]
      exact ⟨found, rfl⟩
    · obtain ⟨there, -⟩ := List.getElem?_eq_some_iff.mp found
      rw [same.desk.watches]
      exact ⟨(List.getElem?_append_left there).trans found, rfl⟩
  | @tends other _ _ d watched t =>
    by_cases own : other = k
    · subst own
      cases watched.symm.trans found
      exact .inr ⟨d, t, rfl⟩
    · have speaker : Actor.watch other ≠ .watch k := fun same => own (Actor.watch.inj same)
      exact .inl ⟨(t.elsewhere own).trans found, (t.dialogue speaker).1⟩

/-- A watch that goes on stays on as long as its lookup is not answered. -/
theorem Change.watch_unanswered (c : Change p f e g) (found : f.desk.watches[k]? = some w)
    (unreported : w.report? = none) (unanswered : ∀ a, e ≠ .answerWatch k a) :
    ∃ progress, g.desk.watches[k]? = some { w with progress := progress } ∧
      Watch.report? { w with progress := progress } = none := by
  rcases c.watch found with ⟨same, -⟩ | ⟨d, t, rfl⟩
  · exact ⟨w.progress, same, unreported⟩
  · cases e with
    | wakeWatch other => exact t.of_wakeWatch found
    | answerWatch other a =>
      cases t with
      | waits _ _ | breaks _ _ | concludes _ _ => exact absurd rfl (unanswered _)
    | _ => cases t

theorem Change.watch_reported (c : Change p f e g) (found : f.desk.watches[k]? = some w)
    (reported : w.report? ≠ none) : g.desk.watches[k]? = some w := by
  rcases c.watch found with ⟨same, -⟩ | ⟨d, t, -⟩
  · exact same
  · exact absurd t.unreported reported

/-- A watch was there before, about the same, or has just begun with a transfer that was taken. -/
theorem Change.watch_before (c : Change p f e g) (found : g.desk.watches[k]? = some w) :
    (∃ before, f.desk.watches[k]? = some before ∧ w.subject = before.subject) ∨
    ∃ (number : Nat) (r : Request) (since : Nat) (tried : List Address) (lease : Lease)
      (t : SignedTransfer) (hash : Digest), e = .answerRequest number (.digest (.value hash)) ∧
      f.requests[number]? = some (r, .trying since tried lease (.broadcast t)) ∧
      k = f.desk.watches.length ∧ w = ⟨t.transaction lease hash f.desk.now, lease, .planned⟩ := by
  cases c with
  | apart left =>
    rw [left.watches] at found
    exact .inl ⟨w, found, rfl⟩
  | accepts r =>
    rw [accept_eq] at found
    exact .inl ⟨w, found, rfl⟩
  | @strides number r _ _ _ known s =>
    unfold put at found
    rw [Desk.inquire_watches] at found
    obtain kept | ⟨since, tried, lease, t, hash, rfl, rfl, same⟩ := s.keeps_or_sends
    · rw [kept.watches] at found
      exact .inl ⟨w, found, rfl⟩
    · rw [same.desk.watches] at found
      change (f.desk.watches ++ [_])[k]? = some w at found
      by_cases last : k = f.desk.watches.length
      · subst last
        rw [List.getElem?_concat_length] at found
        exact .inr ⟨number, r, since, tried, lease, t, hash, rfl, known, rfl,
          (Option.some.inj found).symm⟩
      · rw [getElem?_append_singleton_of_ne last] at found
        exact .inl ⟨w, found, rfl⟩
  | tends watched t =>
    have subject := t.subjects k
    rw [found] at subject
    obtain ⟨before, there, same⟩ := Option.map_eq_some_iff.mp subject.symm
    exact .inl ⟨before, there, same.symm⟩

theorem isLeased_concludeWatch {d : Desk} {w : Watch}
    (known : d.pool.signerAt? w.lease.index = some w.lease.signer) (p : Policy) (number : Nat)
    (c : Conclusion) : (d.concludeWatch p number w c).pool.isLeased w.lease.index = false := by
  have released {pool : Pool} (there : pool.signerAt? w.lease.index = some w.lease.signer) :
      (pool.setLeased w.lease.index false).isLeased w.lease.index = false := by
    rw [Pool.isLeased_setLeased there, if_pos rfl]
  cases c with
  | confirmed | reverted => exact released known
  | givenUp reason => exact released ((d.pool.signerAt?_modifyFloor _ _ _).trans known)

theorem Lends.releases {w' : Watch} (h : f.Lends) (c : Change p f e g)
    (found : f.desk.watches[k]? = some w) (unreported : w.report? = none)
    (after : g.desk.watches[k]? = some w') (reported : w'.report? ≠ none) :
    g.desk.pool.isLeased w.lease.index = false := by
  have known := h.lent.known (holds_iff.mp (.watch found unreported))
  rcases c.watch found with ⟨same, -⟩ | ⟨d, t, rfl⟩
  · cases same.symm.trans after
    exact absurd unreported reported
  · -- A watch that goes on has nothing to report.
    have still (progress : WatchProgress)
        (same : d.watches[k]? = some { w with progress := progress })
        (silent : Watch.report? { w with progress := progress } = none) :
        d.pool.isLeased w.lease.index = false := by
      cases same.symm.trans after
      exact absurd silent reported
    cases t with
    | begins planned => exact still _ (getElem?_setWatch found _) rfl
    | looks sleeping due => exact still _ (getElem?_setWatch found _) rfl
    | @waits since _ _ asking alike =>
      refine still (.sleeping since (f.desk.now + p.terms.pollInterval)) ?_ rfl
      rw [alike.watches]
      exact getElem?_setWatch found _
    | breaks m asking =>
      change (f.desk.pool.setLeased w.lease.index false).isLeased w.lease.index = false
      rw [Pool.isLeased_setLeased known, if_pos rfl]
    | concludes conclusion asking =>
      exact isLeased_concludeWatch (d := f.desk.write _) known p k conclusion

end Faucet

end GasFaucet
