import GasFaucet.Proofs.Answering
import GasFaucet.Proofs.Authorisation
import GasFaucet.Proofs.Deadlines
import GasFaucet.Proofs.Exchange
import GasFaucet.Proofs.Watching
import Mathlib.Logic.Relation

/-!
# Unmined transfers

A faucet over a chain held in memory on which nobody else sends.  The watch over a transfer holds its
sender's lease, so while there is such a watch for every transfer whose receipt has not been given, no
sender has two of them.  A watch leaves before the receipt only if its time is up.
-/

namespace GasFaucet

def Watch.TimedOut (p : Policy) (w : Watch) : Prop :=
  ∃ limit, p.terms.confirmationTimeout = some limit ∧ w.progress = .concluded (.timeUp limit)

namespace Faucet

/-- What holds of a faucet in every run and what its leases and watches rest on. -/
structure Orderly (p : Policy) (accounts : List Address) (f : Faucet) : Prop where
  lends : f.Lends
  distinct : f.desk.pool.Distinct
  offered : f.Offered p
  bound : f.Bound
  draws : f.Draws accounts

variable {p : Policy} {accounts : List Address} {f g : Faucet} {e : Event} {number : Nat}

theorem Orderly.change (h : f.Orderly p accounts) (c : Change p f e g) : g.Orderly p accounts where
  lends := h.lends.change c
  distinct := by
    intro i j s s' here there
    rw [c.signer] at here there
    exact h.distinct here there
  offered := h.offered.change c
  bound := h.bound.change c
  draws := h.draws.change c

theorem query?_eq_receipt {who : Actor} {hash : Digest} (asking : f.query? who = some (.receipt hash)) :
    ∃ number w since, who = .watch number ∧ f.desk.watches[number]? = some w ∧
      w.progress = .asking since ∧ w.transaction.hash = hash := by
  cases who with
  | request number =>
    obtain ⟨⟨r, progress⟩, -, waits⟩ := Option.bind_eq_some_iff.mp asking
    cases progress with
    | trying since tried lease stage => cases stage <;> cases waits
    | gate | resting _ _ | ended _ | crashed _ _ | cancelled => cases waits
  | watch number =>
    obtain ⟨w, found, waits⟩ := Option.bind_eq_some_iff.mp asking
    unfold Watch.query? at waits
    split at waits
    · rename_i since lookup
      cases waits
      exact ⟨number, w, since, rfl, found, lookup, rfl⟩
    · cases waits
  | census number index =>
    unfold query? at asking
    dsimp only at asking
    split at asking
    · cases asking
    · split at asking <;> cases asking

/-- A watch that is told that there is no receipt yet goes on, unless its time is up. -/
theorem watch_told_notFound {w : Watch} {since : Nat} {transaction : String}
    (found : f.desk.watches[number]? = some w) (asking : w.progress = .asking since) {a : Answer}
    (told : a = .mined (.failure (.receiptNotFound transaction)))
    (patient : ∀ (k : Nat) w', (f.answerWatch p number a).desk.watches[k]? = some w' → ¬w'.TimedOut p) :
    ∃ progress, (f.answerWatch p number a).desk.watches[number]? = some { w with progress := progress } ∧
      Watch.report? { w with progress := progress } = none := by
  subst told
  have after := getElem?_answerWatch found asking p (.failure (.receiptNotFound transaction))
  refine ⟨_, after, ?_⟩
  unfold WatchProgress.ofReply at after ⊢
  dsimp only at after ⊢
  rw [Watch.judge_notFound] at after ⊢
  split
  · rename_i limit limited
    simp only [limited] at after
    split
    · rename_i up
      simp only [up, if_true] at after
      exact absurd ⟨limit, limited, rfl⟩ (patient number _ after)
    · rfl
  · rfl

/-- Nobody else who goes on has an account in use that a request may send from. -/
theorem Orderly.watch_sender_ne (h : f.Orderly p accounts) {r : Request} {since : Nat}
    {tried : List Address} {lease : Lease} {t : SignedTransfer}
    (found : f.requests[number]? = some (r, .trying since tried lease (.broadcast t))) {k : Nat}
    {w : Watch} (watched : f.desk.watches[k]? = some w) (unreported : w.report? = none) :
    w.transaction.sender ≠ t.sender := by
  have mine := holds_iff.mp (.request found)
  have theirs := holds_iff.mp (.watch watched unreported)
  rw [h.bound k w watched, (h.offered number r since tried lease t found).sender]
  exact sender_ne h.lends h.distinct theirs mine Actor.noConfusion

end Faucet

namespace Exchange

/--
How a faucet and its chain go on while nobody else sends: by an event that brings no answer, by the
chain's answer to an actor, or by new arrangements on the chain that leave transfers alone.
-/
inductive Goes (p : Policy) (x : Exchange) : Exchange → Prop
  | happens {e : Event} : e.bringsAnswer = false → Goes p x { x with faucet := x.faucet.step p e }
  | answers {who q} : x.faucet.query? who = some q →
      Goes p x ⟨x.faucet.step p (Rehearsal.answerEvent who (x.ledger.answer q).2),
        (x.ledger.answer q).1⟩
  | arranges {ledger} : x.ledger.SameTransfers ledger → Goes p x { x with ledger := ledger }

/-- Transfers of different contents have different hashes, and no watch has run out of time. -/
structure Clear (p : Policy) (x : Exchange) : Prop where
  hashes : ∀ t ∈ x.ledger.broadcasts, ∀ t' ∈ x.ledger.broadcasts, t.hash = t'.hash → t = t'
  patient : ∀ (k : Nat) w, x.faucet.desk.watches[k]? = some w → ¬w.TimedOut p

/-- Every transfer whose receipt has not been given is watched, and no sender has two. -/
structure Watched (x : Exchange) : Prop where
  live : x.ledger.locked = false → ∀ hash sender, x.ledger.senderOf? hash = some sender →
    ∃ (k : Nat) (w : Watch), x.faucet.desk.watches[k]? = some w ∧ w.report? = none ∧
      w.transaction.hash = hash ∧ w.transaction.sender = sender
  filed : ∀ sender ∈ x.ledger.inFlight, ∃ hash, x.ledger.senderOf? hash = some sender
  sent : ∀ (k : Nat) w, x.faucet.desk.watches[k]? = some w →
    ∃ t ∈ x.ledger.broadcasts, t.hash = w.transaction.hash ∧ t.sender = w.transaction.sender
  sole : ∀ hash hash' sender, x.ledger.senderOf? hash = some sender →
    x.ledger.senderOf? hash' = some sender → hash = hash'
  single : x.ledger.doubleSends = 0

variable {p : Policy} {accounts : List Address} {x y : Exchange} {who : Actor} {q : Query} {hash : Digest}

/-- The watches stay as they are, apart from their progress, and none that goes on is lost. -/
theorem Watched.keep (h : x.Watched)
    (pending : ∀ hash, y.ledger.senderOf? hash = x.ledger.senderOf? hash)
    (broadcasts : y.ledger.broadcasts = x.ledger.broadcasts)
    (inFlight : y.ledger.inFlight = x.ledger.inFlight)
    (doubleSends : y.ledger.doubleSends = x.ledger.doubleSends)
    (locked : y.ledger.locked = false → x.ledger.locked = false)
    (live : y.ledger.locked = false → ∀ (k : Nat) w, x.faucet.desk.watches[k]? = some w →
      w.report? = none → ∃ progress, y.faucet.desk.watches[k]? = some { w with progress := progress } ∧
        Watch.report? { w with progress := progress } = none)
    (about : ∀ (k : Nat) w, y.faucet.desk.watches[k]? = some w →
      ∃ before, x.faucet.desk.watches[k]? = some before ∧ w.subject = before.subject) :
    y.Watched where
  live running hash sender there := by
    rw [pending] at there
    obtain ⟨k, w, found, unreported, same⟩ := h.live (locked running) hash sender there
    obtain ⟨progress, found', unreported'⟩ := live running k w found unreported
    exact ⟨k, _, found', unreported', same⟩
  filed sender there := by
    rw [inFlight] at there
    obtain ⟨hash, here⟩ := h.filed sender there
    exact ⟨hash, (pending hash).trans here⟩
  sent k w found := by
    obtain ⟨before, found', same⟩ := about k w found
    obtain ⟨transaction, -⟩ := Prod.mk.inj same
    rw [broadcasts, transaction]
    exact h.sent k before found'
  sole hash hash' sender here there := by
    rw [pending] at here there
    exact h.sole hash hash' sender here there
  single := doubleSends.trans h.single

theorem answerEvent_ne_answerWatch {k : Nat} (other : who ≠ .watch k) (a b : Answer) :
    Rehearsal.answerEvent who a ≠ .answerWatch k b := by
  cases who with
  | request _ | census _ _ => exact Event.noConfusion
  | watch number =>
    intro same
    obtain ⟨rfl, -⟩ := Event.answerWatch.inj same
    exact other rfl

theorem Watched.told (h : x.Watched) (asking : x.faucet.query? who = some q) {m : Ledger} {a : Answer}
    (pending : ∀ hash, m.senderOf? hash = x.ledger.senderOf? hash)
    (broadcasts : m.broadcasts = x.ledger.broadcasts) (inFlight : m.inFlight = x.ledger.inFlight)
    (doubleSends : m.doubleSends = x.ledger.doubleSends)
    (locked : m.locked = false → x.ledger.locked = false)
    (unsent : ∀ hash, a ≠ .digest (.value hash))
    (calm : ∀ hash, q = .receipt hash → m.locked = false →
      a = .mined (.failure (.receiptNotFound hash.text)))
    (clear : Clear p ⟨x.faucet.step p (Rehearsal.answerEvent who a), m⟩) :
    Watched ⟨x.faucet.step p (Rehearsal.answerEvent who a), m⟩ := by
  have changed := x.faucet.change_step p (Rehearsal.answerEvent who a)
  refine h.keep pending broadcasts inFlight doubleSends locked ?_ ?_
  · intro running k w found unreported
    by_cases own : who = .watch k
    · subst own
      cases lookup : w.progress with
      | asking since =>
        have mine : x.faucet.query? (.watch k) = some (.receipt w.transaction.hash) := by
          rw [Faucet.query?_watch found]
          unfold Watch.query?
          rw [lookup]
        have told := calm _ (Option.some.inj (asking.symm.trans mine)) running
        exact Faucet.watch_told_notFound found lookup told clear.patient
      | planned | sleeping _ _ | concluded _ | crashed =>
        rw [Faucet.query?_watch found] at asking
        unfold Watch.query? at asking
        rw [lookup] at asking
        cases asking
    · exact changed.watch_unanswered found unreported (answerEvent_ne_answerWatch own a)
  · intro k w found
    rcases changed.watch_before found with before | ⟨number, _, _, _, _, _, hash, event, -⟩
    · exact before
    · cases who with
      | request other => exact absurd (Event.answerRequest.inj event).2 (unsent hash)
      | watch _ | census _ _ => cases event

/-- The chain gives a receipt: the transfer is mined, and its sender has no other. -/
theorem Watched.settled (h : x.Watched) (asking : x.faucet.query? who = some (.receipt hash))
    {sender : Address} {plan : MiningPlan} (there : x.ledger.pending hash = some (sender, plan))
    (reply : Reply Bool) :
    Watched ⟨x.faucet.step p (Rehearsal.answerEvent who (.mined reply)),
      (x.ledger.settleReceipt hash sender reply).1⟩ := by
  obtain ⟨number, watch, since, rfl, watched, lookup, mine⟩ := Faucet.query?_eq_receipt asking
  have changed := x.faucet.change_step p (.answerWatch number (.mined reply))
  have gone : (x.ledger.settleReceipt hash sender reply).1.senderOf? hash = none := by
    simp [Ledger.senderOf?, Ledger.settleReceipt]
  have others {hash' : Digest} (other : hash' ≠ hash) :
      (x.ledger.settleReceipt hash sender reply).1.senderOf? hash' = x.ledger.senderOf? hash' := by
    simp [Ledger.senderOf?, Ledger.settleReceipt, update_of_ne other]
  have before {hash' sender' : _}
      (still : (x.ledger.settleReceipt hash sender reply).1.senderOf? hash' = some sender') :
      hash' ≠ hash ∧ x.ledger.senderOf? hash' = some sender' := by
    have other : hash' ≠ hash := by
      rintro rfl
      rw [gone] at still
      cases still
    exact ⟨other, (others other).symm.trans still⟩
  constructor
  case live =>
    intro running hash' sender' still
    obtain ⟨other, was⟩ := before still
    obtain ⟨k, w, found, unreported, rfl, same⟩ := h.live running hash' sender' was
    have elsewhere : number ≠ k := by
      rintro rfl
      cases watched.symm.trans found
      exact other mine
    obtain ⟨progress, found', unreported'⟩ := changed.watch_unanswered found unreported
      (answerEvent_ne_answerWatch (fun own => elsewhere (Actor.watch.inj own)) (.mined reply))
    exact ⟨k, _, found', unreported', rfl, same⟩
  case filed =>
    intro other member
    obtain ⟨member', differs⟩ := List.mem_filter.mp member
    obtain ⟨hash', here⟩ := h.filed other member'
    refine ⟨hash', (others ?_).trans here⟩
    rintro rfl
    rw [Ledger.senderOf?, there] at here
    cases here
    simp at differs
  case sent =>
    intro k w found
    rcases changed.watch_before found with ⟨w', found', same⟩ | ⟨_, _, _, _, _, _, _, event, -⟩
    · obtain ⟨transaction, -⟩ := Prod.mk.inj same
      rw [transaction]
      exact h.sent k w' found'
    · cases event
  case sole =>
    intro hash₁ hash₂ sender' here₁ here₂
    exact h.sole hash₁ hash₂ sender' (before here₁).2 (before here₂).2
  case single => exact h.single

/-- The chain takes a transfer: its sender has no other that is unmined, and now a watch for this one. -/
theorem Watched.taken (h : x.Watched) (orderly : x.faucet.Orderly p accounts) {t : SignedTransfer}
    (asking : x.faucet.query? who = some (.broadcast t)) (running : x.ledger.locked = false)
    {m : Ledger} {plan : MiningPlan}
    (pending : m.pending = update x.ledger.pending t.hash (some (t.sender, plan)))
    (broadcasts : m.broadcasts = x.ledger.broadcasts ++ [t])
    (inFlight : m.inFlight = if x.ledger.inFlight.contains t.sender then x.ledger.inFlight
      else t.sender :: x.ledger.inFlight)
    (doubleSends : m.doubleSends =
      x.ledger.doubleSends + (x.ledger.inFlight.contains t.sender).toNat)
    (clear : Clear p ⟨x.faucet.step p (Rehearsal.answerEvent who (.digest (.value t.hash))), m⟩) :
    Watched ⟨x.faucet.step p (Rehearsal.answerEvent who (.digest (.value t.hash))), m⟩ := by
  obtain ⟨number, r, since, tried, lease, rfl, found⟩ := Faucet.query?_eq_broadcast asking
  have changed := x.faucet.change_step p (.answerRequest number (.digest (.value t.hash)))
  have watches : (x.faucet.answerRequest p number (.digest (.value t.hash))).desk.watches = _ :=
    (Faucet.request_of_sent found p t.hash).2.2
  -- A transfer of the same sender would have a watch that holds the lease of the request.
  have alone (hash : Digest) : x.ledger.senderOf? hash ≠ some t.sender := by
    intro there
    obtain ⟨k, w, watched, unreported, -, same⟩ := h.live running hash t.sender there
    exact orderly.watch_sender_ne found watched unreported same
  have fresh : x.ledger.senderOf? t.hash = none := by
    cases there : x.ledger.senderOf? t.hash with
    | none => rfl
    | some sender =>
      obtain ⟨k, w, watched, -, sameHash, rfl⟩ := h.live running t.hash sender there
      obtain ⟨t', member, hash, sender⟩ := h.sent k w watched
      have both : ∀ u ∈ x.ledger.broadcasts ++ [t], u ∈ m.broadcasts := by
        intro u member
        rwa [broadcasts]
      have same : t' = t := clear.hashes t' (both t' (List.mem_append_left _ member)) t
        (both t (by simp)) (hash.trans sameHash)
      subst same
      rw [← sender] at there
      exact absurd there (alone t'.hash)
  have absent : x.ledger.inFlight.contains t.sender = false := by
    apply Bool.eq_false_iff.mpr
    intro present
    obtain ⟨hash, there⟩ := h.filed t.sender (by simpa using present)
    exact alone hash there
  have here : m.senderOf? t.hash = some t.sender := by
    unfold Ledger.senderOf?
    rw [pending, update_self]
    rfl
  have others {hash : Digest} (other : hash ≠ t.hash) : m.senderOf? hash = x.ledger.senderOf? hash := by
    unfold Ledger.senderOf?
    rw [pending, update_of_ne other]
  have kept {hash : Digest} {sender : Address} (there : x.ledger.senderOf? hash = some sender) :
      m.senderOf? hash = some sender := by
    refine (others ?_).trans there
    rintro rfl
    rw [fresh] at there
    cases there
  constructor
  case live =>
    intro _ hash sender there
    by_cases own : hash = t.hash
    · subst own
      obtain rfl : t.sender = sender := Option.some.inj (here.symm.trans there)
      refine ⟨x.faucet.desk.watches.length,
        ⟨t.transaction lease t.hash x.faucet.desk.now, lease, .planned⟩, ?_, rfl, rfl, ?_⟩
      · change (x.faucet.answerRequest p number (.digest (.value t.hash))).desk.watches[_]? = _
        rw [watches]
        exact List.getElem?_concat_length
      · exact (orderly.offered number r since tried lease t found).sender.symm
    · rw [others own] at there
      obtain ⟨k, w, watched, unreported, same⟩ := h.live running hash sender there
      obtain ⟨progress, watched', unreported'⟩ :=
        changed.watch_unanswered watched unreported fun _ => Event.noConfusion
      exact ⟨k, _, watched', unreported', same⟩
  case filed =>
    intro sender member
    rw [inFlight, absent] at member
    rcases List.mem_cons.mp member with rfl | member'
    · exact ⟨t.hash, here⟩
    · obtain ⟨hash, there⟩ := h.filed sender member'
      exact ⟨hash, kept there⟩
  case sent =>
    intro k w there
    dsimp only
    rw [broadcasts]
    rcases changed.watch_before there with
      ⟨w', found', same⟩ | ⟨number', r', since', tried', lease', t', hash, event, found', -, rfl⟩
    · obtain ⟨transaction, -⟩ := Prod.mk.inj same
      obtain ⟨t', member, about⟩ := h.sent k w' found'
      rw [transaction]
      exact ⟨t', List.mem_append_left _ member, about⟩
    · cases event
      cases found.symm.trans found'
      exact ⟨t, by simp, rfl, (orderly.offered number r since tried lease t found).sender⟩
  case sole =>
    intro hash₁ hash₂ sender here₁ here₂
    by_cases first : hash₁ = t.hash <;> by_cases second : hash₂ = t.hash
    · rw [first, second]
    · subst first
      obtain rfl : t.sender = sender := Option.some.inj (here.symm.trans here₁)
      rw [others second] at here₂
      exact absurd here₂ (alone hash₂)
    · subst second
      obtain rfl : t.sender = sender := Option.some.inj (here.symm.trans here₂)
      rw [others first] at here₁
      exact absurd here₁ (alone hash₁)
    · rw [others first] at here₁
      rw [others second] at here₂
      exact h.sole hash₁ hash₂ sender here₁ here₂
  case single =>
    change m.doubleSends = 0
    rw [doubleSends, absent, h.single]
    rfl

theorem Watched.answered (h : x.Watched) (orderly : x.faucet.Orderly p accounts)
    (asking : x.faucet.query? who = some q) {m : Ledger} {a : Answer} (answers : x.ledger.Answers q m a)
    (clear : Clear p ⟨x.faucet.step p (Rehearsal.answerEvent who a), m⟩) :
    Watched ⟨x.faucet.step p (Rehearsal.answerEvent who a), m⟩ := by
  cases answers with
  | tells same unsent calm =>
    refine h.told asking ?_ same.broadcasts same.inFlight same.doubleSends ?_ unsent ?_ clear
    · intro hash
      unfold Ledger.senderOf?
      rw [same.pending]
    · exact same.locked.symm.trans
    · intro hash lookup running
      exact calm hash lookup (same.locked.symm.trans running)
  | @postpones hash sender plan rest there =>
    refine h.told asking ?_ rfl rfl rfl id (fun _ => Answer.noConfusion) ?_ clear
    · intro hash'
      unfold Ledger.senderOf?
      by_cases own : hash' = hash
      · subst own
        dsimp only
        rw [update_self, there]
        rfl
      · dsimp only
        rw [update_of_ne own]
    · intro hash' lookup _
      cases lookup
      rfl
  | settles there => exact h.settled asking there _
  | takes running pending broadcasts inFlight _ doubleSends =>
    exact h.taken orderly asking running pending broadcasts inFlight doubleSends clear
  | locks =>
    refine h.told asking (fun _ => rfl) rfl rfl rfl (fun running => ?_) (fun _ => ?_)
      (fun _ lookup => ?_) clear
    · cases running
    · simp
    · cases lookup

theorem Watched.step (h : x.Watched) (orderly : x.faucet.Orderly p accounts) (goes : Goes p x y)
    (clear : y.Clear p) : y.Watched := by
  cases goes with
  | @happens e unasked =>
    have changed := x.faucet.change_step p e
    refine h.keep (fun _ => rfl) rfl rfl rfl id ?_ ?_
    · intro _ k w found unreported
      apply changed.watch_unanswered found unreported
      rintro a rfl
      cases unasked
    · intro k w found
      rcases changed.watch_before found with before | ⟨_, _, _, _, _, _, _, rfl, -⟩
      · exact before
      · cases unasked
  | answers asking => exact h.answered orderly asking (x.ledger.answer_answers _) clear
  | arranges same =>
    refine h.keep (fun hash => ?_) same.broadcasts same.inFlight same.doubleSends
      same.locked.symm.trans (fun _ k w found unreported => ⟨w.progress, found, unreported⟩)
      fun k w found => ⟨w, found, rfl⟩
    unfold Ledger.senderOf?
    rw [same.pending]

/-- The chain counts no more senders than there are accounts. -/
structure Crowded (accounts : List Address) (l : Ledger) : Prop where
  senders : Drawn accounts l.inFlight
  counted : l.maxInFlight ≤ accounts.length

theorem Crowded.congr {l m : Ledger} (h : Crowded accounts l) (inFlight : m.inFlight = l.inFlight)
    (maxInFlight : m.maxInFlight = l.maxInFlight) : Crowded accounts m :=
  ⟨by rw [inFlight]; exact h.senders, by rw [maxInFlight]; exact h.counted⟩

theorem Crowded.answered (h : Crowded accounts x.ledger) (orderly : x.faucet.Orderly p accounts)
    (asking : x.faucet.query? who = some q) {m : Ledger} {a : Answer}
    (answers : x.ledger.Answers q m a) : Crowded accounts m := by
  cases answers with
  | tells same _ _ => exact h.congr same.inFlight same.maxInFlight
  | postpones _ | locks => exact h.congr rfl rfl
  | @settles hash sender plan reply there =>
    refine ⟨⟨h.senders.once.filter _, fun other member => ?_⟩, h.counted⟩
    exact h.senders.known (List.mem_of_mem_filter member)
  | @takes t m plan running _ _ inFlight maxInFlight _ =>
    have senders : Drawn accounts m.inFlight := by
      rw [inFlight]
      split
      · exact h.senders
      · rename_i absent
        obtain ⟨number, r, since, tried, lease, -, found⟩ := Faucet.query?_eq_broadcast asking
        have known := orderly.lends.lent.known (Faucet.holds_iff.mp (.request found))
        have account : t.sender ∈ accounts := by
          rw [(orderly.offered number r since tried lease t found).sender]
          exact orderly.draws.belong known
        exact h.senders.cons account (by simpa using absent)
    refine ⟨senders, ?_⟩
    have few := senders.length_le
    have before := h.counted
    rw [maxInFlight]
    omega

theorem Crowded.step (h : Crowded accounts x.ledger) (orderly : x.faucet.Orderly p accounts)
    (goes : Goes p x y) : Crowded accounts y.ledger := by
  cases goes with
  | happens _ => exact h
  | answers asking => exact h.answered orderly asking (x.ledger.answer_answers _)
  | arranges same => exact h.congr same.inFlight same.maxInFlight

theorem Goes.orderly (goes : Goes p x y) (h : x.faucet.Orderly p accounts) :
    y.faucet.Orderly p accounts := by
  cases goes with
  | happens _ | answers _ => exact h.change (x.faucet.change_step p _)
  | arranges _ => exact h

theorem Goes.broadcasts_subset (goes : Goes p x y) : x.ledger.broadcasts ⊆ y.ledger.broadcasts := by
  cases goes with
  | happens _ => exact fun _ member => member
  | arranges same =>
    dsimp only
    rw [same.broadcasts]
    exact fun _ member => member
  | @answers who q asking =>
    dsimp only
    rcases x.ledger.answer_cases q with ⟨-, same, -⟩ | ⟨t, _, -, -, -, grown, -⟩
    · rw [same]
      exact fun _ member => member
    · rw [grown]
      exact List.subset_append_left _ _

theorem Goes.watch_reported (goes : Goes p x y) {k : Nat} {w : Watch}
    (found : x.faucet.desk.watches[k]? = some w) (reported : w.report? ≠ none) :
    y.faucet.desk.watches[k]? = some w := by
  cases goes with
  | happens _ | answers _ => exact (x.faucet.change_step p _).watch_reported found reported
  | arranges _ => exact found

theorem Clear.before (clear : y.Clear p) (goes : Goes p x y) : x.Clear p where
  hashes t member t' member' :=
    clear.hashes t (goes.broadcasts_subset member) t' (goes.broadcasts_subset member')
  patient k w found timedOut := by
    refine clear.patient k w (goes.watch_reported found ?_) timedOut
    obtain ⟨limit, -, ended⟩ := timedOut
    simp [Watch.report?, ended]

/--
On a chain where nobody else sends, no more senders have an unmined transfer than there are signers.  As
long as different transfers have different hashes and no watch has given up because its time was up, no
sender has two unmined transfers, and none has sent one while it had another.
-/
theorem unmined_of_goes {signers : List Signer} (distinct : (signers.map Signer.address).Nodup)
    (p : Policy) (latency : Nat) {x : Exchange}
    (goes : Relation.ReflTransGen (Goes p) ⟨.fresh (.ofSigners signers), .fresh latency⟩ x) :
    x.ledger.maxInFlight ≤ signers.length ∧
      (x.Clear p → x.ledger.doubleSends = 0 ∧
        ∀ hash hash' sender, x.ledger.senderOf? hash = some sender →
          x.ledger.senderOf? hash' = some sender → hash = hash') := by
  have kept : x.faucet.Orderly p (signers.map Signer.address) ∧
      Crowded (signers.map Signer.address) x.ledger ∧ (x.Clear p → x.Watched) := by
    induction goes with
    | refl =>
      have initial := Faucet.initial_fresh signers
      refine ⟨⟨initial.lends, Pool.distinct_ofSigners distinct, initial.offered p, initial.bound,
        Faucet.draws_fresh signers⟩, ⟨.nil _, Nat.zero_le _⟩, fun _ => ?_⟩
      constructor
      case live => intro _ hash sender there; cases there
      case filed => intro sender member; cases member
      case sent => intro k w found; cases found
      case sole => intro hash hash' sender there; cases there
      case single => rfl
    | tail _ goes ih =>
      obtain ⟨orderly, crowded, watched⟩ := ih
      exact ⟨goes.orderly orderly, crowded.step orderly goes,
        fun clear => (watched (clear.before goes)).step orderly goes clear⟩
  obtain ⟨-, crowded, watched⟩ := kept
  refine ⟨?_, fun clear => ⟨(watched clear).single, (watched clear).sole⟩⟩
  have few := crowded.counted
  rwa [List.length_map] at few

theorem goes_step {move : Move} (plain : ∀ change kept, move ≠ .arranges change kept) :
    Relation.ReflTransGen (Goes p) x (x.step p move) := by
  cases move with
  | happens e unasked => exact .single (.happens unasked)
  | answers who =>
    cases asking : x.faucet.query? who with
    | none => rw [step_answers_none asking]
    | some q =>
      rw [step_answers_some asking]
      exact .single (.answers asking)
  | arranges change kept => exact absurd rfl (plain change kept)

theorem goes_run (moves : List Move) (plain : ∀ move ∈ moves, ∀ change kept, move ≠ .arranges change kept) :
    Relation.ReflTransGen (Goes p) x (x.run p moves) := by
  induction moves generalizing x with
  | nil => exact .refl
  | cons move rest ih =>
    exact (goes_step (plain move (by simp))).trans (ih fun other member => plain other (by simp [member]))

theorem clear_of_singletons {t : SignedTransfer} {w : Watch} (broadcasts : x.ledger.broadcasts = [t])
    (watches : x.faucet.desk.watches = [w]) (goesOn : ¬w.TimedOut p) : x.Clear p := by
  constructor
  · intro u here u' there _
    rw [broadcasts] at here there
    exact (List.mem_singleton.mp here).trans (List.mem_singleton.mp there).symm
  · intro k w' found
    rw [watches] at found
    obtain rfl := List.mem_singleton.mp (List.mem_of_getElem? found)
    exact goesOn

namespace ThreeWei

variable {t : SignedTransfer}

theorem goes_paid : Relation.ReflTransGen (Goes policy)
    ⟨.fresh (.ofSigners signers), .fresh 0⟩ (funded.run policy paying) := by
  have arranged : Goes policy ⟨.fresh (.ofSigners signers), .fresh 0⟩
      ⟨.fresh (.ofSigners signers), chain⟩ := .arranges ⟨rfl, rfl, rfl, rfl, rfl, rfl⟩
  refine ((Relation.ReflTransGen.single arranged).trans (goes_run opening ?_)).trans (goes_run paying ?_)
  · rintro move member change kept rfl
    simp [opening] at member
  · rintro move member change kept rfl
    simp [paying] at member

theorem exists_watching {transaction : Transaction} {lease : Lease} (now : x.faucet.desk.now = 0)
    (watches : x.faucet.desk.watches = [⟨transaction, lease, .planned⟩]) :
    ∃ y, Goes policy x y ∧ y.ledger = x.ledger ∧
      y.faucet.desk.watches = [⟨transaction, lease, .sleeping 0 5000⟩] := by
  refine ⟨⟨x.faucet.wakeWatch policy 0, x.ledger⟩, .happens (e := .wakeWatch 0) rfl, rfl, ?_⟩
  have planned : x.faucet.desk.watches[0]? = some ⟨transaction, lease, .planned⟩ := by
    rw [watches]
    rfl
  dsimp only
  rw [Faucet.wakeWatch_of_planned planned rfl policy]
  unfold Desk.sleepWatch Desk.setWatch
  rw [watches, now]
  rfl

end ThreeWei

/-- An account with ten wei sends three of them, and the watch over them has begun. -/
theorem unmined_of_goes_three_wei :
    let start : Exchange := ⟨.fresh (.ofSigners ThreeWei.signers), .fresh 0⟩
    let lease : Lease := ⟨0, ⟨.one, 31337⟩⟩
    (ThreeWei.signers.map Signer.address).Nodup ∧
      ∃ t x, Transfer.threeWei.sign .one 31337 = .ok t ∧
        Relation.ReflTransGen (Goes ThreeWei.policy) start x ∧ x.ledger.broadcasts = [t] ∧
        x.faucet.desk.watches = [⟨t.transaction lease t.hash 0, lease, .sleeping 0 5000⟩] ∧
        x.ledger.senderOf? t.hash = some Account.one.address ∧ x.ledger.maxInFlight = 1 ∧
        x.ledger.maxInFlight ≤ 2 ∧ x.Clear ThreeWei.policy ∧ x.ledger.doubleSends = 0 := by
  intro start lease
  obtain ⟨t, signing⟩ := Transfer.sign_threeWei
  obtain ⟨m, taken, broadcasts, inFlight, pending⟩ := ThreeWei.taken signing
  obtain ⟨-, ledger, now, watches⟩ := ThreeWei.paid signing taken
  obtain ⟨x, begun, same, asleep⟩ := ThreeWei.exists_watching now watches
  obtain rfl : x.ledger = m := same.trans ledger
  have waits : x.ledger.senderOf? t.hash = some Account.one.address := by
    unfold Ledger.senderOf?
    rw [pending]
    rfl
  have goes := ThreeWei.goes_paid.tail begun
  have clear : x.Clear ThreeWei.policy :=
    clear_of_singletons broadcasts asleep (by rintro ⟨limit, -, ⟨⟩⟩)
  obtain ⟨crowd, alone⟩ := unmined_of_goes ThreeWei.distinct_signers ThreeWei.policy 0 goes
  exact ⟨ThreeWei.distinct_signers, t, x, signing, goes, broadcasts, asleep, waits, inFlight, crowd, clear,
    (alone clear).1⟩

end Exchange

end GasFaucet
