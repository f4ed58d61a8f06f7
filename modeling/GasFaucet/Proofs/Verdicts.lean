import GasFaucet.Proofs.Histories
import GasFaucet.Proofs.Payloads

/-!
# Verdicts

What a caller is told agrees with what the node was asked and with what it answered: a destination is
called funded only on the word of the first answer, a ticket stands for the one transfer that the node
took, and whoever is told of a failure has sent nothing.
-/

namespace GasFaucet

/-- The transfers that the node took from a request, with the hashes that it gave. -/
def accepted (answered : List (Query × Answer)) : List (SignedTransfer × Digest) :=
  answered.filterMap fun
    | (.broadcast t, .digest (.value hash)) => some (t, hash)
    | _ => none

/-- What a ticket stands for: a transfer that the node took as `hash`, and the watch over it. -/
structure Delivered (p : Policy) (r : Request) (ticket : Ticket) (h : History) (watches : List Watch)
    (t : SignedTransfer) (hash : Digest) (lease : Lease) : Prop where
  only : accepted h.answered = [(t, hash)]
  last : h.asked.getLast? = some (.broadcast t)
  settled : h.answered.getLast? = some (.broadcast t, .digest (.value hash))
  pays : t.Pays p r lease.signer
  amount : ticket.amount = r.effectiveAmount p.terms
  transaction : ticket.transaction =
    { hash := hash
      nonce := t.nonce
      sender := lease.signer.address
      destination := r.destination
      amount := r.effectiveAmount p.terms
      submittedAt := ticket.transaction.submittedAt
      status := .submitted }
  begun : h.begun = [⟨ticket.transaction, lease, .planned⟩]
  watched : watches[ticket.watch]?.map Watch.subject = some (ticket.transaction, lease)

/-- What the progress of a request says is true of its history. -/
structure Truthful (p : Policy) (r : Request) (progress : Progress) (h : History)
    (watches : List Watch) : Prop where
  first : h.asked.head? = some (.balance r.destination)
  funded_iff : ∀ b, progress = .ended (.alreadyFunded b) ↔
    h.answered.head? = some (.balance r.destination, .number (.value b)) ∧ r.cap < b
  funded : ∀ b, progress = .ended (.alreadyFunded b) →
    h.asked = [.balance r.destination] ∧ h.taken = 0
  sent : ∀ ticket, progress = .ended (.inFlight ticket) →
    ∃ t hash lease, Delivered p r ticket h watches t hash lease
  unsent : (∀ ticket, progress ≠ .ended (.inFlight ticket)) → accepted h.answered = [] ∧ h.begun = []

/-- What holds of a request and its history between any two events, and makes the progress truthful. -/
structure Record (p : Policy) (r : Request) (progress : Progress) (h : History)
    (watches : List Watch) : Prop extends Truthful p r progress h watches where
  dialogue : progress ≠ .cancelled → h.asked = h.answered.map Prod.fst ++ (progress.query? r).toList
  opened : h.answered = [] → progress = .gate ∨ progress = .cancelled
  fresh : progress = .gate → h.answered = [] ∧ h.taken = 0
  offers : ∀ since tried lease t, progress = .trying since tried lease (.broadcast t) →
    SignedTransfer.Pays t p r lease.signer

/-- A request that is past its gate, and that has not been told of a balance or a transfer. -/
def Progress.Unsettled : Progress → Prop
  | gate | ended (.alreadyFunded _) | ended (.inFlight _) => False
  | _ => True

theorem Progress.Sought.unsettled {since : Nat} {progress : Progress} (h : progress.Sought since) :
    progress.Unsettled := by
  cases h <;> trivial

@[simp]
theorem accepted_append (l k : List (Query × Answer)) :
    accepted (l ++ k) = accepted l ++ accepted k :=
  List.filterMap_append

theorem head?_append_of_ne_nil {α : Type} {l : List α} (h : l ≠ []) (k : List α) :
    (l ++ k).head? = l.head? := by
  cases l with
  | nil => exact absurd rfl h
  | cons a l => rfl

namespace Record

variable {p : Policy} {r : Request} {progress : Progress} {h : History} {watches watches' : List Watch}

theorem begin (p : Policy) (r : Request) (watches : List Watch) :
    Record p r .gate ⟨[.balance r.destination], [], 0, []⟩ watches where
  first := rfl
  funded_iff b := by simp
  funded b impossible := by cases impossible
  sent ticket impossible := by cases impossible
  unsent _ := ⟨rfl, rfl⟩
  dialogue _ := rfl
  opened _ := .inl rfl
  fresh _ := ⟨rfl, rfl⟩
  offers _ _ _ _ impossible := by cases impossible

theorem keep (record : Record p r progress h watches)
    (kept : ∀ (k : Nat) subject, watches[k]?.map Watch.subject = some subject →
      watches'[k]?.map Watch.subject = some subject) : Record p r progress h watches' where
  first := record.first
  funded_iff := record.funded_iff
  funded := record.funded
  sent ticket ended := by
    obtain ⟨t, hash, lease, d⟩ := record.sent ticket ended
    exact ⟨t, hash, lease, { d with watched := kept _ _ d.watched }⟩
  unsent := record.unsent
  dialogue := record.dialogue
  opened := record.opened
  fresh := record.fresh
  offers := record.offers

/-- A request goes on without being told of a balance above the cap or of a transfer. -/
theorem goOn (record : Record p r progress h watches) (ongoing : progress.isOver = false)
    {next : Progress} (unsettled : next.Unsettled) {told : List (Query × Answer)}
    (untaken : accepted told = [])
    (below : h.answered = [] → ∀ b, told.head? = some (.balance r.destination, .number (.value b)) →
      ¬r.cap < b)
    (opened : h.answered ++ told = [] → next = .cancelled)
    (dialogue : next ≠ .cancelled → (progress.query? r).toList = told.map Prod.fst)
    (offers : ∀ since tried lease t, next = .trying since tried lease (.broadcast t) →
      SignedTransfer.Pays t p r lease.signer) (taken : Nat) :
    Record p r next ⟨h.asked ++ (next.query? r).toList, h.answered ++ told, taken, h.begun⟩ watches' := by
  have unsent : ∀ ticket, progress ≠ .ended (.inFlight ticket) := by
    rintro ticket rfl
    cases ongoing
  obtain ⟨nothing, unwatched⟩ := record.unsent unsent
  constructor
  case toTruthful =>
    constructor
    case first => rw [List.head?_append, record.first, Option.some_or]
    case funded_iff =>
      intro b
      constructor
      · rintro rfl
        exact unsettled.elim
      · rintro ⟨opening, exceeds⟩
        by_cases silent : h.answered = []
        · rw [silent, List.nil_append] at opening
          exact absurd exceeds (below silent b opening)
        · rw [head?_append_of_ne_nil silent] at opening
          obtain rfl := (record.funded_iff b).mpr ⟨opening, exceeds⟩
          cases ongoing
    case funded =>
      rintro b rfl
      exact unsettled.elim
    case sent =>
      rintro ticket rfl
      exact unsettled.elim
    case unsent =>
      intro _
      exact ⟨by rw [accepted_append, nothing, untaken]; rfl, unwatched⟩
  case dialogue =>
    intro proceeds
    have before : progress ≠ .cancelled := by
      rintro rfl
      cases ongoing
    rw [record.dialogue before, dialogue proceeds, List.map_append]
  case opened => exact fun silent => .inr (opened silent)
  case fresh =>
    rintro rfl
    exact unsettled.elim
  case offers => exact offers

theorem fund (record : Record p r .gate h watches) {b : Word} (exceeds : r.cap < b) :
    Record p r (.ended (.alreadyFunded b)) ⟨h.asked,
      h.answered ++ [(.balance r.destination, .number (.value b))], h.taken, h.begun⟩ watches' := by
  obtain ⟨silent, untaken⟩ := record.fresh rfl
  obtain ⟨nothing, unwatched⟩ := record.unsent fun _ => Progress.noConfusion
  have asked : h.asked = [.balance r.destination] := by
    rw [record.dialogue Progress.noConfusion, silent]
    rfl
  rw [silent, asked, untaken, unwatched]
  constructor
  case toTruthful =>
    constructor
    case first => rfl
    case funded_iff =>
      intro b'
      simp only [Progress.ended.injEq, Verdict.alreadyFunded.injEq, List.nil_append, List.head?_cons,
        Option.some.injEq, Prod.mk.injEq, true_and, Answer.number.injEq, Reply.value.injEq]
      constructor
      · rintro rfl
        exact ⟨rfl, exceeds⟩
      · exact And.left
    case funded => exact fun _ _ => ⟨rfl, rfl⟩
    case sent => intro ticket impossible; cases impossible
    case unsent => exact fun _ => ⟨rfl, rfl⟩
  case dialogue => exact fun _ => rfl
  case opened => intro impossible; cases impossible
  case fresh => intro impossible; cases impossible
  case offers => intro since tried lease t impossible; cases impossible

theorem deliver {since : Nat} {tried : List Address} {lease : Lease} {t : SignedTransfer}
    (record : Record p r (.trying since tried lease (.broadcast t)) h watches) (hash : Digest)
    (now taken : Nat) :
    Record p r
      (.ended (.inFlight ⟨t.value, t.transaction lease hash now, watches.length⟩))
      ⟨h.asked, h.answered ++ [(.broadcast t, .digest (.value hash))], taken,
        h.begun ++ [⟨t.transaction lease hash now, lease, .planned⟩]⟩
      (watches ++ [⟨t.transaction lease hash now, lease, .planned⟩]) := by
  obtain ⟨nothing, unwatched⟩ := record.unsent fun _ => Progress.noConfusion
  have pays := record.offers since tried lease t rfl
  have asked := record.dialogue Progress.noConfusion
  constructor
  case toTruthful =>
    constructor
    case first => exact record.first
    case funded_iff =>
      intro b
      constructor
      · intro impossible
        cases impossible
      · rintro ⟨opening, exceeds⟩
        have opened : h.answered ≠ [] := by
          intro silent
          rcases record.opened silent with impossible | impossible <;> cases impossible
        rw [head?_append_of_ne_nil opened] at opening
        cases (record.funded_iff b).mpr ⟨opening, exceeds⟩
    case funded => intro b impossible; cases impossible
    case sent =>
      intro ticket ended
      cases ended
      refine ⟨t, hash, lease, ?_, ?_, ?_, pays, pays.value, ?_, ?_, ?_⟩
      · rw [accepted_append, nothing]
        rfl
      · rw [asked]
        simp [Progress.query?]
      · simp
      · unfold SignedTransfer.transaction
        rw [pays.value, pays.destination]
      · rw [unwatched]
        rfl
      · simp [Watch.subject]
    case unsent =>
      intro unsent
      exact absurd rfl (unsent _)
  case dialogue =>
    intro _
    rw [asked]
    simp [Progress.query?]
  case opened => intro silent; simp at silent
  case fresh => intro impossible; cases impossible
  case offers => intro since tried lease t impossible; cases impossible

end Record

namespace Desk

variable {d : Desk} {p : Policy} {number : Nat} {r : Request} {e : Event} {progress : Progress}
variable {out : Desk × Progress}

theorem enact_unsettled (d : Desk) (p : Policy) (since : Nat) (tried : List Address) (lease : Lease)
    {turnout : Turnout} (unsent : ∀ transfer hash, turnout ≠ .sent transfer hash) :
    (d.enact p since tried lease turnout).2.Unsettled := by
  cases turnout with
  | goesOn stage => trivial
  | passedOver reason => exact (tryNext_sought _ p since tried).unsettled
  | fails f => trivial
  | breaks m => trivial
  | sent transfer hash => exact absurd rfl (unsent transfer hash)

/-- What an attempt is told, if it does not send, is not that a transfer was taken. -/
theorem accepted_of_unsent {since : Nat} {tried : List Address} {lease : Lease} {stage : Stage}
    {q : Query} {a : Answer} {turnout : Turnout} {floor : NonceFloor}
    (asking : (Progress.trying since tried lease stage).query? r = some q)
    (decided : stage.turnout? p r lease.signer floor a = some turnout)
    (unsent : ∀ transfer hash, turnout ≠ .sent transfer hash) : accepted [(q, a)] = [] := by
  cases stage with
  | balance | gasPrice | nonce _ =>
    cases asking
    rfl
  | broadcast t =>
    cases asking
    cases a with
    | number _ | mined _ => rfl
    | digest reply =>
      cases reply with
      | failure _ | crash _ => rfl
      | value hash =>
        cases decided
        exact absurd rfl (unsent t hash)

end Desk

namespace Record

variable {d : Desk} {p : Policy} {number : Nat} {r : Request} {e : Event} {progress : Progress}
variable {out : Desk × Progress} {h : History}

theorem goOnTurn (record : Record p r progress h d.watches) (ongoing : progress.isOver = false)
    (watches : out.1.watches = d.watches) (unsettled : out.2.Unsettled)
    {told : List (Query × Answer)} (untaken : accepted told = [])
    (below : h.answered = [] → ∀ b, told.head? = some (.balance r.destination, .number (.value b)) →
      ¬r.cap < b)
    (opened : h.answered ++ told = [] → out.2 = .cancelled)
    (dialogue : out.2 ≠ .cancelled → (progress.query? r).toList = told.map Prod.fst)
    (offers : ∀ since tried lease t, out.2 = .trying since tried lease (.broadcast t) →
      SignedTransfer.Pays t p r lease.signer) :
    Record p r out.2 (h.extend r told d out) out.1.watches := by
  unfold History.extend
  rw [watches, List.drop_length, List.append_nil]
  exact record.goOn ongoing unsettled untaken below opened dialogue offers _

theorem passGate (record : Record p r .gate h d.watches) (line : Entry) (reply : Reply Word)
    (offers : ∀ since tried lease t,
      ((d.write line).passGate p r reply).2 = .trying since tried lease (.broadcast t) →
      SignedTransfer.Pays t p r lease.signer) :
    Record p r ((d.write line).passGate p r reply).2
      (h.extend r [(.balance r.destination, .number reply)] d ((d.write line).passGate p r reply))
      ((d.write line).passGate p r reply).1.watches := by
  have watches : ((d.write line).passGate p r reply).1.watches = d.watches :=
    ((d.write line).passGate_keeps p r reply).watches
  cases reply with
  | crash m | failure f =>
    refine record.goOnTurn rfl watches ?_ rfl ?_ ?_ (fun _ => rfl) offers
    · trivial
    · intro _ b impossible
      cases impossible
    · intro impossible
      simp at impossible
  | value b =>
    by_cases exceeds : r.cap < b
    · have funded : Record p r _ _ d.watches := record.fund exceeds
      unfold Desk.passGate History.extend
      simp only [exceeds, if_true]
      simpa [Desk.conclude, Desk.note, Desk.write, Progress.query?] using funded
    · refine record.goOnTurn rfl watches ?_ rfl ?_ ?_ (fun _ => rfl) offers
      · simp only [Desk.passGate, exceeds, if_false]
        exact ((d.write line).beginRound_sought p d.now).unsettled
      · intro _ b' opening
        cases opening
        exact exceeds
      · intro impossible
        simp at impossible

theorem deliverTurn {since : Nat} {tried : List Address} {lease : Lease} {t : SignedTransfer}
    {hash : Digest} {line : Entry}
    (record : Record p r (.trying since tried lease (.broadcast t)) h d.watches)
    (same : Desk.SameTurn out ((d.write line).enact p since tried lease (.sent t hash))) :
    Record p r out.2 (h.extend r [(.broadcast t, .digest (.value hash))] d out) out.1.watches := by
  have watches : out.1.watches =
      d.watches ++ [⟨t.transaction lease hash d.now, lease, .planned⟩] := same.desk.watches
  have ended : out.2 =
      .ended (.inFlight ⟨t.value, t.transaction lease hash d.now, d.watches.length⟩) := same.progress
  unfold History.extend
  rw [watches, ended, List.drop_left]
  have delivered := record.deliver hash d.now
    (h.taken + (out.1.pool.totalLeases - d.pool.totalLeases))
  simpa [Progress.query?] using delivered

theorem strides (record : Record p r progress h d.watches)
    (s : d.Strides p number r e progress out) :
    Record p r out.2 (h.extend r (e.told r progress) d out) out.1.watches := by
  have offers : ∀ since tried lease t, out.2 = .trying since tried lease (.broadcast t) →
      SignedTransfer.Pays t p r lease.signer := fun _ _ _ _ after => (s.offers after).1
  cases s with
  | passes reply => exact record.passGate _ reply offers
  | wakes due =>
    refine record.goOnTurn rfl (d.beginRound_keeps p _).watches (d.beginRound_sought p _).unsettled
      rfl ?_ ?_ (fun _ => rfl) offers
    · intro _ b impossible
      cases impossible
    · intro silent
      have quiet : h.answered = [] := (List.append_eq_nil_iff.mp silent).1
      rcases record.opened quiet with impossible | impossible <;> cases impossible
  | drops ongoing =>
    have cancelled := d.cancel_progress ongoing
    refine record.goOnTurn ongoing (d.cancel_keeps progress).watches ?_ rfl ?_ ?_ ?_ offers
    · rw [cancelled]
      trivial
    · intro _ b impossible
      cases impossible
    · exact fun _ => cancelled
    · exact fun proceeds => absurd cancelled proceeds
  | @turns since tried lease stage q a turnout _ asking admitted decided same =>
    have told : Event.told r (.trying since tried lease stage) (.answerRequest number a) = [(q, a)] := by
      simp [Event.told, asking]
    rw [told]
    obtain ⟨t, hash, rfl⟩ | unsent := turnout.sent_or_not
    · obtain ⟨rfl, rfl⟩ := Stage.turnout?_sent decided
      obtain rfl : Query.broadcast t = q := by simpa [Progress.query?] using asking
      exact record.deliverTurn same
    · have kept := Desk.enact_keeps (d.write (.answered (.request number) q a)) p since tried lease
        turnout unsent
      refine record.goOnTurn rfl (same.desk.watches.trans kept.watches) ?_
        (Desk.accepted_of_unsent asking decided unsent) ?_ ?_ ?_ offers
      · rw [same.progress]
        exact Desk.enact_unsettled _ p since tried lease unsent
      · intro silent
        rcases record.opened silent with impossible | impossible <;> cases impossible
      · intro silent
        simp at silent
      · intro _
        rw [asking]
        rfl

end Record

namespace Faucet

/-- A request that has come in is on record; one that has not has done nothing. -/
structure Recorded (p : Policy) (f : Faucet) (number : Nat) (turns : List (Faucet × Faucet)) :
    Prop where
  present : ∀ {r progress}, f.requests[number]? = some (r, progress) →
    Record p r progress (f.historyAfter number turns) f.desk.watches
  absent : f.requests[number]? = none → f.historyAfter number turns = ⟨[], [], 0, []⟩

variable {p : Policy} {f g : Faucet} {e : Event} {number : Nat} {turns : List (Faucet × Faucet)}

theorem Recorded.of_others (h : f.Recorded p number turns) (c : Change p f e g)
    (other : f.mover? e ≠ some number) : g.Recorded p number turns := by
  obtain ⟨requests, -, -⟩ := c.others other
  have history := c.historyAfter_others other turns
  constructor
  · intro r progress found
    rw [requests] at found
    rw [history]
    exact (h.present found).keep fun k subject => c.subject_kept
  · intro missing
    rw [requests] at missing
    rw [history]
    exact h.absent missing

theorem Recorded.of_apart (h : f.Recorded p number turns) (left : f.Apart g) :
    g.Recorded p number (turns ++ [(f, g)]) := by
  have history := left.historyAfter number turns
  constructor
  · intro r progress found
    rw [left.requests] at found
    rw [history, left.watches]
    exact h.present found
  · intro missing
    rw [left.requests] at missing
    rw [history]
    exact h.absent missing

theorem Recorded.of_accept (h : f.Recorded p f.requests.length turns) (r : Request) :
    (f.accept r).Recorded p f.requests.length (turns ++ [(f, f.accept r)]) := by
  have before := h.absent (by simp)
  simp only [historyAfter, History.mk.injEq] at before
  obtain ⟨asked, answered, taken, begun⟩ := before
  have history : (f.accept r).historyAfter f.requests.length (turns ++ [(f, f.accept r)]) =
      ⟨[.balance r.destination], [], 0, []⟩ := by
    unfold historyAfter
    rw [leasesTaken_append, watchesBegun_append, taken, begun, accept_eq]
    simp [leasesTaken, watchesBegun, Desk.write, asked, answered]
  constructor
  · intro r' progress found
    have here : (f.accept r).requests[f.requests.length]? = some (r, .gate) := by
      rw [accept_eq]
      simp
    cases here.symm.trans found
    rw [history]
    exact .begin p r _
  · intro missing
    rw [accept_eq] at missing
    simp at missing

theorem Recorded.of_strides (h : f.Recorded p number turns) {r : Request} {progress : Progress}
    {out : Desk × Progress} (found : f.requests[number]? = some (r, progress))
    (s : f.desk.Strides p number r e progress out) :
    (f.put number r out).Recorded p number (turns ++ [(f, f.put number r out)]) := by
  obtain ⟨there, -⟩ := List.getElem?_eq_some_iff.mp found
  have history := historyAfter_put s turns
  constructor
  · intro r' after found'
    obtain ⟨-, rfl, rfl⟩ | ⟨elsewhere, -⟩ := getElem?_put found found'
    · rw [history]
      have strode := (h.present found).strides s
      simpa [put] using strode
    · exact absurd rfl elsewhere
  · intro missing
    simp [put, there] at missing

theorem Recorded.step (h : f.Recorded p number turns) (e : Event) :
    (f.step p e).Recorded p number
      (turns ++ if f.mover? e = some number then [(f, f.step p e)] else []) := by
  have changed := f.change_step p e
  generalize f.step p e = g at changed
  split
  · rename_i own
    cases changed with
    | apart left => exact h.of_apart left
    | accepts r =>
      obtain rfl := Option.some.inj own
      exact h.of_accept r
    | strides found s =>
      rw [mover?_of_strides s] at own
      obtain rfl := Option.some.inj own
      exact h.of_strides found s
    | tends found t =>
      rw [mover?_of_tends t] at own
      cases own
  · rename_i other
    rw [List.append_nil]
    exact h.of_others changed other

theorem Recorded.run (h : f.Recorded p number turns) (events : List Event) :
    (f.run p events).Recorded p number (turns ++ f.turns p number events) := by
  induction events generalizing f turns with
  | nil => simpa [Faucet.turns] using h
  | cons e rest ih =>
    have after := ih (h.step e)
    rwa [List.append_assoc] at after

/-- Whatever becomes of a request in a run, its progress is truthful about what it did in the run. -/
theorem run_truthful (signers : List Signer) (p : Policy) (events : List Event) :
    let start := fresh (.ofSigners signers)
    ∀ (number : Nat) r progress, (start.run p events).requests[number]? = some (r, progress) →
      Truthful p r progress (start.history p events number) (start.run p events).desk.watches := by
  intro start number r progress found
  have nothing : start.Recorded p number [] := by
    constructor
    · intro r progress impossible
      cases impossible
    · intro _
      rfl
  exact ((nothing.run events).present found).toTruthful

/-- A destination that holds more than the cap is left alone, and one that holds nothing gets three wei. -/
theorem run_truthful_three_wei :
    let p : Policy := ⟨31337, ⟨some 1, 1⟩, ⟨5000, 5000, none, none, 7, transferGas⟩⟩
    let start := fresh (.ofSigners [⟨.one, 31337⟩])
    let r : Request := ⟨⟨2⟩, 5, 3⟩
    let declined := [.request r, .answerRequest 0 (.number (.value 6))]
    (start.run p declined).requests[0]? = some (r, .ended (.alreadyFunded 6)) ∧
      Truthful p r (.ended (.alreadyFunded 6)) (start.history p declined 0)
        (start.run p declined).desk.watches ∧
    ∃ t, Transfer.threeWei.sign .one 31337 = .ok t ∧
      let events := [.request r, .answerRequest 0 (.number (.value 0)),
        .answerRequest 0 (.number (.value 10)), .answerRequest 0 (.number (.value 0)),
        .answerRequest 0 (.digest (.value t.hash))]
      let ticket : Ticket := ⟨3, t.transaction ⟨0, ⟨.one, 31337⟩⟩ t.hash 0, 0⟩
      (start.run p events).requests[0]? = some (r, .ended (.inFlight ticket)) ∧
        Truthful p r (.ended (.inFlight ticket)) (start.history p events 0)
          (start.run p events).desk.watches := by
  intro p start r declined
  have truthful (events : List Event) : ∀ (number : Nat) r progress,
      (start.run p events).requests[number]? = some (r, progress) →
        Truthful p r progress (start.history p events number) (start.run p events).desk.watches :=
    run_truthful [⟨.one, 31337⟩] p events
  have left : (start.run p declined).requests[0]? = some (r, .ended (.alreadyFunded 6)) := rfl
  obtain ⟨t, signing⟩ := Transfer.sign_threeWei
  refine ⟨left, truthful declined 0 r _ left, t, signing, ?_⟩
  intro events ticket
  have split : events = events.take 3 ++ [.answerRequest 0 (.number (.value 0)),
      .answerRequest 0 (.digest (.value t.hash))] := rfl
  let funded := start.run p (events.take 3)
  have found : funded.requests[0]? = some (r,
      .trying 0 [Account.one.address] ⟨0, ⟨.one, 31337⟩⟩ (.nonce 1)) := rfl
  have chosen : (funded.desk.pool.floor 0).next? 0 = some 0 := rfl
  have clock : funded.desk.now = 0 := rfl
  have unwatched : funded.desk.watches = [] := rfl
  have wanted : ⟨⟨2⟩, r.effectiveAmount p.terms, 0, p.terms.gasLimit, 1⟩ = Transfer.threeWei := rfl
  obtain ⟨same, -⟩ := Transfer.sign_eq_ok signing
  rw [← wanted] at signing
  obtain ⟨-, sent, -⟩ := run_of_signed p found chosen signing
  have value : t.value = 3 := by
    rw [same]
    rfl
  rw [value, clock, unwatched, ← run_append, ← split] at sent
  exact ⟨sent, truthful events 0 r (.ended (.inFlight ticket)) sent⟩

end Faucet

end GasFaucet
