import GasFaucet.Proofs.Changes

/-!
# Histories

What one request does in the course of a run: what it asks and is answered, how many leases it takes
in its turns, and which watches it begins in them.  The turns of all others leave its history alone.
-/

namespace GasFaucet

/-- What a request has done so far. -/
structure History where
  asked : List Query
  answered : List (Query × Answer)
  taken : Nat
  begun : List Watch

def History.extend (h : History) (r : Request) (told : List (Query × Answer)) (d : Desk)
    (out : Desk × Progress) : History where
  asked := h.asked ++ (out.2.query? r).toList
  answered := h.answered ++ told
  taken := h.taken + (out.1.pool.totalLeases - d.pool.totalLeases)
  begun := h.begun ++ out.1.watches.drop d.watches.length

def Watch.subject (w : Watch) : Transaction × Lease :=
  (w.transaction, w.lease)

namespace Desk

variable {d : Desk} {p : Policy} {number : Nat} {r : Request} {e : Event} {progress : Progress}
variable {out : Desk × Progress}

theorem Strides.spoken (s : d.Strides p number r e progress out) :
    spoken out.1.journal =
      spoken (d.hear (.request number) (e.told r progress)).journal := by
  obtain kept | ⟨_, _, _, t, _, rfl, rfl, same⟩ := s.keeps_or_sends
  · exact kept.spoken
  · exact same.desk.spoken

theorem Strides.asks (s : d.Strides p number r e progress out) (who : Actor) :
    asks out.1.journal who = asks d.journal who := by
  rw [asks_congr s.spoken]
  unfold Event.told hear
  split
  · cases progress.query? r <;> simp
  · rfl

theorem Strides.answers_self (s : d.Strides p number r e progress out) :
    answers out.1.journal (.request number) =
      answers d.journal (.request number) ++ e.told r progress := by
  rw [answers_congr s.spoken]
  unfold Event.told hear
  split
  · cases progress.query? r <;> simp
  · simp

theorem Strides.answers_of_ne (s : d.Strides p number r e progress out) {who : Actor}
    (other : .request number ≠ who) : answers out.1.journal who = answers d.journal who := by
  rw [answers_congr s.spoken]
  unfold Event.told hear
  split
  · cases progress.query? r with
    | none => rfl
    | some q => exact answers_answered_of_ne _ _ _ _ other
  · rfl

variable {w : Watch} {d' : Desk}

theorem Tends.dialogue (t : d.Tends p number w e d') {who : Actor} (elsewhere : .watch number ≠ who) :
    GasFaucet.asks d'.journal who = GasFaucet.asks d.journal who ∧
      answers d'.journal who = answers d.journal who := by
  have heard {q : Query} {a : Answer} (said : GasFaucet.spoken d'.journal =
      GasFaucet.spoken ((d.now, .answered (.watch number) q a) :: d.journal)) :
      GasFaucet.asks d'.journal who = GasFaucet.asks d.journal who ∧
        answers d'.journal who = answers d.journal who := by
    rw [asks_congr said, answers_congr said]
    exact ⟨asks_answered .., answers_answered_of_ne _ _ _ _ elsewhere⟩
  cases t with
  | begins planned => exact ⟨rfl, rfl⟩
  | looks sleeping due => exact ⟨asks_asked_of_ne _ _ _ elsewhere, answers_asked ..⟩
  | waits asking alike => exact heard alike.spoken
  | breaks m asking => exact heard rfl
  | concludes c asking => cases c <;> exact heard rfl

theorem Tends.subjects (t : d.Tends p number w e d') (k : Nat) :
    d'.watches[k]?.map Watch.subject = d.watches[k]?.map Watch.subject := by
  have kept (progress : WatchProgress) :
      (d.setWatch number progress).watches[k]?.map Watch.subject =
        d.watches[k]?.map Watch.subject := by
    unfold setWatch
    rw [List.getElem?_modify]
    cases d.watches[k]? with
    | none => simp
    | some w => by_cases same : number = k <;> simp [same, Watch.subject]
  cases t with
  | begins planned => exact kept _
  | looks sleeping due => exact kept _
  | waits asking alike =>
    rw [alike.watches]
    exact kept _
  | breaks m asking => exact kept _
  | concludes c asking => cases c <;> exact kept _

end Desk

namespace Faucet

def mover? (f : Faucet) : Event → Option Nat
  | .request _ => some f.requests.length
  | .answerRequest number _ | .wakeRequest number | .cancelRequest number => some number
  | _ => none

/-- The turns of one request in a run: the faucet before and after each of them. -/
def turns (p : Policy) (number : Nat) : Faucet → List Event → List (Faucet × Faucet)
  | _, [] => []
  | f, e :: events =>
      (if f.mover? e = some number then [(f, f.step p e)] else []) ++ turns p number (f.step p e) events

def leasesTaken : List (Faucet × Faucet) → Nat
  | [] => 0
  | (f, g) :: rest => g.desk.pool.totalLeases - f.desk.pool.totalLeases + leasesTaken rest

def watchesBegun : List (Faucet × Faucet) → List Watch
  | [] => []
  | (f, g) :: rest => g.desk.watches.drop f.desk.watches.length ++ watchesBegun rest

def historyAfter (f : Faucet) (number : Nat) (turns : List (Faucet × Faucet)) : History where
  asked := asks f.desk.journal (.request number)
  answered := answers f.desk.journal (.request number)
  taken := leasesTaken turns
  begun := watchesBegun turns

def history (f : Faucet) (p : Policy) (events : List Event) (number : Nat) : History :=
  (f.run p events).historyAfter number (f.turns p number events)

@[simp]
theorem leasesTaken_append (l k : List (Faucet × Faucet)) :
    leasesTaken (l ++ k) = leasesTaken l + leasesTaken k := by
  induction l with
  | nil => simp [leasesTaken]
  | cons turn rest ih => simp [leasesTaken, ih, Nat.add_assoc]

@[simp]
theorem watchesBegun_append (l k : List (Faucet × Faucet)) :
    watchesBegun (l ++ k) = watchesBegun l ++ watchesBegun k := by
  induction l with
  | nil => rfl
  | cons turn rest ih => simp [watchesBegun, ih]

variable {p : Policy} {f g : Faucet} {e : Event} {number : Nat}

theorem mover?_of_strides {r : Request} {progress : Progress} {out : Desk × Progress}
    (s : f.desk.Strides p number r e progress out) : f.mover? e = some number := by
  cases s <;> rfl

theorem mover?_of_tends {w : Watch} {d : Desk} (t : f.desk.Tends p number w e d) :
    f.mover? e = none := by
  cases t <;> rfl

theorem Change.others (c : Change p f e g) (other : f.mover? e ≠ some number) :
    g.requests[number]? = f.requests[number]? ∧
      asks g.desk.journal (.request number) = asks f.desk.journal (.request number) ∧
      answers g.desk.journal (.request number) = answers f.desk.journal (.request number) := by
  cases c with
  | apart left =>
    rw [left.requests]
    exact ⟨rfl, left.asks fun _ _ => Actor.noConfusion, left.answers fun _ _ => Actor.noConfusion⟩
  | accepts r =>
    have elsewhere : f.requests.length ≠ number := fun same => other (same ▸ rfl)
    have speaker : Actor.request f.requests.length ≠ .request number :=
      fun same => elsewhere (Actor.request.inj same)
    rw [accept_eq]
    exact ⟨getElem?_append_singleton_of_ne (Ne.symm elsewhere) _, asks_asked_of_ne _ _ _ speaker,
      answers_asked ..⟩
  | @strides mover r progress _ out found s =>
    have elsewhere : mover ≠ number := by
      rintro rfl
      exact other (mover?_of_strides s)
    have speaker : Actor.request mover ≠ .request number :=
      fun same => elsewhere (Actor.request.inj same)
    unfold put
    refine ⟨List.getElem?_set_ne elsewhere, ?_, ?_⟩
    · rw [Desk.asks_inquire_of_ne _ _ speaker, s.asks]
    · rw [Desk.answers_inquire, s.answers_of_ne speaker]
  | tends found t => exact ⟨rfl, t.dialogue Actor.noConfusion⟩

theorem Change.historyAfter_others (c : Change p f e g) (other : f.mover? e ≠ some number)
    (turns : List (Faucet × Faucet)) : g.historyAfter number turns = f.historyAfter number turns := by
  obtain ⟨-, asked, answered⟩ := c.others other
  unfold historyAfter
  rw [asked, answered]

theorem Apart.historyAfter (left : f.Apart g) (number : Nat) (turns : List (Faucet × Faucet)) :
    g.historyAfter number (turns ++ [(f, g)]) = f.historyAfter number turns := by
  unfold Faucet.historyAfter
  rw [left.asks fun _ _ => Actor.noConfusion, left.answers fun _ _ => Actor.noConfusion]
  simp [leasesTaken, watchesBegun, left.pool, left.watches]

theorem historyAfter_put {r : Request} {progress : Progress} {out : Desk × Progress}
    (s : f.desk.Strides p number r e progress out) (turns : List (Faucet × Faucet)) :
    (f.put number r out).historyAfter number (turns ++ [(f, f.put number r out)]) =
      (f.historyAfter number turns).extend r (e.told r progress) f.desk out := by
  unfold historyAfter put
  rw [leasesTaken_append, watchesBegun_append, Desk.asks_inquire_self, Desk.answers_inquire, s.asks,
    s.answers_self]
  simp [leasesTaken, watchesBegun, History.extend]

theorem Change.subject_kept (c : Change p f e g) {k : Nat} {subject : Transaction × Lease}
    (known : f.desk.watches[k]?.map Watch.subject = some subject) :
    g.desk.watches[k]?.map Watch.subject = some subject := by
  cases c with
  | apart left => rwa [left.watches]
  | accepts r =>
    rw [accept_eq]
    exact known
  | strides found s =>
    unfold put
    rw [Desk.inquire_watches]
    obtain kept | ⟨_, _, _, _, _, -, -, same⟩ := s.keeps_or_sends
    · rwa [kept.watches]
    · obtain ⟨w, found', -⟩ := Option.map_eq_some_iff.mp known
      obtain ⟨there, -⟩ := List.getElem?_eq_some_iff.mp found'
      rw [same.desk.watches]
      change (f.desk.watches ++ [_])[k]?.map Watch.subject = _
      rwa [List.getElem?_append_left there]
  | tends found t =>
    dsimp only
    rwa [t.subjects]

end Faucet

end GasFaucet
