import GasFaucet.Proofs.Turns

/-!
# Changes

What one event does to a running faucet.  It leaves all requests and watches alone, takes a request
in, makes one request stride on, or tends one watch.  A run is a list of such changes, so whatever
each of them keeps holds after every run.
-/

namespace GasFaucet

theorem getElem?_append_singleton_of_ne {α : Type} {l : List α} {i : Nat} (h : i ≠ l.length) (a : α) :
    (l ++ [a])[i]? = l[i]? := by
  rcases Nat.lt_or_gt_of_ne h with below | beyond
  · exact List.getElem?_append_left below
  · rw [List.getElem?_eq_none (by simp; omega), List.getElem?_eq_none (by omega)]

/-- Writes into the journal what an actor now asks, if anything. -/
def Desk.inquire (d : Desk) (who : Actor) : Option Query → Desk
  | some q => d.write (.asked who q)
  | none => d

namespace Desk

variable (d : Desk) (who : Actor) (q? : Option Query)

@[simp]
theorem inquire_now : (d.inquire who q?).now = d.now := by
  cases q? <;> rfl

@[simp]
theorem inquire_pool : (d.inquire who q?).pool = d.pool := by
  cases q? <;> rfl

@[simp]
theorem inquire_tally : (d.inquire who q?).tally = d.tally := by
  cases q? <;> rfl

@[simp]
theorem inquire_watches : (d.inquire who q?).watches = d.watches := by
  cases q? <;> rfl

@[simp]
theorem asks_inquire_self : asks (d.inquire who q?).journal who = asks d.journal who ++ q?.toList := by
  cases q? with
  | none => simp [inquire]
  | some q => exact asks_asked_self ..

@[simp]
theorem answers_inquire (other : Actor) :
    answers (d.inquire who q?).journal other = answers d.journal other := by
  cases q? with
  | none => rfl
  | some q => exact answers_asked ..

variable {who} in
theorem asks_inquire_of_ne {other : Actor} (apart : who ≠ other) :
    asks (d.inquire who q?).journal other = asks d.journal other := by
  cases q? with
  | none => rfl
  | some q => exact asks_asked_of_ne _ _ _ apart

end Desk

namespace Faucet

/-- The faucet after a request has left the desk with some progress; it asks what it then waits for. -/
def put (f : Faucet) (number : Nat) (r : Request) (out : Desk × Progress) : Faucet :=
  { f with
    desk := out.1.inquire (.request number) (out.2.query? r)
    requests := f.requests.set number (r, out.2) }

/-- Requests and watches are left alone, and so is everything that they share. -/
structure Apart (f g : Faucet) : Prop where
  requests : g.requests = f.requests
  pool : g.desk.pool = f.desk.pool
  tally : g.desk.tally = f.desk.tally
  watches : g.desk.watches = f.desk.watches
  asks : ∀ {who}, (∀ number index, who ≠ .census number index) →
    asks g.desk.journal who = asks f.desk.journal who
  answers : ∀ {who}, (∀ number index, who ≠ .census number index) →
    answers g.desk.journal who = answers f.desk.journal who

inductive Change (p : Policy) (f : Faucet) : Event → Faucet → Prop
  | apart {e g} : f.Apart g → Change p f e g
  | accepts (r : Request) : Change p f (.request r) (f.accept r)
  | strides {number r progress e out} : f.requests[number]? = some (r, progress) →
      f.desk.Strides p number r e progress out → Change p f e (f.put number r out)
  | tends {number w e d} : f.desk.watches[number]? = some w →
      f.desk.Tends p number w e d → Change p f e { f with desk := d }

namespace Apart

variable {f g h : Faucet}

theorem refl (f : Faucet) : f.Apart f :=
  ⟨rfl, rfl, rfl, rfl, fun _ => rfl, fun _ => rfl⟩

theorem trans (first : f.Apart g) (second : g.Apart h) : f.Apart h where
  requests := second.requests.trans first.requests
  pool := second.pool.trans first.pool
  tally := second.tally.trans first.tally
  watches := second.watches.trans first.watches
  asks other := (second.asks other).trans (first.asks other)
  answers other := (second.answers other).trans (first.answers other)

end Apart

theorem writeQuery_eq (f : Faucet) (who : Actor) :
    f.writeQuery who = { f with desk := f.desk.inquire who (f.query? who) } := by
  unfold writeQuery
  cases f.query? who <;> rfl

theorem writeQuery_census_apart (f : Faucet) (number index : Nat) :
    f.Apart (f.writeQuery (.census number index)) := by
  rw [writeQuery_eq]
  exact ⟨rfl, by simp, by simp, by simp,
    fun other => Desk.asks_inquire_of_ne _ _ (other number index).symm, fun _ => by simp⟩

theorem hear?_eq_some {f g : Faucet} {who : Actor} {a : Answer} (heard : f.hear? who a = some g) :
    ∃ q, f.query? who = some q ∧ q.admits a = true ∧
      g = { f with desk := f.desk.write (.answered who q a) } := by
  unfold hear? at heard
  split at heard
  · rename_i q asking
    split at heard
    · exact ⟨q, asking, ‹_›, (Option.some.inj heard).symm⟩
    · cases heard
  · cases heard

section Request

variable {f : Faucet} {number : Nat} {r : Request} {progress : Progress}

theorem query?_request (found : f.requests[number]? = some (r, progress)) :
    f.query? (.request number) = progress.query? r := by
  simp [query?, found]

theorem runRequest_eq (found : f.requests[number]? = some (r, progress))
    (run : Desk → Request → Progress → Desk × Progress) :
    f.runRequest number run = f.put number r (run f.desk r progress) := by
  obtain ⟨there, -⟩ := List.getElem?_eq_some_iff.mp found
  unfold runRequest put
  rw [found]
  dsimp only
  generalize run f.desk r progress = out
  have entered : (f.requests.set number (r, out.2))[number]? = some (r, out.2) := by simp [there]
  rw [writeQuery_eq, query?_request entered]

end Request

variable (p : Policy) (f : Faucet)

theorem accept_eq (r : Request) : f.accept r =
    { f with
      desk := f.desk.write (.asked (.request f.requests.length) (.balance r.destination))
      requests := f.requests ++ [(r, .gate)] } := by
  have last : (f.requests ++ [(r, Progress.gate)])[f.requests.length]? = some (r, .gate) := by simp
  unfold accept
  rw [writeQuery_eq, query?_request last]
  rfl

theorem getElem?_accept {r r' : Request} {number : Nat} {progress : Progress}
    (found : (f.accept r).requests[number]? = some (r', progress)) :
    f.requests[number]? = some (r', progress) ∨
      number = f.requests.length ∧ r' = r ∧ progress = .gate := by
  rw [accept_eq] at found
  by_cases last : number = f.requests.length
  · subst last
    right
    simp only [List.getElem?_concat_length, Option.some.injEq, Prod.mk.injEq] at found
    obtain ⟨rfl, rfl⟩ := found
    exact ⟨rfl, rfl, rfl⟩
  · left
    rwa [getElem?_append_singleton_of_ne last] at found

theorem getElem?_put {f : Faucet} {number other : Nat} {entry : Request × Progress} {r r' : Request}
    {out : Desk × Progress} {progress : Progress} (known : f.requests[number]? = some entry)
    (found : (f.put number r out).requests[other]? = some (r', progress)) :
    (other = number ∧ r' = r ∧ progress = out.2) ∨
      other ≠ number ∧ f.requests[other]? = some (r', progress) := by
  obtain ⟨there, -⟩ := List.getElem?_eq_some_iff.mp known
  by_cases same : other = number
  · subst same
    simp only [put, List.getElem?_set_self there, Option.some.injEq, Prod.mk.injEq] at found
    obtain ⟨rfl, rfl⟩ := found
    exact .inl ⟨rfl, rfl, rfl⟩
  · have elsewhere : number ≠ other := fun h => same h.symm
    simp only [put, List.getElem?_set_ne elsewhere] at found
    exact .inr ⟨same, found⟩

theorem getElem?_put_self {f : Faucet} {number : Nat} {entry : Request × Progress} {r : Request}
    {out : Desk × Progress} (known : f.requests[number]? = some entry) :
    (f.put number r out).requests[number]? = some (r, out.2) := by
  obtain ⟨there, -⟩ := List.getElem?_eq_some_iff.mp known
  exact List.getElem?_set_self there

theorem strides_answerRequest {f : Faucet} {number : Nat} {r : Request} {progress : Progress}
    {q : Query} {a : Answer} (found : f.requests[number]? = some (r, progress))
    (asking : progress.query? r = some q) (admitted : q.admits a = true) (p : Policy) :
    ∃ out, f.desk.Strides p number r (.answerRequest number a) progress out ∧
      f.answerRequest p number a = f.put number r out := by
  have heard : f.hear? (.request number) a =
      some { f with desk := f.desk.write (.answered (.request number) q a) } := by
    unfold hear?
    rw [query?_request found, asking]
    exact if_pos admitted
  have there : ({ f with desk := f.desk.write (.answered (.request number) q a) } :
      Faucet).requests[number]? = some (r, progress) := found
  refine ⟨_, f.desk.strides_resume asking admitted number, ?_⟩
  unfold answerRequest
  rw [heard]
  exact runRequest_eq there _

theorem change_answerRequest (number : Nat) (a : Answer) :
    Change p f (.answerRequest number a) (f.answerRequest p number a) := by
  cases heard : f.hear? (.request number) a with
  | none =>
    have still : f.answerRequest p number a = f := by simp [answerRequest, heard]
    rw [still]
    exact .apart (.refl f)
  | some g =>
    obtain ⟨q, asking, admitted, -⟩ := hear?_eq_some heard
    obtain ⟨⟨r, progress⟩, found, waits⟩ := Option.bind_eq_some_iff.mp asking
    obtain ⟨out, strides, result⟩ := strides_answerRequest found waits admitted p
    rw [result]
    exact .strides found strides

theorem change_wakeRequest (number : Nat) :
    Change p f (.wakeRequest number) (f.wakeRequest p number) := by
  unfold wakeRequest wakeAt?
  dsimp only
  cases found : f.requests[number]? with
  | none => exact .apart (.refl f)
  | some entry =>
    obtain ⟨r, progress⟩ := entry
    cases progress with
    | resting since wakeAt =>
      dsimp only
      split
      · rename_i due
        rw [runRequest_eq found]
        simp only [Desk.wake, due, if_true]
        exact .strides found (.wakes due)
      · exact .apart (.refl f)
    | gate | trying _ _ _ _ | ended _ | crashed _ _ | cancelled => exact .apart (.refl f)

theorem change_cancelRequest (number : Nat) :
    Change p f (.cancelRequest number) (f.cancelRequest number) := by
  unfold cancelRequest
  cases found : f.requests[number]? with
  | none => exact .apart (.refl f)
  | some entry =>
    obtain ⟨r, progress⟩ := entry
    dsimp only
    by_cases done : progress.isOver = true
    · have same : f.desk.cancel progress = (f.desk, progress) := by simp [Desk.cancel, done]
      obtain ⟨_, here⟩ := List.getElem?_eq_some_iff.mp found
      rw [same, ← here, List.set_getElem_self]
      exact .apart (.refl f)
    · have ongoing : progress.isOver = false := by simpa using done
      have silent : (f.desk.cancel progress).2.query? r = none := by
        rw [f.desk.cancel_progress ongoing]
        rfl
      have dropped : Change p f (.cancelRequest number) (f.put number r (f.desk.cancel progress)) :=
        .strides found (.drops ongoing)
      unfold put at dropped
      rw [silent] at dropped
      exact dropped

theorem query?_watch {f : Faucet} {number : Nat} {w : Watch}
    (found : f.desk.watches[number]? = some w) : f.query? (.watch number) = w.query? := by
  simp [query?, found]

theorem getElem?_setWatch {d : Desk} {number : Nat} {w : Watch}
    (found : d.watches[number]? = some w) (progress : WatchProgress) :
    (d.setWatch number progress).watches[number]? = some { w with progress := progress } := by
  simp [Desk.setWatch, found]

theorem getElem?_concludeWatch {d : Desk} {number : Nat} {w : Watch}
    (found : d.watches[number]? = some w) (line : Entry) (p : Policy) (c : Conclusion) :
    ((d.write line).concludeWatch p number w c).watches[number]? =
      some { w with progress := .concluded c } := by
  cases c <;> exact getElem?_setWatch found _

theorem change_wakeWatch (number : Nat) :
    Change p f (.wakeWatch number) (f.wakeWatch p number) := by
  unfold wakeWatch Desk.wakeWatch
  cases found : f.desk.watches[number]? with
  | none =>
    have silent : f.query? (.watch number) = none := by simp [query?, found]
    rw [silent]
    dsimp only
    rw [writeQuery_eq, silent]
    exact .apart (.refl f)
  | some w =>
    rw [query?_watch found]
    obtain ⟨transaction, lease, progress⟩ := w
    dsimp only [Watch.query?]
    cases progress with
    | asking since => exact .apart (.refl f)
    | planned =>
      dsimp only
      rw [writeQuery_eq, query?_watch (getElem?_setWatch found _)]
      exact .tends found (.begins rfl)
    | sleeping since wakeAt =>
      dsimp only
      split
      · rename_i due
        rw [writeQuery_eq, query?_watch (getElem?_setWatch found _)]
        exact .tends found (.looks rfl due)
      · rw [writeQuery_eq, query?_watch found]
        exact .apart (.refl f)
    | concluded _ | crashed =>
      dsimp only
      rw [writeQuery_eq, query?_watch found]
      exact .apart (.refl f)

theorem change_answerWatch (number : Nat) (a : Answer) :
    Change p f (.answerWatch number a) (f.answerWatch p number a) := by
  unfold answerWatch
  cases a with
  | number _ | digest _ => exact .apart (.refl f)
  | mined reply =>
    cases heard : f.hear? (.watch number) (.mined reply) with
    | none => exact .apart (.refl f)
    | some g =>
      obtain ⟨q, asking, -, rfl⟩ := hear?_eq_some heard
      obtain ⟨w, found, waits⟩ := Option.bind_eq_some_iff.mp asking
      obtain ⟨transaction, lease, progress⟩ := w
      cases progress with
      | asking since =>
        obtain rfl : Query.receipt transaction.hash = q := by simpa [Watch.query?] using waits
        exact .tends found (Desk.tends_onReceipt found rfl reply)
      | planned | sleeping _ _ | concluded _ | crashed => cases waits

theorem Apart.writeQueries {f g : Faucet} (begun : f.Apart g) (number : Nat) (places : List Nat) :
    f.Apart (places.foldl (fun g index => g.writeQuery (.census number index)) g) := by
  induction places generalizing g with
  | nil => exact begun
  | cons index rest ih => exact ih (begun.trans (g.writeQuery_census_apart number index))

theorem beginCensus_apart : f.Apart f.beginCensus := by
  have begun : f.Apart { f with censuses := f.censuses ++ [.start f.desk.pool] } :=
    ⟨rfl, rfl, rfl, rfl, fun _ => rfl, fun _ => rfl⟩
  exact begun.writeQueries _ _

theorem answerCensus_apart (number index : Nat) (a : Answer) :
    f.Apart (f.answerCensus number index a) := by
  unfold answerCensus
  cases a with
  | digest _ | mined _ => exact .refl f
  | number reply =>
    cases heard : f.hear? (.census number index) (.number reply) with
    | none => exact .refl f
    | some g =>
      obtain ⟨q, -, -, rfl⟩ := hear?_eq_some heard
      exact ⟨rfl, rfl, rfl, rfl, fun _ => asks_answered ..,
        fun other => answers_answered_of_ne _ _ _ _ (other number index).symm⟩

/-- An event leaves requests and watches alone, begins a request, or lets a single one go on. -/
theorem change_step (e : Event) : Change p f e (f.step p e) := by
  cases e with
  | request r => exact .accepts r
  | answerRequest number a => exact f.change_answerRequest p number a
  | wakeRequest number => exact f.change_wakeRequest p number
  | cancelRequest number => exact f.change_cancelRequest p number
  | wakeWatch number => exact f.change_wakeWatch p number
  | answerWatch number a => exact f.change_answerWatch p number a
  | census => exact .apart f.beginCensus_apart
  | answerCensus number index a => exact .apart (f.answerCensus_apart number index a)
  | stop => exact .apart ⟨rfl, rfl, rfl, rfl, fun _ => asks_noted .., fun _ => answers_noted ..⟩
  | pass ms => exact .apart ⟨rfl, rfl, rfl, rfl, fun _ => rfl, fun _ => rfl⟩

variable {p f} in
/-- A request is as it was, has just come in, or has just strode on. -/
theorem Change.request {e : Event} {g : Faucet} (c : Change p f e g) {number : Nat} {r : Request}
    {progress : Progress} (found : g.requests[number]? = some (r, progress)) :
    f.requests[number]? = some (r, progress) ∨ progress = .gate ∨
      ∃ before out, f.requests[number]? = some (r, before) ∧
        f.desk.Strides p number r e before out ∧ progress = out.2 := by
  cases c with
  | apart left =>
    rw [left.requests] at found
    exact .inl found
  | accepts r' =>
    obtain stays | ⟨-, -, begins⟩ := f.getElem?_accept found
    · exact .inl stays
    · exact .inr (.inl begins)
  | strides known s =>
    obtain ⟨rfl, rfl, after⟩ | ⟨-, stays⟩ := getElem?_put known found
    · exact .inr (.inr ⟨_, _, known, s, after⟩)
    · exact .inl stays
  | tends watched t => exact .inl found

variable {p f} in
theorem Change.signer {e : Event} {g : Faucet} (c : Change p f e g) (index : Nat) :
    g.desk.pool.signerAt? index = f.desk.pool.signerAt? index := by
  cases c with
  | apart left => rw [left.pool]
  | accepts r =>
    rw [accept_eq]
    rfl
  | strides found s =>
    unfold put
    rw [Desk.inquire_pool]
    exact s.signer index
  | tends found t => exact t.signer index

section Broadcast

variable {f : Faucet}

theorem query?_eq_broadcast {who : Actor} {t : SignedTransfer}
    (asking : f.query? who = some (.broadcast t)) :
    ∃ number r since tried lease, who = .request number ∧
      f.requests[number]? = some (r, .trying since tried lease (.broadcast t)) := by
  cases who with
  | request number =>
    obtain ⟨⟨r, progress⟩, found, waits⟩ := Option.bind_eq_some_iff.mp asking
    cases progress with
    | trying since tried lease stage =>
      cases stage with
      | broadcast t' =>
        obtain rfl : t' = t := by simpa [Progress.query?] using waits
        exact ⟨number, r, since, tried, lease, rfl, found⟩
      | balance | gasPrice | nonce _ => cases waits
    | gate | resting _ _ | ended _ | crashed _ _ | cancelled => cases waits
  | watch number =>
    obtain ⟨w, -, waits⟩ := Option.bind_eq_some_iff.mp asking
    unfold Watch.query? at waits
    split at waits <;> cases waits
  | census number index =>
    unfold query? at asking
    dsimp only at asking
    split at asking
    · cases asking
    · split at asking <;> cases asking

variable {number : Nat} {r : Request} {since : Nat} {tried : List Address} {lease : Lease}
  {t : SignedTransfer}

theorem request_of_signed {price reported nonce : Word}
    (found : f.requests[number]? = some (r, .trying since tried lease (.nonce price)))
    (chosen : (f.desk.pool.floor lease.index).next? reported = some nonce)
    (signing : lease.signer.sign
      ⟨r.destination, r.effectiveAmount p.terms, nonce, p.terms.gasLimit, price⟩ = .ok t) :
    let g := f.answerRequest p number (.number (.value reported))
    g.requests[number]? = some (r, .trying since tried lease (.broadcast t)) ∧
      g.desk.now = f.desk.now ∧ g.desk.watches = f.desk.watches := by
  intro g
  obtain ⟨out, s, result⟩ := strides_answerRequest (q := .nonce lease.signer.address)
    (a := .number (.value reported)) found rfl rfl p
  obtain ⟨goesOn, now, watches⟩ := s.signs chosen signing
  have put : g = f.put number r out := result
  rw [put, getElem?_put_self found, goesOn]
  unfold Faucet.put
  rw [Desk.inquire_now, Desk.inquire_watches]
  exact ⟨rfl, now, watches⟩

theorem request_of_sent
    (found : f.requests[number]? = some (r, .trying since tried lease (.broadcast t)))
    (p : Policy) (hash : Digest) :
    let g := f.answerRequest p number (.digest (.value hash))
    g.requests[number]? = some (r, .ended
      (.inFlight ⟨t.value, t.transaction lease hash f.desk.now, f.desk.watches.length⟩)) ∧
      g.desk.now = f.desk.now ∧
      g.desk.watches = f.desk.watches ++ [⟨t.transaction lease hash f.desk.now, lease, .planned⟩] := by
  intro g
  obtain ⟨out, s, result⟩ := strides_answerRequest (q := .broadcast t)
    (a := .digest (.value hash)) found rfl rfl p
  have put : g = f.put number r out := result
  rw [put, getElem?_put_self found, s.sends.progress]
  unfold Faucet.put
  rw [Desk.inquire_now, Desk.inquire_watches, s.sends.desk.now, s.sends.desk.watches]
  exact ⟨rfl, rfl, rfl⟩

/-- A transfer that was taken has ended its request; the others are where they were. -/
theorem request_of_taken
    (found : f.requests[number]? = some (r, .trying since tried lease (.broadcast t)))
    (p : Policy) (hash : Digest) {other : Nat} {r' : Request} {since' : Nat} {tried' : List Address}
    {lease' : Lease} {stage : Stage}
    (found' : (f.answerRequest p number (.digest (.value hash))).requests[other]? =
      some (r', .trying since' tried' lease' stage)) :
    other ≠ number ∧ f.requests[other]? = some (r', .trying since' tried' lease' stage) := by
  obtain ⟨out, s, result⟩ := strides_answerRequest (q := .broadcast t)
    (a := .digest (.value hash)) found rfl rfl p
  rw [result] at found'
  obtain ⟨-, -, after⟩ | elsewhere := getElem?_put found found'
  · rw [s.sends.progress] at after
    cases after
  · exact elsewhere

/-- A request that is told its nonce, and whose transfer the node then takes, leaves it under watch. -/
theorem run_of_signed {price reported nonce : Word}
    (found : f.requests[number]? = some (r, .trying since tried lease (.nonce price)))
    (chosen : (f.desk.pool.floor lease.index).next? reported = some nonce)
    (signing : lease.signer.sign
      ⟨r.destination, r.effectiveAmount p.terms, nonce, p.terms.gasLimit, price⟩ = .ok t) :
    let offering := f.answerRequest p number (.number (.value reported))
    let g := f.run p [.answerRequest number (.number (.value reported)),
      .answerRequest number (.digest (.value t.hash))]
    offering.query? (.request number) = some (.broadcast t) ∧
      g.requests[number]? = some (r, .ended
        (.inFlight ⟨t.value, t.transaction lease t.hash f.desk.now, f.desk.watches.length⟩)) ∧
      g.desk.now = f.desk.now ∧ g.desk.watches =
        f.desk.watches ++ [⟨t.transaction lease t.hash f.desk.now, lease, .planned⟩] := by
  intro offering g
  obtain ⟨offers, now, watches⟩ := request_of_signed p found chosen signing
  have sent := request_of_sent offers p t.hash
  rw [now, watches] at sent
  exact ⟨query?_request offers, sent⟩

end Broadcast

@[simp]
theorem run_nil : f.run p [] = f := rfl

@[simp]
theorem run_cons (e : Event) (events : List Event) :
    f.run p (e :: events) = (f.step p e).run p events := rfl

theorem run_append (events more : List Event) : f.run p (events ++ more) = (f.run p events).run p more :=
  List.foldl_append

/-- What every change keeps holds after every run. -/
theorem run_induction {P : Faucet → Prop} (begins : P f)
    (keeps : ∀ {f e g}, P f → Change p f e g → P g) (events : List Event) : P (f.run p events) := by
  induction events generalizing f with
  | nil => exact begins
  | cons e rest ih => exact ih _ (keeps begins (f.change_step p e))

end Faucet

end GasFaucet
