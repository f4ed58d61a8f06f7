import GasFaucet.Proofs.Exclusivity

/-!
# Nonces

The transfers that the node takes from one signer have rising nonces, as long as no watch over one of
them gives up.  A signer's nonce floor holds the last of these nonces, and nothing but a taken transfer
or a watch that gives up changes it.
-/

namespace GasFaucet

/-- What becomes known about the nonces of one signer. -/
inductive Mark
  | sent (nonce : Word)
  | gaveUp
  deriving DecidableEq

/-- Nonces rise from one mark to the next unless a watch gave up between them. -/
def Rising (marks : List Mark) : Prop :=
  ∀ earlier m between n later, marks = earlier ++ .sent m :: between ++ .sent n :: later →
    .gaveUp ∉ between → m < n

/-- The nonce floor that the marks leave behind: the last nonce sent, if nothing was given up since. -/
def latest (marks : List Mark) : NonceFloor :=
  match marks.getLast? with
  | some (.sent nonce) => ⟨some nonce⟩
  | some .gaveUp | none => .clear

@[simp]
theorem latest_append_sent (marks : List Mark) (nonce : Word) :
    latest (marks ++ [.sent nonce]) = ⟨some nonce⟩ := by
  simp [latest]

@[simp]
theorem latest_append_gaveUp (marks : List Mark) : latest (marks ++ [.gaveUp]) = .clear := by
  simp [latest]

theorem latest_eq_some_iff {marks : List Mark} {nonce : Word} :
    (latest marks).lastSent = some nonce ↔ marks.getLast? = some (.sent nonce) := by
  unfold latest
  cases marks.getLast? with
  | none => simp [NonceFloor.clear]
  | some mark => cases mark <;> simp [NonceFloor.clear]

theorem Rising.nil : Rising [] := by
  intro earlier m between n later split
  simp at split

/-- Of two nonces in a list that is longer by one mark, the second is the new one or both were there. -/
theorem Rising.append {marks : List Mark} (h : Rising marks) {mark : Mark}
    (ends : ∀ earlier m between n, marks = earlier ++ .sent m :: between → mark = .sent n →
      .gaveUp ∉ between → m < n) : Rising (marks ++ [mark]) := by
  intro earlier m between n later split kept
  rcases List.eq_nil_or_concat later with rfl | ⟨later, last, rfl⟩
  · obtain ⟨same, ending⟩ := List.append_inj' split rfl
    exact ends earlier m between n same (List.singleton_inj.mp ending) kept
  · rw [List.concat_eq_append, ← List.cons_append, ← List.append_assoc] at split
    obtain ⟨same, -⟩ := List.append_inj' split rfl
    exact h earlier m between n later same kept

theorem Rising.append_gaveUp {marks : List Mark} (h : Rising marks) : Rising (marks ++ [.gaveUp]) := by
  apply h.append
  intro earlier m between n _ impossible
  cases impossible

theorem Rising.append_sent {marks : List Mark} (h : Rising marks) {nonce : Word}
    (above : ∀ last, (latest marks).lastSent = some last → last < nonce) :
    Rising (marks ++ [.sent nonce]) := by
  apply h.append
  intro earlier m between n split newest kept
  obtain rfl := Mark.sent.inj newest
  -- What was sent last since then exceeds the first nonce or is it, and is below the new one.
  rcases List.eq_nil_or_concat between with rfl | ⟨between, last, rfl⟩
  · exact above m (by rw [split, latest_append_sent])
  · rw [List.concat_eq_append] at split kept
    cases last with
    | gaveUp => simp at kept
    | sent k =>
      have first : m < k := by
        refine h earlier m between k [] ?_ fun given => kept (List.mem_append_left _ given)
        rw [split, ← List.cons_append, ← List.append_assoc]
      have second : k < nonce := by
        apply above
        rw [split, ← List.cons_append, ← List.append_assoc, latest_append_sent]
      exact BitVec.lt_trans first second

def Watch.gaveUp (w : Watch) : Bool :=
  match w.progress with
  | .concluded (.givenUp _) => true
  | _ => false

theorem Watch.report?_of_gaveUp {w : Watch} (h : w.gaveUp = true) : w.report? ≠ none := by
  obtain ⟨transaction, lease, progress⟩ := w
  cases progress with
  | concluded c => exact fun none => by cases none
  | planned | sleeping _ _ | asking _ | crashed => cases h

namespace Faucet

/--
What an event makes known about the nonces of the signer at a place: that the node took a transfer from
it, or that a watch over one of them gives up.
-/
def mark? (p : Policy) (f : Faucet) (index : Nat) : Event → Option Mark
  | .answerRequest number (.digest (.value _)) =>
      match f.requests[number]? with
      | some (_, .trying _ _ lease (.broadcast transfer)) =>
          if lease.index = index then some (.sent transfer.nonce) else none
      | _ => none
  | .answerWatch number answer =>
      match f.desk.watches[number]?, (f.answerWatch p number answer).desk.watches[number]? with
      | some w, some w' =>
          if w.lease.index = index ∧ w.report? = none ∧ w'.gaveUp = true then some .gaveUp else none
      | _, _ => none
  | _ => none

def trail (p : Policy) (index : Nat) : Faucet → List Event → List Mark
  | _, [] => []
  | f, e :: events => (f.mark? p index e).toList ++ trail p index (f.step p e) events

/-- Every transfer that waits to be taken has a nonce above its signer's floor. -/
def Above (f : Faucet) : Prop :=
  ∀ (number : Nat) r since tried lease t last,
    f.requests[number]? = some (r, .trying since tried lease (.broadcast t)) →
    (f.desk.pool.floor lease.index).lastSent = some last → last < t.nonce

variable {p : Policy} {f g : Faucet} {e : Event} {index : Nat}

theorem mark?_eq_sent {nonce : Word} (marked : f.mark? p index e = some (.sent nonce)) :
    ∃ number hash r since tried lease t, e = .answerRequest number (.digest (.value hash)) ∧
      f.requests[number]? = some (r, .trying since tried lease (.broadcast t)) ∧
      lease.index = index ∧ t.nonce = nonce := by
  unfold mark? at marked
  split at marked
  · split at marked
    · rename_i found
      split at marked
      · simp only [Option.some.injEq, Mark.sent.injEq] at marked
        exact ⟨_, _, _, _, _, _, _, rfl, found, ‹_›, marked⟩
      · cases marked
    · cases marked
  · split at marked
    · split at marked <;> cases marked
    · cases marked
  · cases marked

theorem mark?_eq_gaveUp (marked : f.mark? p index e = some .gaveUp) :
    ∃ number a w w', e = .answerWatch number a ∧ f.desk.watches[number]? = some w ∧
      (f.answerWatch p number a).desk.watches[number]? = some w' ∧
      w.lease.index = index ∧ w.report? = none ∧ w'.gaveUp = true := by
  unfold mark? at marked
  split at marked
  · split at marked
    · split at marked <;> cases marked
    · cases marked
  · split at marked
    · rename_i before after
      split at marked
      · rename_i facts
        exact ⟨_, _, _, _, rfl, before, after, facts⟩
      · cases marked
    · cases marked
  · cases marked

theorem floor_put_sent (h : f.Lends) {number : Nat} {r : Request} {since : Nat}
    {tried : List Address} {lease : Lease} {t : SignedTransfer} {hash : Digest} {line : Entry}
    {out : Desk × Progress}
    (found : f.requests[number]? = some (r, .trying since tried lease (.broadcast t)))
    (same : Desk.SameTurn out ((f.desk.write line).enact p since tried lease (.sent t hash)))
    (index : Nat) :
    (f.put number r out).desk.pool.floor index =
      if lease.index = index then (f.desk.pool.floor index).record t.nonce
      else f.desk.pool.floor index := by
  have held : f.leaseOf? (.request number) = some lease := holds_iff.mp (.request found)
  have recorded := Pool.floor_modifyFloor (h.lent.known held) (·.record t.nonce) index
  rw [← recorded]
  unfold put
  rw [Desk.inquire_pool, same.desk.pool]
  rfl

theorem floor_step_sent (h : f.Lends) (above : f.Above) {nonce : Word}
    (marked : f.mark? p index e = some (.sent nonce)) :
    (f.step p e).desk.pool.floor index = ⟨some nonce⟩ := by
  obtain ⟨number, hash, r, since, tried, lease, t, rfl, found, rfl, rfl⟩ := mark?_eq_sent marked
  obtain ⟨out, s, result⟩ := strides_answerRequest (q := .broadcast t)
    (a := .digest (.value hash)) found rfl rfl p
  change (f.answerRequest p number (.digest (.value hash))).desk.pool.floor lease.index = _
  rw [result, floor_put_sent h found s.sends, if_pos rfl]
  exact NonceFloor.record_of_lt fun last => above number r since tried lease t last found

theorem floor_step_gaveUp (h : f.Lends) (marked : f.mark? p index e = some .gaveUp) :
    (f.step p e).desk.pool.floor index = .clear := by
  obtain ⟨number, a, w, w', rfl, before, after, rfl, unreported, gaveUp⟩ := mark?_eq_gaveUp marked
  have known := h.lent.known (holds_iff.mp (.watch before unreported))
  have changed := f.change_step p (.answerWatch number a)
  change (f.step p (.answerWatch number a)).desk.watches[number]? = some w' at after
  generalize f.step p (.answerWatch number a) = g at changed after
  cases changed with
  | apart left =>
    rw [left.watches, before] at after
    cases after
    exact absurd unreported (Watch.report?_of_gaveUp gaveUp)
  | strides found s => cases s
  | tends found t =>
    cases t with
    | waits asking alike =>
      cases found.symm.trans before
      rw [alike.watches] at after
      cases after.symm.trans (getElem?_setWatch found _)
      cases gaveUp
    | breaks m asking =>
      cases found.symm.trans before
      cases after.symm.trans (getElem?_setWatch found _)
      cases gaveUp
    | concludes c asking =>
      cases found.symm.trans before
      cases after.symm.trans (getElem?_concludeWatch found _ p c)
      cases c with
      | confirmed | reverted => cases gaveUp
      | givenUp reason =>
        exact (Desk.floor_concludeWatch_givenUp known _ p number reason w.lease.index).trans
          (if_pos rfl)

theorem floor_step_unmarked (h : f.Lends) (marked : f.mark? p index e = none) :
    (f.step p e).desk.pool.floor index = f.desk.pool.floor index := by
  have changed := f.change_step p e
  obtain ⟨g, result⟩ : ∃ g, f.step p e = g := ⟨_, rfl⟩
  rw [result] at changed ⊢
  cases changed with
  | apart left => rw [left.pool]
  | accepts r =>
    rw [accept_eq]
    rfl
  | @strides number r progress _ out found s =>
    obtain kept | ⟨since, tried, lease, t, hash, rfl, rfl, same⟩ := s.keeps_or_sends
    · unfold put
      rw [Desk.inquire_pool]
      exact kept.floor index
    · rw [floor_put_sent h found same, if_neg]
      intro place
      simp [mark?, found, place] at marked
  | @tends number w _ d found t =>
    obtain floors | ⟨since, reply, reason, asking, rfl, rfl⟩ := t.settled_or_gaveUp
    · exact floors index
    · have unreported : w.report? = none := by simp [Watch.report?, asking]
      have known := h.lent.known (holds_iff.mp (.watch found unreported))
      refine (Desk.floor_concludeWatch_givenUp known _ p number reason index).trans (if_neg ?_)
      intro place
      have answered : f.answerWatch p number (.mined reply) = _ := result
      have after := getElem?_concludeWatch found (.answered (.watch number)
        (.receipt w.transaction.hash) (.mined reply)) p (.givenUp reason)
      simp [mark?, answered, after, found, place, unreported, Watch.gaveUp] at marked

/-- What an event makes known about a signer's nonces is what it does to the signer's floor. -/
theorem floor_step (h : f.Lends) (above : f.Above) (p : Policy) (e : Event) (index : Nat) :
    (f.step p e).desk.pool.floor index =
      match f.mark? p index e with
      | some (.sent nonce) => ⟨some nonce⟩
      | some .gaveUp => .clear
      | none => f.desk.pool.floor index := by
  cases marked : f.mark? p index e with
  | none => exact floor_step_unmarked h marked
  | some mark =>
    cases mark with
    | sent nonce => exact floor_step_sent h above marked
    | gaveUp => exact floor_step_gaveUp h marked

/-- The transfer that a request hands to the node is above the floor at which it was signed. -/
theorem above_put (above : f.Above) (h : f.Lends) {number : Nat} {r : Request} {progress : Progress}
    {out : Desk × Progress} (found : f.requests[number]? = some (r, progress))
    (s : f.desk.Strides p number r e progress out) : (f.put number r out).Above := by
  intro other r' since tried lease t last found' sent
  obtain kept | ⟨since', tried', lease', t', hash, rfl, rfl, same⟩ := s.keeps_or_sends
  · have floor : (f.put number r out).desk.pool.floor lease.index = f.desk.pool.floor lease.index := by
      unfold put
      rw [Desk.inquire_pool]
      exact kept.floor lease.index
    rw [floor] at sent
    obtain ⟨rfl, rfl, after⟩ | ⟨-, stays⟩ := getElem?_put found found'
    · exact (s.offers after.symm).2 last sent
    · exact above other r' since tried lease t last stays sent
  · obtain ⟨-, -, after⟩ | ⟨elsewhere, stays⟩ := getElem?_put found found'
    · rw [same.progress] at after
      cases after
    · -- The other request holds another signer, whose floor has not moved.
      rw [floor_put_sent h found same, if_neg] at sent
      · exact above other r' since tried lease t last stays sent
      · intro place
        have held : f.leaseOf? (.request number) = some lease' := holds_iff.mp (.request found)
        have held' : f.leaseOf? (.request other) = some lease := holds_iff.mp (.request stays)
        cases h.lent.exclusive held held' place
        exact elsewhere rfl

theorem Above.change (above : f.Above) (h : f.Lends) (c : Change p f e g) : g.Above := by
  cases c with
  | apart left =>
    unfold Above
    rw [left.requests, left.pool]
    exact above
  | accepts r =>
    intro number r' since tried lease t last found sent
    rw [accept_eq] at sent
    obtain stays | ⟨-, -, impossible⟩ := f.getElem?_accept found
    · exact above number r' since tried lease t last stays sent
    · cases impossible
  | strides found s => exact above_put above h found s
  | @tends number w _ d watched t =>
    intro other r since tried lease transfer last found sent
    obtain floors | ⟨_, reply, reason, asking, -, rfl⟩ := t.settled_or_gaveUp
    · rw [floors] at sent
      exact above other r since tried lease transfer last found sent
    · have unreported : w.report? = none := by simp [Watch.report?, asking]
      have known := h.lent.known (holds_iff.mp (.watch watched unreported))
      rw [Desk.floor_concludeWatch_givenUp known] at sent
      split at sent
      · cases sent
      · exact above other r since tried lease transfer last found sent

/-- The marks so far rise, and they have left the signer's floor behind. -/
structure Follows (f : Faucet) (index : Nat) (marks : List Mark) : Prop where
  rising : Rising marks
  floor : f.desk.pool.floor index = latest marks

theorem Follows.step {marks : List Mark} (follows : f.Follows index marks) (h : f.Lends)
    (above : f.Above) (p : Policy) (e : Event) :
    (f.step p e).Follows index (marks ++ (f.mark? p index e).toList) := by
  have floor := floor_step h above p e index
  cases marked : f.mark? p index e with
  | none =>
    rw [marked] at floor
    simpa using ⟨follows.rising, floor.trans follows.floor⟩
  | some mark =>
    rw [marked] at floor
    cases mark with
    | sent nonce =>
      refine ⟨follows.rising.append_sent ?_, floor.trans (latest_append_sent marks nonce).symm⟩
      intro last sent
      rw [← follows.floor] at sent
      obtain ⟨number, hash, r, since, tried, lease, t, -, found, rfl, rfl⟩ := mark?_eq_sent marked
      exact above number r since tried lease t last found sent
    | gaveUp =>
      exact ⟨follows.rising.append_gaveUp, floor.trans (latest_append_gaveUp marks).symm⟩

theorem Follows.run {marks : List Mark} (follows : f.Follows index marks) (h : f.Lends)
    (above : f.Above) (p : Policy) (events : List Event) :
    (f.run p events).Follows index (marks ++ f.trail p index events) := by
  induction events generalizing f marks with
  | nil => simpa [trail] using follows
  | cons e rest ih =>
    have changed := f.change_step p e
    have followed := ih (follows.step h above p e) (h.change changed) (above.change h changed)
    simpa [trail, List.append_assoc] using followed

/--
In every run the nonces that the node takes from a signer rise unless a watch gives up between them,
the signer's floor is the last of them unless a watch has given up since, and nothing else moves it.
-/
theorem run_nonces_rise (signers : List Signer) (p : Policy) (index : Nat) (events : List Event) :
    let start := fresh (.ofSigners signers)
    let marks := start.trail p index events
    (∀ earlier m between n later, marks = earlier ++ .sent m :: between ++ .sent n :: later →
      .gaveUp ∉ between → m < n) ∧
    (∀ nonce, ((start.run p events).desk.pool.floor index).lastSent = some nonce ↔
      marks.getLast? = some (.sent nonce)) ∧
    ∀ e, (start.run p events).mark? p index e = none →
      ((start.run p events).step p e).desk.pool.floor index =
        (start.run p events).desk.pool.floor index := by
  intro start marks
  have untouched (index : Nat) : start.desk.pool.floor index = .clear := by
    change (Pool.ofSigners signers).floor index = .clear
    simp only [Pool.floor, Pool.ofSigners, List.getElem?_map]
    cases signers[index]? <;> rfl
  have lends : start.Lends := lends_run p signers []
  have above : start.Above := by
    intro number r since tried lease t last found
    cases found
  have follows : start.Follows index [] := ⟨.nil, untouched index⟩
  have followed := follows.run lends above p events
  rw [List.nil_append] at followed
  refine ⟨followed.rising, ?_, ?_⟩
  · intro nonce
    rw [followed.floor]
    exact latest_eq_some_iff
  · intro e marked
    exact floor_step_unmarked (lends_run p signers events) marked

end Faucet

end GasFaucet
