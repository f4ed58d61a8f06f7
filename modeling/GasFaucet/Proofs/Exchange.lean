import GasFaucet.Proofs.Conservation
import GasFaucet.Proofs.Payloads
import GasFaucet.Proofs.Rounds

/-!
# Exchanges

A faucet over a chain held in memory, whose answers are now those that the chain gives.  From the
balance check on, the leased account covers what its request sends: no other transfer leaves that
account while the lease lasts.  So every transfer that the chain takes moves its full value.
-/

namespace GasFaucet

def Event.bringsAnswer : Event → Bool
  | .answerRequest .. | .answerWatch .. | .answerCensus .. => true
  | _ => false

structure Exchange where
  faucet : Faucet
  ledger : Ledger

namespace Exchange

/--
What may happen to a faucet and its chain: an event that brings no answer, the chain's answer to an
actor, or new arrangements on the chain that leave balances and transfers alone.
-/
inductive Move
  | happens (e : Event) (unasked : e.bringsAnswer = false)
  | answers (who : Actor)
  | arranges (change : Ledger → Ledger)
      (kept : ∀ l, (change l).balances = l.balances ∧ (change l).broadcasts = l.broadcasts)

def step (p : Policy) (x : Exchange) : Move → Exchange
  | .happens e _ => { x with faucet := x.faucet.step p e }
  | .answers who =>
      match x.faucet.query? who with
      | none => x
      | some q =>
          let (ledger, a) := x.ledger.answer q
          ⟨x.faucet.step p (Rehearsal.answerEvent who a), ledger⟩
  | .arranges change _ => { x with ledger := change x.ledger }

/-- What a list of moves makes of a faucet and its chain. -/
def run (p : Policy) (x : Exchange) (moves : List Move) : Exchange :=
  moves.foldl (step p) x

def accepted? (x : Exchange) : Move → Option SignedTransfer
  | .answers who =>
      match x.faucet.query? who with
      | some (.broadcast t) =>
          match (x.ledger.answer (.broadcast t)).2 with
          | .digest (.value _) => some t
          | _ => none
      | _ => none
  | .happens .. | .arranges .. => none

/-- The transfers whose broadcasts are answered with a hash in a run, in the order of these answers. -/
def accepted (p : Policy) : Exchange → List Move → List SignedTransfer
  | _, [] => []
  | x, move :: rest => (x.accepted? move).toList ++ accepted p (x.step p move) rest

end Exchange

namespace Faucet

def Covered (f : Faucet) (p : Policy) (balances : Address → Word) : Prop :=
  ∀ (number : Nat) r since tried lease stage,
    f.requests[number]? = some (r, .trying since tried lease stage) → stage ≠ .balance →
    r.effectiveAmount p.terms ≤ balances lease.signer.address

variable {p : Policy} {f g : Faucet} {e : Event}

/-- A leased account stays covered if whoever is told its balance is told the truth. -/
theorem Covered.change {balances : Address → Word} (h : f.Covered p balances) (c : Change p f e g)
    (honest : ∀ (number : Nat) b r since tried lease,
      e = .answerRequest number (.number (.value b)) →
      f.requests[number]? = some (r, .trying since tried lease .balance) →
      b = balances lease.signer.address) : g.Covered p balances := by
  intro number r since tried lease stage found past
  obtain stays | impossible | ⟨before, out, known, s, after⟩ := c.request found
  · exact h number r since tried lease stage stays past
  · cases impossible
  · obtain start | ⟨asked, a, rfl, rfl, advances⟩ := s.trying after.symm
    · exact absurd start past
    · cases advances with
      | funded enough _ => rwa [← honest number _ r since tried lease rfl known]
      | suggested | unsuggested | signed _ _ =>
        exact h number r since tried lease _ known Stage.noConfusion

end Faucet

namespace Exchange

/-- What holds of a faucet and its chain between any two moves, after the transfers that are `done`. -/
structure Sound (p : Policy) (start : Ledger) (done : List SignedTransfer) (x : Exchange) : Prop where
  lends : x.faucet.Lends
  distinct : x.faucet.desk.pool.Distinct
  offered : x.faucet.Offered p
  covered : x.faucet.Covered p x.ledger.balances
  total : x.ledger.total = start.total
  broadcasts : x.ledger.broadcasts = start.broadcasts ++ done
  balances : ∀ a, (x.ledger.balances a).toNat + Ledger.spent a done =
    (start.balances a).toNat + Ledger.received a done

variable {p : Policy} {start : Ledger} {done : List SignedTransfer} {x : Exchange} {who : Actor}
  {q : Query} {t : SignedTransfer} {hash : Digest}

theorem step_answers_none (silent : x.faucet.query? who = none) : x.step p (.answers who) = x := by
  simp [step, silent]

theorem step_answers_some (asking : x.faucet.query? who = some q) :
    x.step p (.answers who) =
      ⟨x.faucet.step p (Rehearsal.answerEvent who (x.ledger.answer q).2), (x.ledger.answer q).1⟩ := by
  simp [step, asking]

theorem accepted?_answers_none (silent : x.faucet.query? who = none) :
    x.accepted? (.answers who) = none := by
  simp [accepted?, silent]

theorem accepted?_of_hash (asking : x.faucet.query? who = some (.broadcast t))
    (taken : (x.ledger.answer (.broadcast t)).2 = .digest (.value hash)) :
    x.accepted? (.answers who) = some t := by
  simp [accepted?, asking, taken]

theorem accepted?_of_no_hash (asking : x.faucet.query? who = some q)
    (refused : ∀ hash, (x.ledger.answer q).2 ≠ .digest (.value hash)) :
    x.accepted? (.answers who) = none := by
  simp only [accepted?, asking]
  cases q with
  | broadcast t =>
    dsimp only
    split
    · rename_i hash hashed
      exact absurd hashed (refused hash)
    · rfl
  | balance _ | gasPrice | nonce _ | receipt _ => rfl

theorem accepted_append (p : Policy) (x : Exchange) (l k : List Move) :
    x.accepted p (l ++ k) = x.accepted p l ++ (x.run p l).accepted p k := by
  induction l generalizing x with
  | nil => rfl
  | cons move rest ih =>
    rw [List.cons_append, accepted, accepted, ih, List.append_assoc]
    rfl

theorem Sound.waits (h : Sound p start done x) (asking : x.faucet.query? who = some (.broadcast t)) :
    t.value ≤ x.ledger.balances t.sender := by
  obtain ⟨number, r, since, tried, lease, rfl, found⟩ := Faucet.query?_eq_broadcast asking
  have pays := h.offered number r since tried lease t found
  rw [pays.value, pays.sender]
  exact h.covered number r since tried lease _ found Stage.noConfusion

theorem Sound.signers (h : Sound p start done x) (e : Event) :
    (x.faucet.step p e).desk.pool.Distinct := by
  intro i j s s' here there
  rw [(x.faucet.change_step p e).signer] at here there
  exact h.distinct here there

theorem Sound.happens (h : Sound p start done x) {e : Event} (unasked : e.bringsAnswer = false) :
    Sound p start done { x with faucet := x.faucet.step p e } := by
  have changed := x.faucet.change_step p e
  refine ⟨h.lends.change changed, h.signers e, h.offered.change changed, ?_, h.total, h.broadcasts,
    h.balances⟩
  apply h.covered.change changed
  rintro number b r since tried lease rfl
  cases unasked

theorem Sound.arranges (h : Sound p start done x) {change : Ledger → Ledger}
    (kept : ∀ l, (change l).balances = l.balances ∧ (change l).broadcasts = l.broadcasts) :
    Sound p start done { x with ledger := change x.ledger } := by
  obtain ⟨balances, broadcasts⟩ := kept x.ledger
  refine ⟨h.lends, h.distinct, h.offered, ?_, ?_, broadcasts.trans h.broadcasts, ?_⟩
  · dsimp only
    rw [balances]
    exact h.covered
  · unfold Ledger.total
    rw [balances]
    exact h.total
  · dsimp only
    rw [balances]
    exact h.balances

theorem Sound.told (h : Sound p start done x) (asking : x.faucet.query? who = some q)
    (balances : (x.ledger.answer q).1.balances = x.ledger.balances)
    (broadcasts : (x.ledger.answer q).1.broadcasts = x.ledger.broadcasts) :
    Sound p start done ⟨x.faucet.step p (Rehearsal.answerEvent who (x.ledger.answer q).2),
      (x.ledger.answer q).1⟩ := by
  have changed := x.faucet.change_step p (Rehearsal.answerEvent who (x.ledger.answer q).2)
  refine ⟨h.lends.change changed, h.signers _, h.offered.change changed, ?_, ?_,
    broadcasts.trans h.broadcasts, ?_⟩
  · dsimp only
    rw [balances]
    apply h.covered.change changed
    intro number b r since tried lease told found
    cases who with
    | request other =>
      obtain ⟨rfl, answered⟩ := Event.answerRequest.inj told
      rw [Faucet.query?_request found] at asking
      obtain rfl : Query.balance lease.signer.address = q := by simpa [Progress.query?] using asking
      exact Ledger.answer_balance answered
    | watch _ | census _ _ => cases told
  · unfold Ledger.total
    rw [balances]
    exact h.total
  · dsimp only
    rw [balances]
    exact h.balances

theorem Sound.taken (h : Sound p start done x) {moved : Address → Word} {ledger : Ledger}
    (asking : x.faucet.query? who = some (.broadcast t))
    (moving : Ledger.moveValue? x.ledger.balances t = some moved) (balances : ledger.balances = moved)
    (broadcasts : ledger.broadcasts = x.ledger.broadcasts ++ [t]) (hash : Digest) :
    Sound p start (done ++ [t])
      ⟨x.faucet.step p (Rehearsal.answerEvent who (.digest (.value hash))), ledger⟩ := by
  have enough := h.waits asking
  obtain ⟨number, r, since, tried, lease, rfl, found⟩ := Faucet.query?_eq_broadcast asking
  have changed := x.faucet.change_step p (.answerRequest number (.digest (.value hash)))
  refine ⟨h.lends.change changed, h.signers _, h.offered.change changed, ?_, ?_, ?_, ?_⟩
  · -- Whoever else holds a lease holds another account, which has not lost anything.
    intro other r' since' tried' lease' stage found' past
    obtain ⟨elsewhere, stays⟩ := Faucet.request_of_taken found p hash found'
    have held := Faucet.holds_iff.mp (.request found)
    have held' := Faucet.holds_iff.mp (.request stays)
    have sender := (h.offered number r since tried lease t found).sender
    have apart := Faucet.sender_ne h.lends h.distinct held held' fun same =>
      elsewhere (Actor.request.inj same)
    rw [← sender] at apart
    have before := h.covered other r' since' tried' lease' stage stays past
    have after := Ledger.moveValue?_mono moving enough apart
    dsimp only
    rw [balances]
    rw [BitVec.le_def] at before after ⊢
    omega
  · unfold Ledger.total
    rw [balances]
    exact (Ledger.sum_moveValue? moving enough).trans h.total
  · dsimp only
    rw [broadcasts, h.broadcasts, List.append_assoc]
  · intro a
    have here := Ledger.moveValue?_eq_some moving enough a
    have earlier := h.balances a
    dsimp only
    rw [balances, Ledger.spent_append, Ledger.received_append]
    simp only [Ledger.spent, Ledger.received]
    omega

theorem Sound.step (h : Sound p start done x) (move : Move) :
    Sound p start (done ++ (x.accepted? move).toList) (x.step p move) := by
  cases move with
  | happens e unasked =>
    rw [accepted?, Option.toList_none, List.append_nil]
    exact h.happens unasked
  | arranges change kept =>
    rw [accepted?, Option.toList_none, List.append_nil]
    exact h.arranges kept
  | answers who =>
    cases asking : x.faucet.query? who with
    | none =>
      rw [step_answers_none asking, accepted?_answers_none asking, Option.toList_none, List.append_nil]
      exact h
    | some q =>
      rw [step_answers_some asking]
      obtain ⟨balances, broadcasts, refused⟩ | ⟨t, moved, rfl, moving, balances, broadcasts, taken⟩ :=
        x.ledger.answer_cases q
      · rw [accepted?_of_no_hash asking refused, Option.toList_none, List.append_nil]
        exact h.told asking balances broadcasts
      · rw [accepted?_of_hash asking taken, Option.toList_some, taken]
        exact h.taken asking moving balances broadcasts t.hash

theorem Sound.run (h : Sound p start done x) (moves : List Move) :
    Sound p start (done ++ x.accepted p moves) (x.run p moves) := by
  unfold Exchange.run
  induction moves generalizing x done with
  | nil =>
    rw [accepted, List.append_nil]
    exact h
  | cons move rest ih =>
    rw [accepted, ← List.append_assoc]
    exact ih (h.step move)

theorem sound_start {signers : List Signer} (distinct : (signers.map Signer.address).Nodup)
    (start : Ledger) (p : Policy) : Sound p start [] ⟨.fresh (.ofSigners signers), start⟩ where
  lends := Faucet.lends_run p signers []
  distinct := Pool.distinct_ofSigners distinct
  offered := by
    intro number r since tried lease t found
    cases found
  covered := by
    intro number r since tried lease stage found
    cases found
  total := rfl
  broadcasts := (List.append_nil _).symm
  balances := fun _ => rfl

/--
Whoever waits for a transfer to be taken covers its value, and the destination can hold it; the chain
has on record what was accepted, and every balance is what it was at the start, with what was received
and without what was spent.
-/
structure Conserved (start : Ledger) (accepted : List SignedTransfer) (x : Exchange) : Prop where
  enough : ∀ who t, x.faucet.query? who = some (.broadcast t) →
    t.value ≤ x.ledger.balances t.sender
  fits : ∀ who t, x.faucet.query? who = some (.broadcast t) →
    (Ledger.moveValue? x.ledger.balances t).isSome = true
  broadcasts : x.ledger.broadcasts = start.broadcasts ++ accepted
  balances : ∀ a, (x.ledger.balances a).toNat + Ledger.spent a accepted =
    (start.balances a).toNat + Ledger.received a accepted
  total : x.ledger.total = start.total

/--
Signers with addresses of their own never overspend on a chain whose balances make a word, and what its
answers accept is what it moves.
-/
theorem run_conserves {signers : List Signer} (distinct : (signers.map Signer.address).Nodup)
    {start : Ledger} (bounded : start.total < Word.modulus) (p : Policy) (moves : List Move) :
    let x : Exchange := ⟨.fresh (.ofSigners signers), start⟩
    Conserved start (x.accepted p moves) (x.run p moves) := by
  intro x
  have sound : Sound p start (x.accepted p moves) (x.run p moves) := by
    simpa only [List.nil_append] using (sound_start distinct start p).run moves
  have whole : (x.run p moves).ledger.total < Word.modulus := by
    rw [sound.total]
    exact bounded
  refine ⟨?_, ?_, sound.broadcasts, sound.balances, sound.total⟩
  · intro who t asking
    exact sound.waits asking
  · intro who t asking
    exact Ledger.moveValue?_isSome (sound.waits asking) whole

/-- A request that is told its nonce, and whose transfer the chain then takes, leaves a watch over it. -/
theorem run_of_signed {number : Nat} {r : Request} {since : Nat} {tried : List Address} {lease : Lease}
    {price reported nonce : Word} {m : Ledger}
    (found : x.faucet.requests[number]? = some (r, .trying since tried lease (.nonce price)))
    (told : x.ledger.answer (.nonce lease.signer.address) = (x.ledger, .number (.value reported)))
    (chosen : (x.faucet.desk.pool.floor lease.index).next? reported = some nonce)
    (signing : lease.signer.sign
      ⟨r.destination, r.effectiveAmount p.terms, nonce, p.terms.gasLimit, price⟩ = .ok t)
    (taken : x.ledger.answer (.broadcast t) = (m, .digest (.value t.hash))) :
    let moves := [.answers (.request number), .answers (.request number)]
    x.accepted p moves = [t] ∧ (x.run p moves).ledger = m ∧
      (x.run p moves).faucet.desk.now = x.faucet.desk.now ∧
      (x.run p moves).faucet.desk.watches = x.faucet.desk.watches ++
        [⟨t.transaction lease t.hash x.faucet.desk.now, lease, .planned⟩] := by
  intro moves
  let offering : Exchange := ⟨x.faucet.answerRequest p number (.number (.value reported)), x.ledger⟩
  have asks : x.faucet.query? (.request number) = some (.nonce lease.signer.address) :=
    Faucet.query?_request found
  obtain ⟨offers, -, now, watches⟩ := Faucet.run_of_signed p found chosen signing
  have offers : offering.faucet.query? (.request number) = some (.broadcast t) := offers
  have signed : x.step p (.answers (.request number)) = offering := by
    rw [step_answers_some asks, told]
    rfl
  have silent : x.accepted? (.answers (.request number)) = none := by
    refine accepted?_of_no_hash asks fun hash hashed => ?_
    rw [told] at hashed
    cases hashed
  have taken : offering.ledger.answer (.broadcast t) = (m, .digest (.value t.hash)) := taken
  have sent : offering.step p (.answers (.request number)) =
      ⟨offering.faucet.answerRequest p number (.digest (.value t.hash)), m⟩ := by
    rw [step_answers_some offers, taken]
    rfl
  have ran : x.run p moves = _ := (congrArg (step p · (.answers (.request number))) signed).trans sent
  refine ⟨?_, by rw [ran], by rw [ran]; exact now, by rw [ran]; exact watches⟩
  simp only [moves, accepted, silent, signed, accepted?_of_hash offers (congrArg Prod.snd taken), Option.toList_none,
    Option.toList_some, List.nil_append, List.append_nil]

namespace ThreeWei

def policy : Policy :=
  ⟨31337, ⟨some 1, 1⟩, ⟨5000, 5000, none, some 60000, 7, transferGas⟩⟩

def signers : List Signer :=
  [⟨.one, 31337⟩, ⟨.two, 31337⟩]

def request : Request :=
  ⟨⟨2⟩, 5, 3⟩

def chain : Ledger :=
  { Ledger.fresh 0 with balances := update (fun _ => 0) Account.one.address 10 }

/-- Two accounts, of which the first has ten wei. -/
def began : Exchange :=
  ⟨.fresh (.ofSigners signers), chain⟩

/-- The request passes its gate, and the first account is found to have enough. -/
def opening : List Move :=
  [.happens (.request request) rfl, .answers (.request 0), .answers (.request 0)]

/-- The account is told its nonce, and its transfer is handed to the chain. -/
def paying : List Move :=
  [.answers (.request 0), .answers (.request 0)]

def funded : Exchange :=
  began.run policy opening

theorem distinct_signers : (signers.map Signer.address).Nodup := by
  decide

theorem total_chain : chain.total = 10 := by
  have balance (a : Address) : (chain.balances a).toNat = if a = Account.one.address then 10 else 0 := by
    change (update (fun _ => (0 : Word)) Account.one.address 10 a).toNat = _
    unfold update
    split <;> rfl
  unfold Ledger.total
  rw [Finset.sum_congr rfl fun a _ => balance a, Finset.sum_ite_eq', if_pos (Finset.mem_univ _)]

theorem taken (signing : Transfer.threeWei.sign .one 31337 = .ok t) :
    ∃ m, funded.ledger.answer (.broadcast t) = (m, .digest (.value t.hash)) ∧
      m.broadcasts = [t] ∧ m.maxInFlight = 1 ∧
      m.pending t.hash = some (Account.one.address, .success 0) := by
  obtain ⟨same, sender⟩ := Transfer.sign_eq_ok signing
  obtain ⟨transfer, sender', hash, raw⟩ := t
  obtain rfl : transfer = Transfer.threeWei := same
  obtain rfl : sender' = Account.one.address := sender
  exact ⟨_, rfl, rfl, rfl, update_self ..⟩

theorem paid (signing : Transfer.threeWei.sign .one 31337 = .ok t) {m : Ledger}
    (taken : funded.ledger.answer (.broadcast t) = (m, .digest (.value t.hash))) :
    funded.accepted policy paying = [t] ∧ (funded.run policy paying).ledger = m ∧
      (funded.run policy paying).faucet.desk.now = 0 ∧
      (funded.run policy paying).faucet.desk.watches =
        [⟨t.transaction ⟨0, ⟨.one, 31337⟩⟩ t.hash 0, ⟨0, ⟨.one, 31337⟩⟩, .planned⟩] := by
  have found : funded.faucet.requests[0]? = some (request,
      .trying 0 [Account.one.address] ⟨0, ⟨.one, 31337⟩⟩ (.nonce 1)) := rfl
  have told : funded.ledger.answer (.nonce Account.one.address) =
      (funded.ledger, .number (.value 0)) := rfl
  have chosen : (funded.faucet.desk.pool.floor 0).next? 0 = some 0 := rfl
  have clock : funded.faucet.desk.now = 0 := rfl
  have unwatched : funded.faucet.desk.watches = [] := rfl
  have wanted : ⟨request.destination, request.effectiveAmount policy.terms, 0, policy.terms.gasLimit, 1⟩ =
      Transfer.threeWei := rfl
  rw [← wanted] at signing
  have run := run_of_signed found told chosen signing taken
  rw [clock, unwatched] at run
  unfold paying
  exact run

theorem shares (signing : Transfer.threeWei.sign .one 31337 = .ok t) {balances : Address → Word}
    (booked : ∀ a, (balances a).toNat + Ledger.spent a [t] =
      (chain.balances a).toNat + Ledger.received a [t]) :
    balances Account.one.address = 7 ∧ balances ⟨2⟩ = 3 := by
  obtain ⟨same, sender⟩ := Transfer.sign_eq_ok signing
  have apart : (⟨2⟩ : Address) ≠ Account.one.address := by decide
  have value : t.value = 3 := by
    rw [same]
    rfl
  have destination : t.destination = ⟨2⟩ := by
    rw [same]
    rfl
  have rich : chain.balances Account.one.address = 10 := rfl
  have poor : chain.balances ⟨2⟩ = 0 := rfl
  simp only [Ledger.spent, Ledger.received, value, destination, sender] at booked
  have paid := booked Account.one.address
  have got := booked ⟨2⟩
  rw [rich, if_pos rfl, if_neg apart] at paid
  rw [poor, if_neg apart.symm, if_pos rfl] at got
  exact ⟨BitVec.eq_of_toNat_eq (Nat.add_right_cancel paid), BitVec.eq_of_toNat_eq got⟩

end ThreeWei

/-- An account with ten wei pays three of them to a stranger. -/
theorem run_conserves_three_wei :
    let moves := ThreeWei.opening ++ ThreeWei.paying
    (ThreeWei.signers.map Signer.address).Nodup ∧ ThreeWei.chain.total < Word.modulus ∧
      Conserved ThreeWei.chain (ThreeWei.began.accepted ThreeWei.policy moves)
        (ThreeWei.began.run ThreeWei.policy moves) ∧
      ∃ t, Transfer.threeWei.sign .one 31337 = .ok t ∧
        ThreeWei.began.accepted ThreeWei.policy moves = [t] ∧
        (ThreeWei.began.run ThreeWei.policy moves).ledger.balances Account.one.address = 7 ∧
        (ThreeWei.began.run ThreeWei.policy moves).ledger.balances ⟨2⟩ = 3 := by
  intro moves
  have bounded : ThreeWei.chain.total < Word.modulus := by
    rw [ThreeWei.total_chain]
    decide
  have conserved : Conserved ThreeWei.chain (ThreeWei.began.accepted ThreeWei.policy moves)
      (ThreeWei.began.run ThreeWei.policy moves) :=
    run_conserves ThreeWei.distinct_signers bounded ThreeWei.policy moves
  obtain ⟨t, signing⟩ := Transfer.sign_threeWei
  have accepted : ThreeWei.began.accepted ThreeWei.policy moves = [t] := by
    have early : ThreeWei.began.accepted ThreeWei.policy ThreeWei.opening = [] := by cbv
    rw [accepted_append, early, List.nil_append]
    obtain ⟨m, taken, -⟩ := ThreeWei.taken signing
    exact (ThreeWei.paid signing taken).1
  have booked := conserved.balances
  rw [accepted] at booked
  exact ⟨ThreeWei.distinct_signers, bounded, conserved, t, signing, accepted,
    ThreeWei.shares signing booked⟩

end Exchange

end GasFaucet
