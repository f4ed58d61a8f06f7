import GasFaucet.Node.Link
import GasFaucet.Proofs.Moments
import GasFaucet.Proofs.Watching

/-!
# Authorisation

Whenever a request hands a transfer to the node, it has a clearance: under one lease of the signer, which it
still holds, it was told a sufficient balance, then got a gas price, then was told a nonce.  The transfer
says exactly what the request asked for with that price and the least nonce above the signer's floor, and
from the lease on nobody else has sent anything from that signer or watched over what it sent.
-/

namespace GasFaucet

namespace Faucet

/-- At a moment of a run a request asks something and is answered. -/
structure Hears (start : Faucet) (p : Policy) (events : List Event) (k number : Nat) (q : Query)
    (a : Answer) : Prop where
  asks : (start.after p events k).query? (.request number) = some q
  told : events[k]? = some (.answerRequest number a)

/-- A request holds a lease since `taken`, and was told a sufficient balance of the signer at `funded`. -/
structure Backed (start : Faucet) (p : Policy) (events : List Event) (number : Nat) (r : Request)
    (since : Nat) (tried : List Address) (lease : Lease) (taken funded n : Nat) : Prop where
  first : taken < funded
  second : funded < n
  free : (start.after p events taken).desk.pool.isLeased lease.index = false
  retained : start.Retains p events number r since tried lease taken n
  funds : ∃ balance, start.Hears p events funded number (.balance lease.signer.address)
    (.number (.value balance)) ∧ r.effectiveAmount p.terms ≤ balance

/-- A gas price is fixed, or the node was asked for it between two moments. -/
def Priced (start : Faucet) (p : Policy) (events : List Event) (number : Nat) (price : Word)
    (funded counted : Nat) : Prop :=
  p.pricing.fixed = some price ∨ p.pricing.fixed = none ∧ ∃ k suggestion, funded < k ∧ k < counted ∧
    start.Hears p events k number .gasPrice (.number (.ofExcept suggestion)) ∧
    price = (p.pricing.settle suggestion).1

/--
What clears a transfer that a request has handed to the node: the moments at which the lease was taken, the
balance told, and the nonce told.
-/
structure Clearance (start : Faucet) (p : Policy) (events : List Event) (number : Nat) (r : Request)
    (since : Nat) (tried : List Address) (lease : Lease) (t : SignedTransfer)
    (taken funded counted : Nat) : Prop
    extends Backed start p events number r since tried lease taken funded events.length where
  ordered : funded < counted ∧ counted < events.length
  known : start.desk.pool.signerAt? lease.index = some lease.signer
  price : start.Priced p events number t.gasPrice funded counted
  nonce : ∃ reported, start.Hears p events counted number (.nonce lease.signer.address)
    (.number (.value reported)) ∧
    t.nonce.toNat = ((start.after p events counted).desk.pool.floor lease.index).least reported
  pays : t.Pays p r lease.signer
  gasLimit : t.gasLimit = p.terms.gasLimit
  steady : ∀ k, counted ≤ k → k ≤ events.length →
    (start.after p events k).desk.pool.floor lease.index =
      (start.after p events counted).desk.pool.floor lease.index
  silent : ∀ k, taken < k → k ≤ events.length → ∀ (other : Nat) r' since' tried' lease' t',
    (start.after p events k).requests[other]? = some (r', .trying since' tried' lease' (.broadcast t')) →
    lease'.index = lease.index → other = number
  unwatched : ∀ k, taken < k → k ≤ events.length → ∀ (j : Nat) w,
    (start.after p events k).desk.watches[j]? = some w → w.report? = none → w.lease.index ≠ lease.index
  sole : start.desk.pool.Distinct → ∀ k, taken < k → k ≤ events.length →
    (∀ who t', (start.after p events k).query? who = some (.broadcast t') → t'.sender = t.sender →
      who = .request number) ∧
    ∀ (j : Nat) w, (start.after p events k).desk.watches[j]? = some w → w.report? = none →
      w.transaction.sender ≠ t.sender

/--
Every transfer that waits to be taken has a clearance, and a transfer waits to be taken as soon as its
request is told a nonce with which the signer can sign it.
-/
structure Authorised (start : Faucet) (p : Policy) (events : List Event) : Prop where
  cleared : ∀ who t, (start.run p events).query? who = some (.broadcast t) →
    ∃ number r since tried lease taken funded counted, who = .request number ∧
      (start.run p events).requests[number]? = some (r, .trying since tried lease (.broadcast t)) ∧
      Clearance start p events number r since tried lease t taken funded counted
  handed : ∀ (number : Nat) r since tried lease price reported nonce t,
    (start.run p events).requests[number]? = some (r, .trying since tried lease (.nonce price)) →
    ((start.run p events).desk.pool.floor lease.index).next? reported = some nonce →
    lease.signer.sign
      ⟨r.destination, r.effectiveAmount p.terms, nonce, p.terms.gasLimit, price⟩ = .ok t →
    ((start.run p events).step p (.answerRequest number (.number (.value reported)))).query?
      (.request number) = some (.broadcast t)

end Faucet

section Advances

variable {p : Policy} {r : Request} {signer : Signer} {floor : NonceFloor} {stage : Stage} {a : Answer}

theorem GasPricing.fixed_of_firstStage {g : GasPricing} {stage : Stage} (first : stage = g.firstStage) :
    (stage = .gasPrice ∧ g.fixed = none) ∨ ∃ price, stage = .nonce price ∧ g.fixed = some price := by
  unfold firstStage at first
  cases fixed : g.fixed with
  | none =>
    rw [fixed] at first
    exact .inl ⟨first, rfl⟩
  | some price =>
    rw [fixed] at first
    exact .inr ⟨price, first, rfl⟩

theorem Stage.Advances.funds (h : stage.Advances p r signer floor a .gasPrice) :
    stage = .balance ∧ p.pricing.fixed = none ∧
      ∃ balance, a = .number (.value balance) ∧ r.effectiveAmount p.terms ≤ balance := by
  cases h with
  | @funded balance _ enough first =>
    rcases GasPricing.fixed_of_firstStage first with ⟨-, unfixed⟩ | ⟨price, impossible, -⟩
    · exact ⟨rfl, unfixed, balance, rfl, enough⟩
    · cases impossible

/-- The price of a transfer is the fixed one, or what the pricing makes of the node's suggestion. -/
theorem Stage.Advances.prices {price : Word} (h : stage.Advances p r signer floor a (.nonce price)) :
    (stage = .balance ∧ p.pricing.fixed = some price ∧
      ∃ balance, a = .number (.value balance) ∧ r.effectiveAmount p.terms ≤ balance) ∨
    (stage = .gasPrice ∧
      ∃ suggestion, a = .number (.ofExcept suggestion) ∧ price = (p.pricing.settle suggestion).1) := by
  cases h with
  | @funded balance _ enough first =>
    rcases GasPricing.fixed_of_firstStage first with ⟨impossible, -⟩ | ⟨price', same, fixed⟩
    · cases impossible
    · cases same
      exact .inl ⟨rfl, fixed, balance, rfl, enough⟩
  | @suggested suggestion => exact .inr ⟨rfl, .ok suggestion, rfl, rfl⟩
  | @unsuggested f => exact .inr ⟨rfl, .error f, rfl, rfl⟩

end Advances

namespace Faucet

def Bound (f : Faucet) : Prop :=
  ∀ (j : Nat) w, f.desk.watches[j]? = some w → w.transaction.sender = w.lease.signer.address

theorem Bound.change {f g : Faucet} {p : Policy} {e : Event} (h : f.Bound) (c : Change p f e g) :
    g.Bound := by
  intro j w found
  rcases c.watch_before found with ⟨before, there, same⟩ | ⟨_, _, _, _, lease, t, hash, -, -, -, rfl⟩
  · obtain ⟨transaction, lease⟩ := Prod.mk.inj same
    rw [transaction, lease]
    exact h j before there
  · rfl

theorem Bound.run {f : Faucet} (h : f.Bound) (p : Policy) (events : List Event) :
    (f.run p events).Bound :=
  run_induction p f h (fun bound c => bound.change c) events

theorem Initial.bound {f : Faucet} (h : f.Initial) : f.Bound := by
  intro j w there
  rw [h.unwatched] at there
  cases there

variable {start : Faucet} {p : Policy} {events : List Event} {number n : Nat} {r : Request}
variable {since : Nat} {tried : List Address} {lease : Lease}

theorem Backed.later {taken funded m : Nat}
    (backed : Backed start p events number r since tried lease taken funded m) (later : m ≤ n)
    (onward : start.Retains p events number r since tried lease m n) :
    Backed start p events number r since tried lease taken funded n where
  first := backed.first
  second := Nat.lt_of_lt_of_le backed.second later
  free := backed.free
  retained := backed.retained.trans onward
  funds := backed.funds

theorem exists_backed (initial : start.Initial) {m : Nat} (within : n ≤ events.length)
    {balance : Word} (earlier : m < n)
    (told : events[m]? = some (.answerRequest number (.number (.value balance))))
    (found : (start.after p events m).requests[number]? = some (r, .trying since tried lease .balance))
    (enough : r.effectiveAmount p.terms ≤ balance)
    (onward : start.Retains p events number r since tried lease m n) :
    ∃ taken, Backed start p events number r since tried lease taken m n := by
  obtain ⟨taken, first, free, retained⟩ := exists_taken initial (by omega) found
  refine ⟨taken, first, earlier, free, retained.trans onward, balance, ?_, enough⟩
  exact ⟨query?_request found, told⟩

/-- A request that asks for a nonce was told a sufficient balance first, and then got its gas price. -/
theorem exists_priced (initial : start.Initial) (within : n ≤ events.length) {price : Word}
    (found : (start.after p events n).requests[number]? =
      some (r, .trying since tried lease (.nonce price))) :
    ∃ taken funded, Backed start p events number r since tried lease taken funded n ∧
      start.Priced p events number price funded n := by
  obtain ⟨m, earlier, before, a, told, known, advances, kept⟩ :=
    last_advance initial.idle within found Stage.noConfusion
  have onward : start.Retains p events number r since tried lease m n :=
    fun k later upTo => ⟨_, kept k later upTo⟩
  rcases advances.prices with ⟨rfl, fixed, balance, rfl, enough⟩ | ⟨rfl, suggestion, rfl, settled⟩
  · obtain ⟨taken, backed⟩ := exists_backed initial within earlier told known enough onward
    exact ⟨taken, m, backed, .inl fixed⟩
  · -- The node was asked for a price, so the balance was told before that.
    obtain ⟨funded, before, stage, a, told', known', advances', kept'⟩ :=
      last_advance initial.idle (by omega) known Stage.noConfusion
    obtain ⟨rfl, unfixed, balance, rfl, enough⟩ := advances'.funds
    have between : start.Retains p events number r since tried lease funded m :=
      fun k later upTo => ⟨_, kept' k later upTo⟩
    obtain ⟨taken, backed⟩ := exists_backed initial (by omega) before told' known' enough between
    refine ⟨taken, funded, backed.later (Nat.le_of_lt earlier) onward, .inr ?_⟩
    exact ⟨unfixed, m, suggestion, before, earlier, ⟨query?_request known, told⟩, settled⟩

theorem exists_clearance (initial : start.Initial) {t : SignedTransfer}
    (found : (start.run p events).requests[number]? =
      some (r, .trying since tried lease (.broadcast t))) :
    ∃ taken funded counted,
      Clearance start p events number r since tried lease t taken funded counted := by
  rw [← after_length] at found
  -- Read backwards: the nonce told, then the price, then the balance, and the lease before all of them.
  obtain ⟨counted, earlier, before, a, told, known, advances, kept⟩ :=
    last_advance initial.idle (Nat.le_refl _) found Stage.noConfusion
  obtain ⟨price, reported, nonce, rfl, rfl, chosen, signing⟩ := advances.signs
  obtain ⟨taken, funded, backed, priced⟩ := exists_priced initial (by omega) known
  have onward : start.Retains p events number r since tried lease counted events.length :=
    fun k later upTo => ⟨_, kept k later upTo⟩
  have whole := backed.later (Nat.le_of_lt earlier) onward
  have pays := SignedTransfer.pays_of_sign signing
  obtain ⟨transfer, -⟩ := Transfer.sign_eq_ok signing
  refine ⟨taken, funded, counted, ?_⟩
  constructor
  case toBacked => exact whole
  case ordered => exact ⟨backed.second, earlier⟩
  case known =>
    have lends : (start.after p events counted).Lends := initial.lends.run p (events.take counted)
    have place := lends.lent.known (holds_iff.mp (.request known))
    unfold after at place
    rwa [signerAt?_run] at place
  case price =>
    have gasPrice : t.gasPrice = price := congrArg Transfer.gasPrice transfer
    rw [gasPrice]
    exact priced
  case nonce =>
    refine ⟨reported, ⟨query?_request known, told⟩, ?_⟩
    rw [transfer]
    exact NonceFloor.next?_eq_some_iff.mp chosen
  case pays => exact pays
  case gasLimit => rw [transfer]
  case steady =>
    intro k later upTo
    exact onward.floor initial known (Nat.le_refl _) later upTo
  case silent =>
    intro k later upTo other r' since' tried' lease' t' sends place
    exact Actor.request.inj (whole.retained.alone initial later upTo (.request sends) place)
  case unwatched =>
    intro k later upTo j w watched live place
    cases whole.retained.alone initial later upTo (.watch watched live) place
  case sole =>
    intro distinct k later upTo
    have offered : (start.after p events k).Offered p := (initial.offered p).run (events.take k)
    have bound : (start.after p events k).Bound := initial.bound.run p (events.take k)
    constructor
    · intro who t' asking same
      obtain ⟨other, r', since', tried', lease', rfl, sends⟩ := query?_eq_broadcast asking
      rw [(offered other r' since' tried' lease' t' sends).sender, pays.sender] at same
      exact whole.retained.sole initial distinct later upTo (.request sends) same
    · intro j w watched live same
      rw [bound j w watched, pays.sender] at same
      cases whole.retained.sole initial distinct later upTo (.watch watched live) same

theorem query?_of_sign {f : Faucet} {price reported nonce : Word} {t : SignedTransfer}
    (found : f.requests[number]? = some (r, .trying since tried lease (.nonce price)))
    (chosen : (f.desk.pool.floor lease.index).next? reported = some nonce)
    (signing : lease.signer.sign
      ⟨r.destination, r.effectiveAmount p.terms, nonce, p.terms.gasLimit, price⟩ = .ok t) :
    (f.step p (.answerRequest number (.number (.value reported)))).query? (.request number) =
      some (.broadcast t) := by
  have decided : (Stage.nonce price).turnout? p r lease.signer (f.desk.pool.floor lease.index)
      (.number (.value reported)) = some (.goesOn (.broadcast t)) :=
    congrArg some (Turnout.ofNonce_of_sign chosen signing)
  obtain ⟨out, s, result⟩ := strides_answerRequest (q := .nonce lease.signer.address)
    (a := .number (.value reported)) found rfl rfl p
  obtain ⟨q, -, progress⟩ := s.turned decided
  change (f.answerRequest p number (.number (.value reported))).query? (.request number) = _
  rw [result, query?_request (getElem?_put_self found), progress]
  rfl

/-- In every run, every transfer that a request hands to the node is authorised. -/
theorem run_authorised (signers : List Signer) (p : Policy) (events : List Event) :
    Authorised (fresh (.ofSigners signers)) p events := by
  constructor
  case cleared =>
    intro who t asking
    obtain ⟨number, r, since, tried, lease, rfl, found⟩ := query?_eq_broadcast asking
    obtain ⟨taken, funded, counted, clearance⟩ := exists_clearance (initial_fresh signers) found
    exact ⟨number, r, since, tried, lease, taken, funded, counted, rfl, found, clearance⟩
  case handed =>
    intro number r since tried lease price reported nonce t found chosen signing
    exact query?_of_sign found chosen signing

end Faucet

end GasFaucet
