import GasFaucet.Proofs.Notices

/-!
# Attempts

While a request holds a lease it attempts to pay from that signer.  What an answer makes of the
attempt is decided without the desk, apart from the signer's nonce floor; what the decision does to
the desk no longer looks at the answer.  `resume_trying` puts the two together.
-/

namespace GasFaucet

/-- What an answer makes of an attempt to pay from a leased signer. -/
inductive Turnout
  | goesOn (stage : Stage)
  | passedOver (reason : String)
  | fails (failure : Failure)
  | breaks (message : String)
  | sent (transfer : SignedTransfer) (hash : Digest)

namespace Turnout

theorem sent_or_not (turnout : Turnout) : (∃ transfer hash, turnout = .sent transfer hash) ∨
    ∀ transfer hash, turnout ≠ .sent transfer hash := by
  cases turnout with
  | sent transfer hash => exact .inl ⟨transfer, hash, rfl⟩
  | goesOn _ | passedOver _ | fails _ | breaks _ => exact .inr fun _ _ => Turnout.noConfusion

/-- What a failure after the balance was found sufficient makes of an attempt. -/
def ofFailure (f : Failure) : Turnout :=
  if f.skipsSigner then .passedOver "broadcast_error" else .fails f

def ofSigning : Except Failure SignedTransfer → Turnout
  | .error f => ofFailure f
  | .ok transfer => .goesOn (.broadcast transfer)

def ofNonce (p : Policy) (r : Request) (signer : Signer) (floor : NonceFloor) (price reported : Word) :
    Turnout :=
  match floor.next? reported with
  | none => .breaks overflowMessage
  | some nonce =>
      ofSigning (signer.sign
        ⟨r.destination, r.effectiveAmount p.terms, nonce, p.terms.gasLimit, price⟩)

end Turnout

/-- What is asked next once the signer's balance was found sufficient. -/
def GasPricing.firstStage (g : GasPricing) : Stage :=
  match g.fixed with
  | some price => .nonce price
  | none => .gasPrice

theorem GasPricing.firstStage_ne_broadcast (g : GasPricing) (t : SignedTransfer) :
    g.firstStage ≠ .broadcast t := by
  unfold firstStage
  cases g.fixed <;> exact Stage.noConfusion

/-- What an answer makes of an attempt, if the attempt waits for an answer of its sort. -/
def Stage.turnout? (p : Policy) (r : Request) (signer : Signer) (floor : NonceFloor) :
    Stage → Answer → Option Turnout
  | .broadcast _, .digest (.crash m) => some (.breaks m)
  | .broadcast _, .digest (.failure f) => some (.ofFailure f)
  | .broadcast t, .digest (.value hash) => some (.sent t hash)
  | .broadcast _, _ => none
  | _, .number (.crash m) => some (.breaks m)
  | .balance, .number (.failure _) => some (.passedOver "balance_error")
  | .balance, .number (.value funds) =>
      some (if r.effectiveAmount p.terms ≤ funds then .goesOn p.pricing.firstStage
        else .passedOver "insufficient_balance")
  | .gasPrice, .number (.failure f) => some (.goesOn (.nonce (p.pricing.settle (.error f)).1))
  | .gasPrice, .number (.value price) => some (.goesOn (.nonce (p.pricing.settle (.ok price)).1))
  | .nonce _, .number (.failure f) => some (.ofFailure f)
  | .nonce price, .number (.value reported) => some (.ofNonce p r signer floor price reported)
  | _, _ => none

/-- A transfer that pays what a request asks for, from a signer's account. -/
structure SignedTransfer.Pays (t : SignedTransfer) (p : Policy) (r : Request) (signer : Signer) :
    Prop where
  destination : t.destination = r.destination
  value : t.value = r.effectiveAmount p.terms
  sender : t.sender = signer.address

theorem Turnout.ofNonce_of_sign {p : Policy} {r : Request} {signer : Signer} {floor : NonceFloor}
    {price reported nonce : Word} {t : SignedTransfer} (chosen : floor.next? reported = some nonce)
    (signing : signer.sign
      ⟨r.destination, r.effectiveAmount p.terms, nonce, p.terms.gasLimit, price⟩ = .ok t) :
    Turnout.ofNonce p r signer floor price reported = .goesOn (.broadcast t) := by
  unfold Turnout.ofNonce
  rw [chosen]
  dsimp only
  rw [signing]
  rfl

/-- How an attempt goes on: from the balance, if it suffices, by way of the gas price and the nonce. -/
inductive Stage.Advances (p : Policy) (r : Request) (signer : Signer) (floor : NonceFloor) :
    Stage → Answer → Stage → Prop
  | funded {funds next} : r.effectiveAmount p.terms ≤ funds → next = p.pricing.firstStage →
      Advances p r signer floor .balance (.number (.value funds)) next
  | suggested {price} : Advances p r signer floor .gasPrice (.number (.value price))
      (.nonce (p.pricing.settle (.ok price)).1)
  | unsuggested {f} : Advances p r signer floor .gasPrice (.number (.failure f))
      (.nonce (p.pricing.settle (.error f)).1)
  | signed {price reported nonce t} : floor.next? reported = some nonce →
      signer.sign ⟨r.destination, r.effectiveAmount p.terms, nonce, p.terms.gasLimit, price⟩ = .ok t →
      Advances p r signer floor (.nonce price) (.number (.value reported)) (.broadcast t)

/-- What an answer makes of an attempt, case by case. -/
inductive Stage.Decides (p : Policy) (r : Request) (signer : Signer) (floor : NonceFloor) :
    Stage → Answer → Turnout → Prop
  | advances {stage a next} : stage.Advances p r signer floor a next →
      Decides p r signer floor stage a (.goesOn next)
  | unknown {f} : Decides p r signer floor .balance (.number (.failure f)) (.passedOver "balance_error")
  | poor {funds} : ¬r.effectiveAmount p.terms ≤ funds →
      Decides p r signer floor .balance (.number (.value funds)) (.passedOver "insufficient_balance")
  | numberless {price f} : f.skipsSigner = true →
      Decides p r signer floor (.nonce price) (.number (.failure f)) (.passedOver "broadcast_error")
  | unsigned {price reported nonce f} : floor.next? reported = some nonce →
      signer.sign ⟨r.destination, r.effectiveAmount p.terms, nonce, p.terms.gasLimit, price⟩ = .error f →
      Decides p r signer floor (.nonce price) (.number (.value reported)) (.passedOver "broadcast_error")
  | refused {t f} : f.skipsSigner = true →
      Decides p r signer floor (.broadcast t) (.digest (.failure f)) (.passedOver "broadcast_error")
  | failsAtNonce {price f} : f.skipsSigner = false →
      Decides p r signer floor (.nonce price) (.number (.failure f)) (.fails f)
  | failsAtBroadcast {t f} : f.skipsSigner = false →
      Decides p r signer floor (.broadcast t) (.digest (.failure f)) (.fails f)
  | collapses {stage m} : (∀ t, stage ≠ .broadcast t) →
      Decides p r signer floor stage (.number (.crash m)) (.breaks m)
  | collapsesAtBroadcast {t m} : Decides p r signer floor (.broadcast t) (.digest (.crash m)) (.breaks m)
  | overflows {price reported} : floor.next? reported = none →
      Decides p r signer floor (.nonce price) (.number (.value reported)) (.breaks overflowMessage)
  | taken {t hash} : Decides p r signer floor (.broadcast t) (.digest (.value hash)) (.sent t hash)

theorem Signer.skipsSigner_of_sign {signer : Signer} {t : Transfer} {f : Failure}
    (failed : signer.sign t = .error f) : f.skipsSigner = true := by
  rw [Transfer.sign_eq_error failed]
  rfl

section Decides

variable {p : Policy} {r : Request} {signer : Signer} {floor : NonceFloor} {stage : Stage} {a : Answer}
variable {turnout : Turnout}

theorem Stage.decides_ofNonce {price reported : Word} :
    (Stage.nonce price).Decides p r signer floor (.number (.value reported))
      (.ofNonce p r signer floor price reported) := by
  unfold Turnout.ofNonce
  cases chosen : floor.next? reported with
  | none => exact .overflows chosen
  | some nonce =>
    dsimp only
    cases signing : signer.sign
        ⟨r.destination, r.effectiveAmount p.terms, nonce, p.terms.gasLimit, price⟩ with
    | ok t => exact .advances (.signed chosen signing)
    | error f =>
      have skips : Turnout.ofSigning (.error f) = .passedOver "broadcast_error" :=
        if_pos (Signer.skipsSigner_of_sign signing)
      rw [skips]
      exact .unsigned chosen signing

theorem Stage.decides (decided : stage.turnout? p r signer floor a = some turnout) :
    stage.Decides p r signer floor a turnout := by
  cases stage with
  | balance =>
    cases a with
    | number reply =>
      cases reply with
      | value funds =>
        obtain rfl := Option.some.inj decided
        split
        · exact .advances (.funded ‹_› rfl)
        · exact .poor ‹_›
      | failure f =>
        cases decided
        exact .unknown
      | crash m =>
        cases decided
        exact .collapses fun _ => Stage.noConfusion
    | digest _ | mined _ => cases decided
  | gasPrice =>
    cases a with
    | number reply =>
      cases reply with
      | value price =>
        cases decided
        exact .advances .suggested
      | failure f =>
        cases decided
        exact .advances .unsuggested
      | crash m =>
        cases decided
        exact .collapses fun _ => Stage.noConfusion
    | digest _ | mined _ => cases decided
  | nonce price =>
    cases a with
    | number reply =>
      cases reply with
      | value reported =>
        obtain rfl := Option.some.inj decided
        exact Stage.decides_ofNonce
      | failure f =>
        obtain rfl := Option.some.inj decided
        unfold Turnout.ofFailure
        cases skips : f.skipsSigner with
        | true => exact .numberless skips
        | false => exact .failsAtNonce skips
      | crash m =>
        cases decided
        exact .collapses fun _ => Stage.noConfusion
    | digest _ | mined _ => cases decided
  | broadcast t =>
    cases a with
    | digest reply =>
      cases reply with
      | value hash =>
        cases decided
        exact .taken
      | failure f =>
        obtain rfl := Option.some.inj decided
        unfold Turnout.ofFailure
        cases skips : f.skipsSigner with
        | true => exact .refused skips
        | false => exact .failsAtBroadcast skips
      | crash m =>
        cases decided
        exact .collapsesAtBroadcast
    | number _ | mined _ => cases decided

theorem Stage.advances_of_goesOn {next : Stage}
    (decided : stage.turnout? p r signer floor a = some (.goesOn next)) :
    stage.Advances p r signer floor a next := by
  cases Stage.decides decided with
  | advances further => exact further

theorem Stage.turnout?_sent {t : SignedTransfer} {hash : Digest}
    (decided : stage.turnout? p r signer floor a = some (.sent t hash)) :
    stage = .broadcast t ∧ a = .digest (.value hash) := by
  cases Stage.decides decided with
  | taken => exact ⟨rfl, rfl⟩

end Decides

section Advances

variable {p : Policy} {r : Request} {signer : Signer} {floor : NonceFloor} {stage next : Stage}
variable {a : Answer} {t : SignedTransfer}

theorem Stage.Advances.ne_balance (h : stage.Advances p r signer floor a next) : next ≠ .balance := by
  cases h with
  | funded _ first =>
    rw [first]
    unfold GasPricing.firstStage
    cases p.pricing.fixed <;> exact Stage.noConfusion
  | suggested | unsuggested | signed _ _ => exact Stage.noConfusion

/-- A transfer is handed over once the signer has signed it with the least nonce that is allowed. -/
theorem Stage.Advances.signs (h : stage.Advances p r signer floor a (.broadcast t)) :
    ∃ price reported nonce, stage = .nonce price ∧ a = .number (.value reported) ∧
      floor.next? reported = some nonce ∧ signer.sign
        ⟨r.destination, r.effectiveAmount p.terms, nonce, p.terms.gasLimit, price⟩ = .ok t := by
  cases h with
  | funded _ first => exact absurd first.symm (p.pricing.firstStage_ne_broadcast t)
  | signed chosen signing => exact ⟨_, _, _, rfl, rfl, chosen, signing⟩

theorem SignedTransfer.pays_of_sign {nonce gasLimit gasPrice : Word} (signing : signer.sign
    ⟨r.destination, r.effectiveAmount p.terms, nonce, gasLimit, gasPrice⟩ = .ok t) :
    t.Pays p r signer := by
  obtain ⟨same, sender⟩ := Transfer.sign_eq_ok signing
  exact ⟨by rw [same], by rw [same], sender⟩

end Advances

def SignedTransfer.transaction (t : SignedTransfer) (lease : Lease) (hash : Digest) (now : Nat) :
    Transaction where
  hash := hash
  nonce := t.nonce
  sender := lease.signer.address
  destination := t.destination
  amount := t.value
  submittedAt := now

namespace Desk

/-- What becomes of the desk and the request when an attempt has turned out. -/
def enact (d : Desk) (p : Policy) (since : Nat) (tried : List Address) (lease : Lease) :
    Turnout → Desk × Progress
  | .goesOn stage => (d, .trying since tried lease stage)
  | .passedOver reason => ((d.skip reason).release lease).tryNext p since tried
  | .fails f => (d.release lease).conclude p (.failed f)
  | .breaks m => d.breakDown lease m
  | .sent transfer hash =>
      let transaction := transfer.transaction lease hash d.now
      ({ d with
          pool := d.pool.modifyFloor lease.index (·.record transfer.nonce)
          tally := (d.tally.transferSubmitted p.chainId).fundRequest p.chainId "in_flight"
          watches := d.watches ++ [⟨transaction, lease, .planned⟩] },
        .ended (.inFlight ⟨transfer.value, transaction, d.watches.length⟩))

theorem Alike.enact {d e : Desk} (p : Policy) (since : Nat) (tried : List Address) (lease : Lease)
    (turnout : Turnout) (h : d.Alike e) :
    SameTurn (d.enact p since tried lease turnout) (e.enact p since tried lease turnout) := by
  cases turnout with
  | goesOn stage => exact ⟨h, rfl⟩
  | passedOver reason => exact ((h.skip reason).release lease).tryNext p since tried
  | fails f => exact (h.release lease).conclude p _
  | breaks m => exact ⟨h.release lease, rfl⟩
  | sent transfer hash =>
    obtain ⟨now, pool, tally, watches, stopped, said⟩ := h
    unfold Desk.enact
    rw [now, pool, tally, watches]
    exact ⟨⟨rfl, rfl, rfl, rfl, stopped, said⟩, rfl⟩

variable (d : Desk) (p : Policy) (r : Request) (since : Nat) (tried : List Address) (lease : Lease)

theorem abandon_sameTurn (f : Failure) :
    SameTurn (d.abandon p since tried lease f) (d.enact p since tried lease (.ofFailure f)) := by
  unfold abandon Turnout.ofFailure
  split
  · exact Alike.tryNext p since tried ⟨rfl, rfl, rfl, rfl, rfl, rfl⟩
  · exact ((Alike.refl _).note_left _).conclude p _

theorem onBalance_sameTurn (balance : Word) :
    SameTurn (d.onBalance p r since tried lease (.value balance))
      (d.enact p since tried lease (if r.effectiveAmount p.terms ≤ balance
        then .goesOn p.pricing.firstStage else .passedOver "insufficient_balance")) := by
  unfold onBalance GasPricing.firstStage
  dsimp only
  split
  · cases p.pricing.fixed with
    | none => exact ⟨(Alike.refl d).note_left _, rfl⟩
    | some price => exact ⟨(Alike.refl d).note_left _, rfl⟩
  · exact ((((Alike.refl d).note_left _).skip _).release lease).tryNext p since tried

theorem offer_sameTurn (result : Except Failure SignedTransfer) :
    SameTurn (d.offer p since tried lease result)
      (d.enact p since tried lease (.ofSigning result)) := by
  cases result with
  | error f => exact d.abandon_sameTurn p since tried lease f
  | ok transfer => exact .refl _

theorem onNonce_sameTurn (price reported : Word) :
    SameTurn (d.onNonce p r since tried lease price (.value reported))
      (d.enact p since tried lease
        (.ofNonce p r lease.signer (d.pool.floor lease.index) price reported)) := by
  unfold onNonce Turnout.ofNonce
  dsimp only
  cases (d.pool.floor lease.index).next? reported with
  | none =>
    cases (d.pool.floor lease.index).ahead? reported with
    | none => exact .refl _
    | some last => exact ⟨((Alike.refl d).note_left _).release lease, rfl⟩
  | some nonce =>
    cases (d.pool.floor lease.index).ahead? reported with
    | none => exact d.offer_sameTurn p since tried lease _
    | some last =>
      have alike := (Alike.refl d).note_left (.nonceBehind reported last)
      exact (offer_sameTurn _ p since tried lease _).trans (alike.enact p since tried lease _)

/-- A request that holds a lease decides on an answer first and then acts. -/
theorem resume_trying (stage : Stage) (a : Answer) :
    SameTurn (d.resume p r (.trying since tried lease stage) a)
      (match stage.turnout? p r lease.signer (d.pool.floor lease.index) a with
        | some turnout => d.enact p since tried lease turnout
        | none => (d, .trying since tried lease stage)) := by
  cases stage with
  | balance =>
    cases a with
    | number reply =>
      cases reply with
      | value balance => exact d.onBalance_sameTurn p r since tried lease balance
      | failure f =>
        exact ((((Alike.refl d).note_left _).skip _).release lease).tryNext p since tried
      | crash m => exact .refl _
    | digest _ | mined _ => exact .refl _
  | gasPrice =>
    cases a with
    | number reply =>
      cases reply with
      | value price => exact ⟨(Alike.refl d).note_left _, rfl⟩
      | failure f => exact ⟨(Alike.refl d).note_left _, rfl⟩
      | crash m => exact .refl _
    | digest _ | mined _ => exact .refl _
  | nonce price =>
    cases a with
    | number reply =>
      cases reply with
      | value reported => exact d.onNonce_sameTurn p r since tried lease price reported
      | failure f => exact d.abandon_sameTurn p since tried lease f
      | crash m => exact .refl _
    | digest _ | mined _ => exact .refl _
  | broadcast transfer =>
    cases a with
    | digest reply =>
      cases reply with
      | value hash => exact ⟨⟨rfl, rfl, rfl, rfl, rfl, rfl⟩, rfl⟩
      | failure f => exact d.abandon_sameTurn p since tried lease f
      | crash m => exact .refl _
    | number _ | mined _ => exact .refl _

variable {d p r since tried lease} in
theorem resume_of_turnout? {stage : Stage} {a : Answer} {turnout : Turnout}
    (decided : stage.turnout? p r lease.signer (d.pool.floor lease.index) a = some turnout) :
    SameTurn (d.resume p r (.trying since tried lease stage) a)
      (d.enact p since tried lease turnout) := by
  have same := d.resume_trying p r since tried lease stage a
  rw [decided] at same
  exact same

end Desk

end GasFaucet
