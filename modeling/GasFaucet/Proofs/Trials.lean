import GasFaucet.Proofs.Courses
import Mathlib.Data.List.Induction

/-!
# Trials

How a signer that a round has leased turns out by what the node has answered on its behalf.  It takes four
answers at most, and a transfer is sent exactly from a signer whose balance suffices, whose transfer is signed
with the next nonce, and whose transfer the node takes.
-/

namespace GasFaucet

def Turnout.next? (p : Policy) (r : Request) (signer : Signer) (floor : NonceFloor) :
    Option Turnout → Answer → Option Turnout
  | some (.goesOn stage), a => stage.turnout? p r signer floor a
  | _, _ => none

theorem Turnout.next?_eq_some {p : Policy} {r : Request} {signer : Signer} {floor : NonceFloor}
    {before : Option Turnout} {a : Answer} {turnout : Turnout}
    (turned : Turnout.next? p r signer floor before a = some turnout) :
    ∃ stage, before = some (.goesOn stage) ∧ stage.turnout? p r signer floor a = some turnout := by
  unfold Turnout.next? at turned
  split at turned
  · exact ⟨_, rfl, turned⟩
  · cases turned

/-- The answers up to the nonce of an attempt that can pay: the balance suffices, and the price is settled. -/
inductive Priced (p : Policy) (r : Request) : List Answer → (price : Word) → Prop
  | fixed {funds price} : r.effectiveAmount p.terms ≤ funds → p.pricing.fixed = some price →
      Priced p r [.number (.value funds)] price
  | suggested {funds price} : r.effectiveAmount p.terms ≤ funds → p.pricing.fixed = none →
      Priced p r [.number (.value funds), .number (.value price)] (p.pricing.settle (.ok price)).1
  | unsuggested {funds f} : r.effectiveAmount p.terms ≤ funds → p.pricing.fixed = none →
      Priced p r [.number (.value funds), .number (.failure f)] (p.pricing.settle (.error f)).1

/-- A signer that a round has leased: its nonce floor, and what the node has answered on its behalf. -/
structure Trial where
  lease : Lease
  floor : NonceFloor
  answers : List Answer

namespace Trial

def account (t : Trial) : Address :=
  t.lease.signer.address

def hear (t : Trial) (a : Answer) : Trial :=
  { t with answers := t.answers ++ [a] }

/-- How a trial has turned out by its answers; one that has not ended yet goes on at a stage. -/
def turnout? (p : Policy) (r : Request) (t : Trial) : Option Turnout :=
  t.answers.foldl (Turnout.next? p r t.lease.signer t.floor) (some (.goesOn .balance))

def Declined (p : Policy) (r : Request) (t : Trial) : Prop :=
  ∃ reason, t.turnout? p r = some (.passedOver reason)

/-- The signer could pay, its transfer was signed with the next nonce, and the node took it. -/
inductive Pays (p : Policy) (r : Request) (t : Trial) (transfer : SignedTransfer) (hash : Digest) : Prop
  | intro {priced price reported nonce} : Priced p r priced price →
      t.answers = priced ++ [.number (.value reported), .digest (.value hash)] →
      t.floor.next? reported = some nonce →
      t.lease.signer.sign ⟨r.destination, r.effectiveAmount p.terms, nonce, p.terms.gasLimit, price⟩ =
        .ok transfer →
      Pays p r t transfer hash

variable {p : Policy} {r : Request} {t : Trial} {stage : Stage} {turnout : Turnout} {a : Answer}
variable {lease : Lease} {floor : NonceFloor} {answers : List Answer}

theorem turnout?_append_singleton :
    turnout? p r ⟨lease, floor, answers ++ [a]⟩ =
      Turnout.next? p r lease.signer floor (turnout? p r ⟨lease, floor, answers⟩) a := by
  unfold turnout?
  rw [List.foldl_append]
  rfl

theorem turnout?_hear (going : t.turnout? p r = some (.goesOn stage)) (a : Answer) :
    (t.hear a).turnout? p r = stage.turnout? p r t.lease.signer t.floor a := by
  unfold hear
  rw [turnout?_append_singleton, going]
  rfl

/-- A trial goes on from one stage to the next, and ends with the fourth answer at the latest. -/
theorem length_answers_le (turned : t.turnout? p r = some turnout) :
    t.answers.length ≤ 4 ∧ ∀ stage, turnout = .goesOn stage → t.answers.length ≤ stage.rank := by
  obtain ⟨lease, floor, answers⟩ := t
  induction answers using List.reverseRecOn generalizing turnout with
  | nil => exact ⟨Nat.zero_le _, fun _ _ => Nat.zero_le _⟩
  | append_singleton answers a ih =>
    rw [turnout?_append_singleton] at turned
    obtain ⟨stage, going, last⟩ := Turnout.next?_eq_some turned
    have few := (ih going).2 stage rfl
    have below := stage.rank_lt_four
    dsimp only at few
    rw [List.length_append, List.length_singleton]
    refine ⟨by omega, ?_⟩
    rintro next rfl
    have further := (Stage.advances_of_goesOn last).rank_lt
    omega

theorem exists_last (turned : turnout? p r ⟨lease, floor, answers⟩ = some turnout)
    (past : turnout ≠ .goesOn .balance) :
    ∃ before a stage, answers = before ++ [a] ∧
      turnout? p r ⟨lease, floor, before⟩ = some (.goesOn stage) ∧
      stage.turnout? p r lease.signer floor a = some turnout := by
  cases answers using List.reverseRecOn with
  | nil => exact absurd (Option.some.inj turned).symm past
  | append_singleton before a =>
    rw [turnout?_append_singleton] at turned
    obtain ⟨stage, going, last⟩ := Turnout.next?_eq_some turned
    exact ⟨before, a, stage, rfl, going, last⟩

theorem answers_of_balance (going : turnout? p r ⟨lease, floor, answers⟩ = some (.goesOn .balance)) :
    answers = [] := by
  have few := (length_answers_le going).2 .balance rfl
  exact List.length_eq_zero_iff.mp (Nat.le_zero.mp few)

theorem funded_of_gasPrice (going : turnout? p r ⟨lease, floor, answers⟩ = some (.goesOn .gasPrice)) :
    ∃ funds, answers = [.number (.value funds)] ∧ r.effectiveAmount p.terms ≤ funds ∧
      p.pricing.fixed = none := by
  obtain ⟨before, a, stage, rfl, earlier, last⟩ := exists_last going (by simp)
  cases Stage.advances_of_goesOn last with
  | funded enough first =>
    rw [answers_of_balance earlier]
    refine ⟨_, rfl, enough, ?_⟩
    unfold GasPricing.firstStage at first
    split at first
    · cases first
    · assumption

theorem priced_of_nonce {price : Word}
    (going : turnout? p r ⟨lease, floor, answers⟩ = some (.goesOn (.nonce price))) :
    Priced p r answers price := by
  obtain ⟨before, a, stage, rfl, earlier, last⟩ := exists_last going (by simp)
  cases Stage.advances_of_goesOn last with
  | funded enough first =>
    rw [answers_of_balance earlier]
    unfold GasPricing.firstStage at first
    split at first
    · cases first
      exact .fixed enough ‹_›
    · cases first
  | suggested =>
    obtain ⟨funds, rfl, enough, unfixed⟩ := funded_of_gasPrice earlier
    exact .suggested enough unfixed
  | unsuggested =>
    obtain ⟨funds, rfl, enough, unfixed⟩ := funded_of_gasPrice earlier
    exact .unsuggested enough unfixed

theorem turnout?_of_priced {price : Word} (priced : Priced p r answers price) :
    turnout? p r ⟨lease, floor, answers⟩ = some (.goesOn (.nonce price)) := by
  cases priced with
  | fixed enough fixed =>
    simp [turnout?, Turnout.next?, Stage.turnout?, GasPricing.firstStage, enough, fixed]
  | suggested enough unfixed | unsuggested enough unfixed =>
    simp [turnout?, Turnout.next?, Stage.turnout?, GasPricing.firstStage, enough, unfixed]

theorem turnout?_eq_sent_iff {transfer : SignedTransfer} {hash : Digest} :
    t.turnout? p r = some (.sent transfer hash) ↔ t.Pays p r transfer hash := by
  obtain ⟨lease, floor, answers⟩ := t
  constructor
  · intro sent
    obtain ⟨offered, a, stage, rfl, going, last⟩ := exists_last sent Turnout.noConfusion
    obtain ⟨rfl, rfl⟩ := Stage.turnout?_sent last
    obtain ⟨priced, a, stage, rfl, earlier, last'⟩ := exists_last going (by simp)
    obtain ⟨price, reported, nonce, rfl, rfl, chosen, signing⟩ := (Stage.advances_of_goesOn last').signs
    refine .intro (priced_of_nonce earlier) ?_ chosen signing
    simp
  · rintro ⟨priced, answered, chosen, signing⟩
    dsimp only at answered chosen signing
    subst answered
    rw [List.append_cons, turnout?_append_singleton, turnout?_append_singleton, turnout?_of_priced priced]
    have offered := Turnout.ofNonce_of_sign chosen signing
    simp [Turnout.next?, Stage.turnout?, offered]

theorem Declined.not_pays (declined : t.Declined p r) (transfer : SignedTransfer) (hash : Digest) :
    ¬t.Pays p r transfer hash := by
  obtain ⟨reason, passed⟩ := declined
  intro pays
  cases passed.symm.trans (turnout?_eq_sent_iff.mpr pays)

end Trial

/-- The trials of a round after an event: a signer that was just leased is asked for its balance next. -/
def Progress.onTrial (trials : List Trial) (pool : Pool) : Progress → List Trial
  | .trying _ _ lease .balance => trials ++ [⟨lease, pool.floor lease.index, []⟩]
  | _ => trials

theorem Progress.onTrial_of_advanced {stage : Stage} (further : stage ≠ .balance) (trials : List Trial)
    (pool : Pool) (since : Nat) (accounts : List Address) (lease : Lease) :
    (Progress.trying since accounts lease stage).onTrial trials pool = trials := by
  cases stage with
  | balance => exact absurd rfl further
  | gasPrice | nonce _ | broadcast _ => rfl

theorem Progress.onTrial_of_idle {progress : Progress} (idle : progress.lease? = none)
    (trials : List Trial) (pool : Pool) : progress.onTrial trials pool = trials := by
  cases progress with
  | trying _ _ _ _ => cases idle
  | gate | resting _ _ | ended _ | crashed _ _ | cancelled => rfl

/-- The signer that a round has on lease as it stands: the one on trial, or the one that has paid. -/
def Progress.keeps? (trials : List Trial) : Progress → Option Lease
  | .trying _ _ lease _ => some lease
  | .ended (.inFlight _) => trials.getLast?.map Trial.lease
  | _ => none

end GasFaucet
