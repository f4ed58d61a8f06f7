import GasFaucet.Ledger
import Mathlib.Data.List.Basic

/-!
# Broadcasts

A chain held in memory takes a transfer whole or leaves everything as it is.  It refuses one whose sender it
is set to fail or whose nonce is behind; any other moves its value, sets the sender's nonce past its own and
is put on record, and touches nothing else.  So, unless somebody arranges another nonce, what the chain takes
from one sender has rising nonces.
-/

namespace GasFaucet

namespace Ledger

/-- Whether the chain is willing to take a transfer: its sender may send, and its nonce was not used. -/
def Admits (l : Ledger) (t : SignedTransfer) : Prop :=
  t.sender ∉ l.failingBroadcast ∧ l.nonces t.sender ≤ t.nonce

/-- Whether the sums that a transfer makes are words: the next nonce, and what its destination then has. -/
def Fits (l : Ledger) (t : SignedTransfer) : Prop :=
  t.nonce.toNat + 1 < Word.modulus ∧
    debited l.balances t t.destination + t.value.toNat < Word.modulus

instance (l : Ledger) (t : SignedTransfer) : Decidable (l.Admits t) :=
  inferInstanceAs (Decidable (_ ∧ _))

instance (l : Ledger) (t : SignedTransfer) : Decidable (l.Fits t) :=
  inferInstanceAs (Decidable (_ ∧ _))

structure Takes (l : Ledger) (t : SignedTransfer) (m : Ledger) : Prop where
  nonce : (m.nonces t.sender).toNat = t.nonce.toNat + 1
  balance : ∀ a, (m.balances a).toNat =
    debited l.balances t a + if a = t.destination then t.value.toNat else 0
  broadcasts : m.broadcasts = l.broadcasts ++ [t]
  pending : m.pending t.hash = some (t.sender, (l.plans t.sender).getD l.defaultPlan)
  otherNonces : ∀ a, a ≠ t.sender → m.nonces a = l.nonces a
  otherPending : ∀ hash, hash ≠ t.hash → m.pending hash = l.pending hash
  arrangements : m.gasPrice = l.gasPrice ∧ m.defaultPlan = l.defaultPlan ∧ m.plans = l.plans ∧
    m.failingBalance = l.failingBalance ∧ m.failingBroadcast = l.failingBroadcast ∧ m.latency = l.latency
  queries : m.balanceQueries = l.balanceQueries
  running : m.locked = l.locked

section Broadcast

variable {moved : Address → Word} {l : Ledger} {t : SignedTransfer}

theorem refusal?_eq_none_iff : l.refusal? t = none ↔ l.Admits t := by
  unfold refusal? Admits
  by_cases fails : t.sender ∈ l.failingBroadcast
  · simp [fails]
  · by_cases behind : t.nonce < l.nonces t.sender
    · simp [fails, behind, BitVec.not_le]
    · simp [fails, behind, BitVec.not_lt.mp behind]

theorem fits_of_sums {next : Word} (raised : t.nonce.add? 1 = some next)
    (done : moveValue? l.balances t = some moved) : l.Fits t := by
  constructor
  · rw [← show next.toNat = t.nonce.toNat + 1 from Word.add?_eq_some_iff.mp raised]
    exact next.toNat_lt_modulus
  · refine Nat.lt_of_not_le fun large => ?_
    rw [moveValue?_eq_none_iff.mpr large] at done
    cases done

theorem not_fits_of_sum (missing : t.nonce.add? 1 = none ∨ moveValue? l.balances t = none) : ¬l.Fits t := by
  rintro ⟨next, sum⟩
  rcases missing with none | none
  · have large : Word.modulus ≤ t.nonce.toNat + 1 := Word.add?_eq_none_iff.mp none
    omega
  · have large := moveValue?_eq_none_iff.mp none
    omega

end Broadcast

/-- How a chain handles a transfer: it refuses it and stays as it is, takes it, or breaks down over a sum. -/
inductive Handles (l : Ledger) (t : SignedTransfer) : Ledger → Reply Digest → Prop
  | refuses {message} : ¬l.Admits t → Handles l t l (.failure (.broadcast t.sender.text message))
  | takes {m} : l.Admits t → l.Fits t → l.Takes t m → Handles l t m (.value t.hash)
  | breaks : l.Admits t → ¬l.Fits t → Handles l t { l with locked := true } (.crash overflowMessage)

theorem handles_broadcast (l : Ledger) (t : SignedTransfer) :
    l.Handles t (l.broadcast t).1 (l.broadcast t).2 := by
  unfold broadcast
  cases refusal : l.refusal? t with
  | some f =>
    have unwilling : ¬l.Admits t := fun admits => by simp [refusal?_eq_none_iff.mpr admits] at refusal
    unfold refusal? at refusal
    split at refusal
    · cases refusal
      exact .refuses unwilling
    · split at refusal
      · cases refusal
        exact .refuses unwilling
      · cases refusal
  | none =>
    have admits := refusal?_eq_none_iff.mp refusal
    cases raised : t.nonce.add? 1 with
    | none => exact .breaks admits (not_fits_of_sum (.inl raised))
    | some next =>
      cases done : moveValue? l.balances t with
      | none => exact .breaks admits (not_fits_of_sum (.inr done))
      | some moved =>
        refine .takes admits (fits_of_sums raised done) ?_
        constructor
        case nonce => simpa using Word.add?_eq_some_iff.mp raised
        case balance => exact toNat_moveValue? done
        case pending => simp
        case otherNonces => exact fun a other => update_of_ne other
        case otherPending => exact fun hash other => update_of_ne other
        all_goals trivial

/--
How a chain answers the broadcast of a transfer.  A refusal leaves every part of it as it was; it takes a
transfer if it admits it and no sum is too large, and then the transfer alone has effects.
-/
structure Broadcasts (l : Ledger) (t : SignedTransfer) (m : Ledger) (answer : Answer) : Prop where
  accepted_iff : l.Fits t → ((∃ hash, answer = .digest (.value hash)) ↔ l.Admits t)
  refused_iff : (∃ f, answer = .digest (.failure f)) ↔ ¬l.Admits t
  refused : ∀ f, answer = .digest (.failure f) → m = l
  accepted : ∀ hash, answer = .digest (.value hash) → hash = t.hash ∧ l.Takes t m

theorem Handles.broadcasts {l m : Ledger} {t : SignedTransfer} {reply : Reply Digest}
    (handles : l.Handles t m reply) : l.Broadcasts t m (.digest reply) := by
  cases handles with
  | refuses unwilling =>
    constructor
    case accepted_iff => simp [unwilling]
    case refused_iff => simp [unwilling]
    case refused => exact fun _ _ => rfl
    case accepted => exact fun _ impossible => by cases impossible
  | takes admits _ taken =>
    constructor
    case accepted_iff => simp [admits]
    case refused_iff => simp [admits]
    case refused => exact fun _ impossible => by cases impossible
    case accepted =>
      intro hash same
      cases same
      exact ⟨rfl, taken⟩
  | breaks admits unfit =>
    constructor
    case accepted_iff => exact fun fits => absurd fits unfit
    case refused_iff => simp [admits]
    case refused => exact fun _ impossible => by cases impossible
    case accepted => exact fun _ impossible => by cases impossible

/-- Something that is done with a chain: a query is put to it, or an arrangement is made on it. -/
inductive Deed
  | ask (q : Query)
  | arrange (a : Arrangement)

/-- The chain after something was done with it. -/
def step (l : Ledger) : Deed → Ledger
  | .ask q => (l.answer q).1
  | .arrange a => (l.arrange a).1

/-- The chain after a number of things were done with it. -/
def run (l : Ledger) (deeds : List Deed) : Ledger :=
  deeds.foldl step l

/-- The transfer that the chain takes when something is done, if it takes one. -/
def taken? (l : Ledger) : Deed → Option SignedTransfer
  | .ask (.broadcast t) =>
      match (l.answer (.broadcast t)).2 with
      | .digest (.value _) => some t
      | _ => none
  | _ => none

/-- The transfers that the chain takes in a run, the first in front. -/
def taken (l : Ledger) : List Deed → List SignedTransfer
  | [] => []
  | d :: rest => (l.taken? d).toList ++ (l.step d).taken rest

/-- Whether the chain breaks down over a sum: it takes a transfer that does not fit. -/
def Overflows (l : Ledger) : Deed → Prop
  | .ask (.broadcast t) => l.locked = false ∧ l.Admits t ∧ ¬l.Fits t
  | _ => False

/-- Whether the chain never breaks down over a sum in a run. -/
def InRange (l : Ledger) : List Deed → Prop
  | [] => True
  | d :: rest => ¬l.Overflows d ∧ (l.step d).InRange rest

instance (l : Ledger) : ∀ d, Decidable (l.Overflows d)
  | .ask (.broadcast t) => inferInstanceAs (Decidable (_ ∧ l.Admits t ∧ ¬l.Fits t))
  | .ask (.balance _) | .ask .gasPrice | .ask (.nonce _) | .ask (.receipt _) | .arrange _ =>
      inferInstanceAs (Decidable False)

instance decidableInRange : ∀ (l : Ledger) (deeds : List Deed), Decidable (l.InRange deeds)
  | _, [] => inferInstanceAs (Decidable True)
  | l, d :: rest =>
      have := decidableInRange (l.step d) rest
      inferInstanceAs (Decidable (_ ∧ (l.step d).InRange rest))

/-- What is left alone when the chain takes no transfer. -/
structure Leaves (l : Ledger) (d : Deed) (m : Ledger) : Prop where
  broadcasts : m.broadcasts = l.broadcasts
  nonces : ∀ a, (∀ nonce, d ≠ .arrange (.nonce a nonce)) → m.nonces a = l.nonces a
  locked : m.locked = true ↔ l.locked = true ∨ l.Overflows d

theorem arrange_leaves (l : Ledger) (arrangement : Arrangement) :
    l.Leaves (.arrange arrangement) (l.arrange arrangement).1 := by
  unfold arrange
  split
  · exact ⟨rfl, fun _ _ => rfl, by simp [Overflows]⟩
  · cases arrangement with
    | nonce account nonce =>
      refine ⟨rfl, fun a elsewhere => ?_, by simp [arranged, Overflows]⟩
      refine update_of_ne ?_
      rintro rfl
      exact elsewhere nonce rfl
    | balance | gasPrice | defaultPlan | plan | failingBalance | failingBroadcast =>
      exact ⟨rfl, fun _ _ => rfl, by simp [arranged, Overflows]⟩

theorem answer_broadcast {l : Ledger} (running : l.locked = false) (t : SignedTransfer) :
    l.answer (.broadcast t) = ((l.broadcast t).1, .digest (l.broadcast t).2) := by
  simp [answer, running]

theorem fst_answer_of_locked {l : Ledger} (locked : l.locked = true) (q : Query) :
    (l.answer q).1 = l := by
  unfold answer
  split
  · rfl
  · cases q <;> simp_all

theorem answer_leaves (l : Ledger) {q : Query} (other : ∀ t, q ≠ .broadcast t) :
    l.Leaves (.ask q) (l.answer q).1 := by
  obtain ⟨pending, inFlight, balanceQueries, frame⟩ := l.answer_frame other
  rw [frame]
  refine ⟨rfl, fun _ _ => rfl, ?_⟩
  cases q with
  | broadcast t => exact absurd rfl (other t)
  | balance | gasPrice | nonce | receipt => simp [Overflows]

/-- A step takes one transfer, which the chain admits and which fits, or no transfer at all. -/
theorem step_cases (l : Ledger) (d : Deed) :
    (∃ t, d = .ask (.broadcast t) ∧ l.taken? d = some t ∧ l.locked = false ∧ l.Admits t ∧ l.Fits t ∧
      l.Takes t (l.step d)) ∨
    (l.taken? d = none ∧ l.Leaves d (l.step d)) := by
  cases d with
  | arrange arrangement => exact .inr ⟨rfl, l.arrange_leaves arrangement⟩
  | ask q =>
    cases q with
    | balance | gasPrice | nonce | receipt => exact .inr ⟨rfl, l.answer_leaves fun _ => Query.noConfusion⟩
    | broadcast t =>
      cases running : l.locked with
      | true =>
        rw [show l.step (.ask (.broadcast t)) = l from fst_answer_of_locked running _]
        refine .inr ⟨?_, rfl, fun _ _ => rfl, by simp [running]⟩
        simp [taken?, answer, running, Query.crashed]
      | false =>
        have handles := l.handles_broadcast t
        simp only [step, taken?, answer_broadcast running]
        generalize l.broadcast t = outcome at handles
        obtain ⟨m, reply⟩ := outcome
        cases handles with
        | takes admits fits taken => exact .inl ⟨t, rfl, rfl, trivial, admits, fits, taken⟩
        | refuses unwilling =>
          exact .inr ⟨rfl, rfl, fun _ _ => rfl, by simp [Overflows, unwilling]⟩
        | breaks admits unfit =>
          exact .inr ⟨rfl, rfl, fun _ _ => rfl, by simp [running, Overflows, admits, unfit]⟩

theorem locked_step (l : Ledger) (d : Deed) :
    (l.step d).locked = true ↔ l.locked = true ∨ l.Overflows d := by
  obtain ⟨t, rfl, -, running, -, fits, taken⟩ | ⟨-, left⟩ := l.step_cases d
  · rw [taken.running, running]
    simp [Overflows, fits]
  · exact left.locked

theorem running_step {l : Ledger} {d : Deed} (running : l.locked = false) (fits : ¬l.Overflows d) :
    (l.step d).locked = false := by
  rw [← Bool.not_eq_true, locked_step]
  rintro (locked | overflows)
  · rw [running] at locked
    cases locked
  · exact fits overflows

/-- A chain on which no sum was too large still works. -/
theorem InRange.running {l : Ledger} (running : l.locked = false) {deeds : List Deed}
    (h : l.InRange deeds) : (l.run deeds).locked = false := by
  induction deeds generalizing l with
  | nil => exact running
  | cons d rest ih => exact ih (running_step running h.1) h.2

theorem broadcasts_step (l : Ledger) (d : Deed) :
    (l.step d).broadcasts = l.broadcasts ++ (l.taken? d).toList := by
  obtain ⟨t, -, some, -, -, -, taken⟩ | ⟨none, left⟩ := l.step_cases d
  · rw [some, taken.broadcasts]
    rfl
  · rw [none, left.broadcasts]
    simp

theorem broadcasts_run (l : Ledger) (deeds : List Deed) :
    (l.run deeds).broadcasts = l.broadcasts ++ l.taken deeds := by
  induction deeds generalizing l with
  | nil => simp [run, taken]
  | cons d rest ih =>
    change ((l.step d).run rest).broadcasts = _
    rw [ih, broadcasts_step, taken, List.append_assoc]

section Rising

variable {l : Ledger} {a : Address} {d : Deed} {deeds : List Deed}

theorem nonces_le_step (alone : ∀ nonce, d ≠ .arrange (.nonce a nonce)) :
    l.nonces a ≤ (l.step d).nonces a := by
  obtain ⟨t, -, -, -, admits, -, taken⟩ | ⟨-, left⟩ := l.step_cases d
  · by_cases own : a = t.sender
    · subst own
      rw [BitVec.le_def, taken.nonce]
      have least := admits.2
      rw [BitVec.le_def] at least
      omega
    · exact BitVec.le_of_eq (taken.otherNonces a own).symm
  · exact BitVec.le_of_eq (left.nonces a alone).symm

def noncesOf (a : Address) (transfers : List SignedTransfer) : List Word :=
  (transfers.filter (·.sender = a)).map (·.nonce)

theorem noncesOf_append (a : Address) (transfers more : List SignedTransfer) :
    noncesOf a (transfers ++ more) = noncesOf a transfers ++ noncesOf a more := by
  simp [noncesOf]

/-- A nonce that is taken in a step lies between the sender's next nonces before and after it. -/
theorem nonce_between {n : Word} (sent : n ∈ noncesOf a (l.taken? d).toList) :
    l.nonces a ≤ n ∧ n < (l.step d).nonces a := by
  obtain ⟨t, -, some, -, admits, -, taken⟩ | ⟨none, -⟩ := l.step_cases d
  · rw [some] at sent
    obtain ⟨rfl, rfl⟩ : t.sender = a ∧ t.nonce = n := by simpa [noncesOf] using sent
    refine ⟨admits.2, ?_⟩
    rw [BitVec.lt_def, taken.nonce]
    omega
  · simp [none, noncesOf] at sent

/--
Unless another nonce is arranged for an account, its next nonce does not fall, and what the chain takes from
the account has rising nonces from there on.
-/
theorem run_rises (alone : ∀ nonce, .arrange (.nonce a nonce) ∉ deeds) :
    l.nonces a ≤ (l.run deeds).nonces a ∧ (∀ n ∈ noncesOf a (l.taken deeds), l.nonces a ≤ n) ∧
      (noncesOf a (l.taken deeds)).Pairwise (· < ·) := by
  induction deeds generalizing l with
  | nil => exact ⟨BitVec.le_refl _, by simp [taken, noncesOf], by simp [taken, noncesOf]⟩
  | cons d rest ih =>
    have here (nonce : UInt64) : d ≠ .arrange (.nonce a nonce) := by
      rintro rfl
      exact alone nonce List.mem_cons_self
    have later (nonce : UInt64) : .arrange (.nonce a nonce) ∉ rest :=
      fun member => alone nonce (List.mem_cons_of_mem _ member)
    have raised : l.nonces a ≤ (l.step d).nonces a := nonces_le_step here
    obtain ⟨grown, above, rising⟩ := @ih (l.step d) later
    have single : (noncesOf a (l.taken? d).toList).Pairwise (· < ·) := by
      cases l.taken? d with
      | none => simp [noncesOf]
      | some t => by_cases own : t.sender = a <;> simp [noncesOf, own]
    rw [taken, noncesOf_append]
    refine ⟨BitVec.le_trans raised grown, fun n sent => ?_, ?_⟩
    · rcases List.mem_append.mp sent with sent | sent
      · exact (nonce_between sent).1
      · exact BitVec.le_trans raised (above n sent)
    · refine List.pairwise_append.mpr ⟨single, rising, fun n sent m sent' => ?_⟩
      have below := (nonce_between sent).2
      have least := above m sent'
      rw [BitVec.lt_def] at below ⊢
      rw [BitVec.le_def] at least
      omega

end Rising

/--
While no sum was too large, a chain takes a transfer whole or not at all.  From then on the transfers that it
takes are put on record one after the other, and unless another nonce is arranged for an account, its next
nonce never falls and what it sends has rising nonces.
-/
theorem run_broadcasts (latency : Nat) {past : List Deed} (inRange : (fresh latency).InRange past) :
    let l := (fresh latency).run past
    (∀ t, l.Broadcasts t (l.answer (.broadcast t)).1 (l.answer (.broadcast t)).2) ∧
      ∀ deeds, (l.run deeds).broadcasts = l.broadcasts ++ l.taken deeds ∧
        ∀ a, (∀ nonce, .arrange (.nonce a nonce) ∉ deeds) →
          l.nonces a ≤ (l.run deeds).nonces a ∧ (noncesOf a (l.taken deeds)).Pairwise (· < ·) := by
  intro l
  refine ⟨fun t => ?_, fun deeds => ⟨l.broadcasts_run deeds, fun a alone => ?_⟩⟩
  · rw [answer_broadcast (inRange.running rfl)]
    exact (l.handles_broadcast t).broadcasts
  · obtain ⟨grown, -, rising⟩ := run_rises (l := l) alone
    exact ⟨grown, rising⟩

/-- Whoever has three wei left sends itself nine, with a nonce that leaves four out, and then has nine. -/
theorem run_broadcasts_to_oneself :
    let paid : SignedTransfer := ⟨⟨⟨2⟩, 7, 0, transferGas, 1⟩, ⟨1⟩, ⟨1⟩, []⟩
    let t : SignedTransfer := ⟨⟨⟨1⟩, 9, 5, transferGas, 1⟩, ⟨1⟩, ⟨2⟩, []⟩
    let past : List Deed := [.arrange (.balance ⟨1⟩ 10), .ask (.broadcast paid)]
    let l := (fresh 0).run past
    let m := (l.answer (.broadcast t)).1
    (fresh 0).InRange past ∧ l.Admits t ∧ l.Fits t ∧ (l.answer (.broadcast t)).2 = .digest (.value ⟨2⟩) ∧
      (l.balances ⟨1⟩).toNat = 3 ∧ (m.nonces ⟨1⟩).toNat = 6 ∧ (m.balances ⟨1⟩).toNat = 9 := by
  intro paid t past l m
  have inRange : (fresh 0).InRange past := by decide
  have admits : l.Admits t := by decide
  have fits : l.Fits t := by decide
  obtain ⟨whole, -⟩ := run_broadcasts 0 inRange
  obtain ⟨hash, answered⟩ := ((whole t).accepted_iff fits).mpr admits
  obtain ⟨rfl, taken⟩ := (whole t).accepted hash answered
  exact ⟨inRange, admits, fits, answered, by decide, taken.nonce, taken.balance ⟨1⟩⟩

end Ledger

end GasFaucet
