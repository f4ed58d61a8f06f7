import GasFaucet.Proofs.Answering
import GasFaucet.Proofs.Broadcasts
import Mathlib.Data.Finset.Card

/-!
# Counters

A chain held in memory counts how many senders had an unmined transaction at once, and how often a sender
sent while it had one.  It counts by a set of senders, and whoever is given a receipt leaves the set, though
it may have another transaction that is unmined.  So neither count is ever too large.  Both are right while
no receipt comes to a sender that has another unmined transaction, and a count of no repeated sends is always
right.
-/

namespace GasFaucet

namespace Ledger

def unmined (l : Ledger) : List SignedTransfer :=
  l.broadcasts.filter fun t => (l.pending t.hash).isSome

/-- Those who sent a transaction whose receipt has not been given. -/
def unminedSenders (l : Ledger) : Finset Address :=
  (l.unmined.map (·.sender)).toFinset

/-- How often, in a run, the chain takes a transfer from a sender that has an unmined transaction. -/
def repeats (l : Ledger) : List Deed → Nat
  | [] => 0
  | d :: rest =>
      ((l.taken? d).toList.countP fun t => t.sender ∈ l.unminedSenders) + (l.step d).repeats rest

def peak (l : Ledger) : List Deed → Nat
  | [] => l.unminedSenders.card
  | d :: rest => max l.unminedSenders.card ((l.step d).peak rest)

/-- The sender whose transaction gets its receipt when something is done, if one gets it. -/
def mined? (l : Ledger) (d : Deed) : Option Address :=
  match d with
  | .ask (.receipt hash) => if ((l.step d).pending hash).isSome then none else l.senderOf? hash
  | _ => none

/-- Whether nobody, in a run, is given a receipt who has another unmined transaction. -/
def MinesLast (l : Ledger) : List Deed → Prop
  | [] => True
  | d :: rest => (∀ a ∈ l.mined? d, a ∉ (l.step d).unminedSenders) ∧ (l.step d).MinesLast rest

instance decidableMinesLast : ∀ (l : Ledger) (deeds : List Deed), Decidable (l.MinesLast deeds)
  | _, [] => inferInstanceAs (Decidable True)
  | l, d :: rest =>
      have now : Decidable (∀ a ∈ l.mined? d, a ∉ (l.step d).unminedSenders) :=
        match l.mined? d with
        | none => .isTrue nofun
        | some a => decidable_of_iff (a ∉ (l.step d).unminedSenders) (by simp)
      have later := decidableMinesLast (l.step d) rest
      @instDecidableAnd _ _ now later

def Hashed (l : Ledger) : Prop :=
  ∀ t ∈ l.broadcasts, ∀ t' ∈ l.broadcasts, t.hash = t'.hash → t.sender = t'.sender

instance (l : Ledger) : Decidable l.Hashed :=
  inferInstanceAs (Decidable (∀ t ∈ l.broadcasts, ∀ t' ∈ l.broadcasts, _))

/-- Nothing happens to the transactions of a chain, nor to its counts. -/
structure Keeps (l m : Ledger) : Prop where
  senders : m.senderOf? = l.senderOf?
  broadcasts : m.broadcasts = l.broadcasts
  inFlight : m.inFlight = l.inFlight
  maxInFlight : m.maxInFlight = l.maxInFlight
  doubleSends : m.doubleSends = l.doubleSends

/-- A transaction gets its receipt, and its sender leaves the set. -/
structure Drops (l : Ledger) (hash : Digest) (sender : Address) (m : Ledger) : Prop where
  sent : l.senderOf? hash = some sender
  senders : m.senderOf? = update l.senderOf? hash none
  broadcasts : m.broadcasts = l.broadcasts
  inFlight : m.inFlight = l.inFlight.filter (· ≠ sender)
  maxInFlight : m.maxInFlight = l.maxInFlight
  doubleSends : m.doubleSends = l.doubleSends

/-- A transfer is taken and becomes an unmined transaction, and its sender joins the set. -/
structure Adds (l : Ledger) (t : SignedTransfer) (m : Ledger) : Prop where
  senders : m.senderOf? = update l.senderOf? t.hash (some t.sender)
  broadcasts : m.broadcasts = l.broadcasts ++ [t]
  inFlight : m.inFlight = if l.inFlight.contains t.sender then l.inFlight else t.sender :: l.inFlight
  maxInFlight : m.maxInFlight = max l.maxInFlight m.inFlight.length
  doubleSends : m.doubleSends = l.doubleSends + (l.inFlight.contains t.sender).toNat

/-- What something that is done means to the transactions of a chain and to its counts. -/
inductive Moves (l : Ledger) (d : Deed) (m : Ledger) : Prop
  | keeps : l.taken? d = none → l.mined? d = none → l.Keeps m → Moves l d m
  | drops {hash sender} : l.taken? d = none → l.mined? d = some sender → l.Drops hash sender m → Moves l d m
  | adds {t} : l.taken? d = some t → l.mined? d = none → l.Adds t m → Moves l d m

theorem SameTransfers.keeps {l m : Ledger} (same : l.SameTransfers m) : l.Keeps m where
  senders := by
    funext hash
    rw [senderOf?, senderOf?, same.pending]
  broadcasts := same.broadcasts
  inFlight := same.inFlight
  maxInFlight := same.maxInFlight
  doubleSends := same.doubleSends

theorem senderOf?_update {l m : Ledger} {hash : Digest} {entry : Option (Address × MiningPlan)}
    (pending : m.pending = update l.pending hash entry) :
    m.senderOf? = update l.senderOf? hash (entry.map (·.1)) := by
  funext other
  unfold senderOf? update
  rw [pending]
  unfold update
  split <;> rfl

theorem taken?_eq_none {l : Ledger} {q : Query} (untold : ∀ hash, (l.answer q).2 ≠ .digest (.value hash)) :
    l.taken? (.ask q) = none := by
  unfold taken?
  split
  · rename_i t same
    cases same
    split
    · rename_i hash told
      exact absurd told (untold hash)
    · rfl
  · rfl

theorem mined?_eq_none {l : Ledger} {d : Deed}
    (kept : ∀ hash, l.pending hash ≠ none → (l.step d).pending hash ≠ none) : l.mined? d = none := by
  unfold mined?
  split
  · rename_i hash
    split
    · rfl
    · rename_i missing
      have missing' : l.pending hash = none := by
        by_contra present
        exact kept hash present (by simpa using missing)
      rw [senderOf?, missing']
      rfl
  · rfl

theorem step_moves (l : Ledger) (d : Deed) : l.Moves d (l.step d) := by
  cases d with
  | arrange arrangement => exact .keeps rfl rfl (l.sameTransfers_arrange arrangement).keeps
  | ask q =>
    have answers := l.answer_answers q
    have stepped : l.step (.ask q) = (l.answer q).1 := rfl
    rw [← stepped] at answers
    generalize replied : (l.answer q).2 = answer at answers
    generalize followed : l.step (.ask q) = m at answers ⊢
    cases answers with
    | tells same untold =>
      refine .keeps (taken?_eq_none (replied ▸ untold)) (mined?_eq_none fun hash present => ?_) same.keeps
      rwa [followed, same.pending]
    | @postpones hash sender plan rest there =>
      have kept : Option.map (·.1) (some (sender, rest)) = l.senderOf? hash := by
        rw [senderOf?, there]
        rfl
      refine .keeps rfl (mined?_eq_none fun other present => ?_) ⟨?_, rfl, rfl, rfl, rfl⟩
      · rw [followed]
        by_cases same : other = hash
        · simp [same]
        · simpa [update_of_ne same] using present
      · rw [senderOf?_update rfl, kept]
        exact update_eq_self _ _
    | @settles hash sender plan reply there =>
      have sent : l.senderOf? hash = some sender := by
        rw [senderOf?, there]
        rfl
      refine .drops rfl ?_ ⟨sent, ?_, rfl, rfl, rfl, rfl⟩
      · simpa [mined?, followed, settleReceipt] using sent
      · exact senderOf?_update (show _ = update l.pending hash none from rfl)
    | takes _ pending broadcasts inFlight maxInFlight doubleSends =>
      refine .adds ?_ rfl ⟨senderOf?_update pending, broadcasts, inFlight, maxInFlight, doubleSends⟩
      simp [taken?, replied]
    | locks => exact .keeps (taken?_eq_none (by simp [replied])) rfl ⟨rfl, rfl, rfl, rfl, rfl⟩

/-- What holds of the transactions of a chain and its counts in every run. -/
structure Counting (l : Ledger) : Prop where
  filed : ∀ hash a, l.senderOf? hash = some a → ∃ t ∈ l.broadcasts, t.hash = hash ∧ t.sender = a
  once : l.inFlight.Nodup
  listed : ∀ a ∈ l.inFlight, ∃ hash, l.senderOf? hash = some a
  counted : l.inFlight.length ≤ l.maxInFlight
  single : l.doubleSends = 0 → ∀ hash a, l.senderOf? hash = some a →
    a ∈ l.inFlight ∧ ∀ hash', l.senderOf? hash' = some a → hash' = hash

/-- Whether everybody is in the set of senders who has an unmined transaction. -/
def Complete (l : Ledger) : Prop :=
  ∀ hash a, l.senderOf? hash = some a → a ∈ l.inFlight

theorem counting_fresh (latency : Nat) : (fresh latency).Counting where
  filed := fun _ _ there => by cases there
  once := List.nodup_nil
  listed := fun _ member => by cases member
  counted := Nat.zero_le _
  single := fun _ _ _ there => by cases there

section Counting

variable {l m : Ledger} {d : Deed} {a : Address} {deeds : List Deed}

theorem Counting.mem_unminedSenders_iff (h : l.Counting) (hashed : l.Hashed) :
    a ∈ l.unminedSenders ↔ ∃ hash, l.senderOf? hash = some a := by
  unfold unminedSenders unmined
  simp only [List.mem_toFinset, List.mem_map, List.mem_filter]
  constructor
  · rintro ⟨t, ⟨member, present⟩, rfl⟩
    obtain ⟨⟨sender, plan⟩, there⟩ := Option.isSome_iff_exists.mp present
    have sent : l.senderOf? t.hash = some sender := by
      rw [senderOf?, there]
      rfl
    obtain ⟨t', member', hash, rfl⟩ := h.filed t.hash sender sent
    refine ⟨t.hash, ?_⟩
    rw [sent, hashed t' member' t member hash]
  · rintro ⟨hash, sent⟩
    obtain ⟨t, member, rfl, sender⟩ := h.filed hash a sent
    refine ⟨t, ⟨member, ?_⟩, sender⟩
    obtain ⟨entry, there, -⟩ := Option.map_eq_some_iff.mp sent
    rw [there]
    rfl

theorem Counting.length_inFlight_le (h : l.Counting) (hashed : l.Hashed) :
    l.inFlight.length ≤ l.unminedSenders.card := by
  rw [← List.toFinset_card_of_nodup h.once]
  refine Finset.card_le_card fun a member => ?_
  exact (h.mem_unminedSenders_iff hashed).mpr (h.listed a (List.mem_toFinset.mp member))

theorem Counting.length_inFlight_eq (h : l.Counting) (hashed : l.Hashed) (complete : l.Complete) :
    l.inFlight.length = l.unminedSenders.card := by
  refine (h.length_inFlight_le hashed).antisymm ?_
  rw [← List.toFinset_card_of_nodup h.once]
  refine Finset.card_le_card fun a member => ?_
  obtain ⟨hash, sent⟩ := (h.mem_unminedSenders_iff hashed).mp member
  exact List.mem_toFinset.mpr (complete hash a sent)

theorem Hashed.start (hashed : (l.run deeds).Hashed) : l.Hashed := by
  have known : ∀ t ∈ l.broadcasts, t ∈ (l.run deeds).broadcasts := by
    rw [broadcasts_run]
    exact fun t member => List.mem_append_left _ member
  exact fun t member t' member' => hashed t (known t member) t' (known t' member')

theorem Counting.drops (h : l.Counting) {hash : Digest} {sender : Address} (drops : l.Drops hash sender m) :
    m.Counting := by
  obtain ⟨sent, senders, broadcasts, inFlight, maxInFlight, doubleSends⟩ := drops
  have before {hash' a} (there : m.senderOf? hash' = some a) :
      hash' ≠ hash ∧ l.senderOf? hash' = some a := by
    rwa [senders, update_none_eq_some_iff] at there
  constructor
  case filed =>
    intro hash' a there
    rw [broadcasts]
    exact h.filed hash' a (before there).2
  case once =>
    rw [inFlight]
    exact h.once.filter _
  case listed =>
    intro a member
    rw [inFlight] at member
    obtain ⟨member, other⟩ := List.mem_filter.mp member
    obtain ⟨hash', there⟩ := h.listed a member
    refine ⟨hash', ?_⟩
    rw [senders, update_of_ne ?_, there]
    rintro rfl
    rw [sent] at there
    cases there
    simp at other
  case counted =>
    rw [inFlight, maxInFlight]
    exact (List.length_filter_le _ _).trans h.counted
  case single =>
    intro none hash' a there
    rw [doubleSends] at none
    obtain ⟨apart, there⟩ := before there
    obtain ⟨member, sole⟩ := h.single none hash' a there
    refine ⟨?_, fun hash'' there' => sole hash'' (before there').2⟩
    -- The receipt went to another sender: this one has no second transaction.
    have other : a ≠ sender := by
      rintro rfl
      exact apart (sole hash sent).symm
    rw [inFlight]
    exact List.mem_filter.mpr ⟨member, by simpa using other⟩

theorem Adds.mem_inFlight_iff {t : SignedTransfer} (adds : l.Adds t m) :
    a ∈ m.inFlight ↔ a = t.sender ∨ a ∈ l.inFlight := by
  rw [adds.inFlight]
  split
  · rename_i present
    have present : t.sender ∈ l.inFlight := by simpa using present
    exact ⟨.inr, fun either => either.elim (fun same => same ▸ present) id⟩
  · exact List.mem_cons

theorem Counting.adds (h : l.Counting) {t : SignedTransfer} (adds : l.Adds t m) (hashed : m.Hashed) :
    m.Counting := by
  have here : m.senderOf? t.hash = some t.sender := by rw [adds.senders, update_self]
  have others {hash} (other : hash ≠ t.hash) : m.senderOf? hash = l.senderOf? hash := by
    rw [adds.senders, update_of_ne other]
  have kept {t'} (member : t' ∈ l.broadcasts) : t' ∈ m.broadcasts := by
    rw [adds.broadcasts]
    exact List.mem_append_left _ member
  have last : t ∈ m.broadcasts := by simp [adds.broadcasts]
  constructor
  case filed =>
    intro hash a there
    by_cases own : hash = t.hash
    · subst own
      exact ⟨t, last, rfl, Option.some.inj (here.symm.trans there)⟩
    · rw [others own] at there
      obtain ⟨t', member, about⟩ := h.filed hash a there
      exact ⟨t', kept member, about⟩
  case once =>
    rw [adds.inFlight]
    split
    · exact h.once
    · rename_i absent
      exact List.nodup_cons.mpr ⟨by simpa using absent, h.once⟩
  case listed =>
    intro a member
    rcases adds.mem_inFlight_iff.mp member with rfl | member
    · exact ⟨t.hash, here⟩
    · obtain ⟨hash, there⟩ := h.listed a member
      refine ⟨hash, ?_⟩
      by_cases own : hash = t.hash
      · subst own
        obtain ⟨t', member', same, rfl⟩ := h.filed t.hash a there
        rw [here, hashed t' (kept member') t last same]
      · rw [others own, there]
  case counted =>
    rw [adds.maxInFlight]
    exact Nat.le_max_right _ _
  case single =>
    intro none hash a there
    have absent : t.sender ∉ l.inFlight := by
      intro present
      simp [adds.doubleSends, present] at none
    have none : l.doubleSends = 0 := Nat.eq_zero_of_add_eq_zero_right (adds.doubleSends ▸ none)
    by_cases own : hash = t.hash
    · subst own
      obtain rfl : t.sender = a := Option.some.inj (here.symm.trans there)
      refine ⟨adds.mem_inFlight_iff.mpr (.inl rfl), fun hash' there' => ?_⟩
      by_contra other
      rw [others other] at there'
      exact absent (h.single none hash' _ there').1
    · rw [others own] at there
      obtain ⟨member, sole⟩ := h.single none hash a there
      refine ⟨adds.mem_inFlight_iff.mpr (.inr member), fun hash' there' => ?_⟩
      by_cases own' : hash' = t.hash
      · subst own'
        obtain rfl : t.sender = a := Option.some.inj (here.symm.trans there')
        exact absurd member absent
      · rw [others own'] at there'
        exact sole hash' there'

theorem Counting.step (h : l.Counting) (hashed : (l.step d).Hashed) : (l.step d).Counting := by
  have moves := l.step_moves d
  generalize l.step d = m at moves hashed
  cases moves with
  | keeps _ _ keeps =>
    constructor
    case filed => rw [keeps.senders, keeps.broadcasts]; exact h.filed
    case once => rw [keeps.inFlight]; exact h.once
    case listed => rw [keeps.inFlight, keeps.senders]; exact h.listed
    case counted => rw [keeps.inFlight, keeps.maxInFlight]; exact h.counted
    case single => rw [keeps.doubleSends, keeps.senders, keeps.inFlight]; exact h.single
  | drops _ _ drops => exact h.drops drops
  | adds _ _ adds => exact h.adds adds hashed

theorem doubleSends_step (l : Ledger) (d : Deed) : (l.step d).doubleSends =
    l.doubleSends + (l.taken? d).toList.countP fun t => t.sender ∈ l.inFlight := by
  have moves := l.step_moves d
  generalize l.step d = m at moves
  cases moves with
  | keeps untaken _ same | drops untaken _ same =>
    rw [same.doubleSends, untaken]
    rfl
  | @adds t taken _ adds =>
    rw [adds.doubleSends, taken]
    by_cases present : t.sender ∈ l.inFlight <;> simp [present]

theorem Counting.maxInFlight_step (h : l.Counting) (d : Deed) :
    (l.step d).maxInFlight = max l.maxInFlight (l.step d).inFlight.length := by
  have moves := l.step_moves d
  generalize l.step d = m at moves
  cases moves with
  | keeps _ _ keeps =>
    rw [keeps.maxInFlight, keeps.inFlight]
    exact (max_eq_left h.counted).symm
  | drops _ _ drops =>
    rw [drops.maxInFlight, drops.inFlight]
    exact (max_eq_left ((List.length_filter_le _ _).trans h.counted)).symm
  | adds _ _ adds => exact adds.maxInFlight

theorem card_le_peak (l : Ledger) (deeds : List Deed) : l.unminedSenders.card ≤ l.peak deeds := by
  cases deeds with
  | nil => exact le_rfl
  | cons d rest => exact le_max_left _ _

theorem doubleSends_le_run (l : Ledger) (deeds : List Deed) :
    l.doubleSends ≤ (l.run deeds).doubleSends := by
  induction deeds generalizing l with
  | nil => exact le_rfl
  | cons d rest ih =>
    refine le_trans ?_ (ih (l.step d))
    rw [doubleSends_step]
    exact Nat.le_add_right _ _

theorem Counting.run_le (h : l.Counting) (hashed : (l.run deeds).Hashed) :
    (l.run deeds).doubleSends ≤ l.doubleSends + l.repeats deeds ∧
      (l.run deeds).maxInFlight ≤ max l.maxInFlight (l.peak deeds) := by
  induction deeds generalizing l with
  | nil => exact ⟨le_rfl, le_max_left _ _⟩
  | cons d rest ih =>
    have hashed' : (l.step d).Hashed := Hashed.start hashed
    obtain ⟨sends, most⟩ := ih (h.step hashed') hashed
    have start : l.Hashed := @Hashed.start l [d] hashed'
    constructor
    · have fewer : ((l.taken? d).toList.countP fun t => t.sender ∈ l.inFlight) ≤
          (l.taken? d).toList.countP fun t => t.sender ∈ l.unminedSenders := by
        refine List.countP_mono_left fun t _ present => ?_
        have there := h.listed t.sender (of_decide_eq_true present)
        exact decide_eq_true ((h.mem_unminedSenders_iff start).mpr there)
      rw [doubleSends_step] at sends
      unfold repeats
      change ((l.step d).run rest).doubleSends ≤ _
      omega
    · have now := ((h.step hashed').length_inFlight_le hashed').trans (card_le_peak _ rest)
      rw [h.maxInFlight_step] at most
      unfold peak
      change ((l.step d).run rest).maxInFlight ≤ _
      omega

theorem Complete.step (h : l.Counting) (complete : l.Complete) (hashed : (l.step d).Hashed)
    (last : ∀ a ∈ l.mined? d, a ∉ (l.step d).unminedSenders) : (l.step d).Complete := by
  have counting := h.step hashed
  have moves := l.step_moves d
  generalize l.step d = m at moves hashed last counting
  intro hash a there
  cases moves with
  | keeps _ _ keeps =>
    rw [keeps.senders] at there
    rw [keeps.inFlight]
    exact complete hash a there
  | @drops _ sender _ mined drops =>
    have other : a ≠ sender := by
      rintro rfl
      exact last a mined ((counting.mem_unminedSenders_iff hashed).mpr ⟨hash, there⟩)
    rw [drops.senders, update_none_eq_some_iff] at there
    rw [drops.inFlight]
    exact List.mem_filter.mpr ⟨complete hash a there.2, by simpa using other⟩
  | @adds t _ _ adds =>
    rw [adds.senders] at there
    refine adds.mem_inFlight_iff.mpr ?_
    by_cases own : hash = t.hash
    · rw [own, update_self] at there
      exact .inl (Option.some.inj there).symm
    · rw [update_of_ne own] at there
      exact .inr (complete hash a there)

/-- Both counts are right while nobody is given a receipt who has another unmined transaction. -/
theorem Counting.run_eq (h : l.Counting) (complete : l.Complete) (hashed : (l.run deeds).Hashed)
    (last : l.MinesLast deeds) :
    (l.run deeds).doubleSends = l.doubleSends + l.repeats deeds ∧
      (l.run deeds).maxInFlight = max l.maxInFlight (l.peak deeds) := by
  induction deeds generalizing l with
  | nil =>
    have counted := h.counted
    rw [h.length_inFlight_eq hashed complete] at counted
    exact ⟨rfl, (max_eq_left counted).symm⟩
  | cons d rest ih =>
    have start : l.Hashed := Hashed.start hashed
    have hashed' : (l.step d).Hashed := Hashed.start hashed
    have counting := h.step hashed'
    have complete' := complete.step h hashed' last.1
    obtain ⟨sends, most⟩ := ih counting complete' hashed last.2
    constructor
    · have same : ((l.taken? d).toList.countP fun t => t.sender ∈ l.inFlight) =
          (l.taken? d).toList.countP fun t => t.sender ∈ l.unminedSenders := by
        refine List.countP_congr fun t _ => ?_
        rw [decide_eq_true_iff, decide_eq_true_iff, h.mem_unminedSenders_iff start]
        exact ⟨h.listed t.sender, fun ⟨hash, there⟩ => complete hash t.sender there⟩
      rw [doubleSends_step] at sends
      unfold repeats
      change ((l.step d).run rest).doubleSends = _
      omega
    · have counted := h.counted
      have now := card_le_peak (l.step d) rest
      rw [h.length_inFlight_eq start complete] at counted
      rw [h.maxInFlight_step, counting.length_inFlight_eq hashed' complete'] at most
      unfold peak
      change ((l.step d).run rest).maxInFlight = _
      omega

/-- While nobody has sent again, nobody who is given a receipt has another unmined transaction. -/
theorem Counting.minesLast (h : l.Counting) (hashed : (l.run deeds).Hashed)
    (none : (l.run deeds).doubleSends = 0) : l.MinesLast deeds := by
  induction deeds generalizing l with
  | nil => exact trivial
  | cons d rest ih =>
    have hashed' : (l.step d).Hashed := Hashed.start hashed
    have counting := h.step hashed'
    refine ⟨fun a mined again => ?_, ih counting hashed none⟩
    have before : l.doubleSends = 0 := Nat.le_zero.mp (none ▸ l.doubleSends_le_run (d :: rest))
    obtain ⟨hash, there⟩ := (counting.mem_unminedSenders_iff hashed').mp again
    have moves := l.step_moves d
    generalize l.step d = m at moves there
    cases moves with
    | keeps _ unmined | adds _ unmined =>
      rw [unmined] at mined
      cases mined
    | @drops hash' sender _ given drops =>
      obtain rfl : sender = a := Option.some.inj (given.symm.trans mined)
      rw [drops.senders, update_none_eq_some_iff] at there
      exact there.1 ((h.single before hash' sender drops.sent).2 hash there.2)

end Counting

/--
Neither count of a chain is too large, and both are right where nobody was given a receipt who had another
unmined transaction, or where no repeated sends were counted; then there were none.
-/
theorem counts_of_run (latency : Nat) {deeds : List Deed}
    (hashed : ((fresh latency).run deeds).Hashed) :
    let start := fresh latency
    let l := start.run deeds
    l.doubleSends ≤ start.repeats deeds ∧ l.maxInFlight ≤ start.peak deeds ∧
      (l.doubleSends = 0 ↔ start.repeats deeds = 0) ∧
      (start.MinesLast deeds ∨ l.doubleSends = 0 →
        l.doubleSends = start.repeats deeds ∧ l.maxInFlight = start.peak deeds) := by
  intro start l
  have counting : start.Counting := counting_fresh latency
  have complete : start.Complete := fun _ _ there => by cases there
  have within : l.doubleSends ≤ 0 + start.repeats deeds ∧ l.maxInFlight ≤ max 0 (start.peak deeds) :=
    counting.run_le hashed
  have right (last : start.MinesLast deeds) :
      l.doubleSends = 0 + start.repeats deeds ∧ l.maxInFlight = max 0 (start.peak deeds) :=
    counting.run_eq complete hashed last
  rw [Nat.zero_add, Nat.zero_max] at within right
  refine ⟨within.1, within.2, ⟨fun none => ?_, fun none => ?_⟩, ?_⟩
  · rw [← (right (counting.minesLast hashed none)).1, none]
  · exact Nat.le_zero.mp (none ▸ within.1)
  · rintro (last | none)
    · exact right last
    · exact right (counting.minesLast hashed none)

/-- One sender sends twice, another once, and only the latter is given its receipt: the counts are right. -/
theorem counts_of_run_two_senders :
    let first : SignedTransfer := ⟨⟨⟨3⟩, 0, 0, transferGas, 1⟩, ⟨1⟩, ⟨1⟩, []⟩
    let second : SignedTransfer := ⟨⟨⟨3⟩, 0, 1, transferGas, 1⟩, ⟨1⟩, ⟨2⟩, []⟩
    let other : SignedTransfer := ⟨⟨⟨3⟩, 0, 0, transferGas, 1⟩, ⟨2⟩, ⟨3⟩, []⟩
    let deeds : List Deed :=
      [.ask (.broadcast first), .ask (.broadcast other), .ask (.broadcast second), .ask (.receipt ⟨3⟩)]
    let start := fresh 0
    let l := start.run deeds
    l.Hashed ∧ start.MinesLast deeds ∧ start.repeats deeds = 1 ∧ start.peak deeds = 2 ∧
      l.doubleSends = 1 ∧ l.maxInFlight = 2 := by
  intro first second other deeds start l
  have hashed : l.Hashed := by decide
  have last : start.MinesLast deeds := by decide
  have repeats : start.repeats deeds = 1 := by decide
  have peak : start.peak deeds = 2 := by decide
  obtain ⟨-, -, -, right⟩ := counts_of_run 0 hashed
  obtain ⟨sends, most⟩ := right (.inl last)
  exact ⟨hashed, last, repeats, peak, sends.trans repeats, most.trans peak⟩

/--
A sender with two unmined transactions is given the receipt of one, after which another sender sends and is
given its receipt, and the first sends again.  Neither the two senders at once nor the last send is counted.
-/
theorem counts_miss_second_transaction :
    let first : SignedTransfer := ⟨⟨⟨3⟩, 0, 0, transferGas, 1⟩, ⟨1⟩, ⟨1⟩, []⟩
    let second : SignedTransfer := ⟨⟨⟨3⟩, 0, 1, transferGas, 1⟩, ⟨1⟩, ⟨2⟩, []⟩
    let third : SignedTransfer := ⟨⟨⟨3⟩, 0, 2, transferGas, 1⟩, ⟨1⟩, ⟨4⟩, []⟩
    let other : SignedTransfer := ⟨⟨⟨3⟩, 0, 0, transferGas, 1⟩, ⟨2⟩, ⟨3⟩, []⟩
    let deeds : List Deed :=
      [.ask (.broadcast first), .ask (.broadcast second), .ask (.receipt ⟨1⟩), .ask (.broadcast other),
        .ask (.receipt ⟨3⟩), .ask (.broadcast third)]
    let start := fresh 0
    let l := start.run deeds
    l.locked = false ∧ l.Hashed ∧ l.doubleSends = 1 ∧ start.repeats deeds = 2 ∧
      l.maxInFlight = 1 ∧ start.peak deeds = 2 := by
  decide

end Ledger

end GasFaucet
