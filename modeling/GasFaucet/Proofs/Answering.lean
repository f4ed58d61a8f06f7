import GasFaucet.Ledger

/-!
# Answers of a chain

What a chain held in memory does to its transfers when it answers a query: it leaves them and their counts
alone, puts a receipt off, gives one, takes another transfer, or breaks down.  What is arranged on it leaves
them alone as well.
-/

namespace GasFaucet

namespace Ledger

/-- The sender of a transaction whose receipt has not been given. -/
def senderOf? (l : Ledger) (hash : Digest) : Option Address :=
  (l.pending hash).map (·.1)

/-- Two states of a chain with the same transfers and counts. -/
structure SameTransfers (l m : Ledger) : Prop where
  pending : m.pending = l.pending
  broadcasts : m.broadcasts = l.broadcasts
  inFlight : m.inFlight = l.inFlight
  maxInFlight : m.maxInFlight = l.maxInFlight
  doubleSends : m.doubleSends = l.doubleSends
  locked : m.locked = l.locked

/-- What answering a query does to the transfers of a chain. -/
inductive Answers (l : Ledger) : Query → Ledger → Answer → Prop
  | tells {q m a} : l.SameTransfers m → (∀ hash, a ≠ .digest (.value hash)) →
      (∀ hash, q = .receipt hash → l.locked = false →
        a = .mined (.failure (.receiptNotFound hash.text))) → Answers l q m a
  | postpones {hash sender plan rest} : l.pending hash = some (sender, plan) →
      Answers l (.receipt hash) { l with pending := update l.pending hash (some (sender, rest)) }
        (.mined (.failure (.receiptNotFound hash.text)))
  | settles {hash sender plan reply} : l.pending hash = some (sender, plan) →
      Answers l (.receipt hash) (l.settleReceipt hash sender reply).1 (.mined reply)
  | takes {t m plan} : l.locked = false →
      m.pending = update l.pending t.hash (some (t.sender, plan)) →
      m.broadcasts = l.broadcasts ++ [t] →
      m.inFlight = (if l.inFlight.contains t.sender then l.inFlight else t.sender :: l.inFlight) →
      m.maxInFlight = max l.maxInFlight m.inFlight.length →
      m.doubleSends = l.doubleSends + (l.inFlight.contains t.sender).toNat →
      Answers l (.broadcast t) m (.digest (.value t.hash))
  | locks {t} : Answers l (.broadcast t) { l with locked := true } (.digest (.crash overflowMessage))

variable (l : Ledger)

theorem SameTransfers.refl : l.SameTransfers l :=
  ⟨rfl, rfl, rfl, rfl, rfl, rfl⟩

theorem sameTransfers_arrange (arrangement : Arrangement) :
    l.SameTransfers (l.arrange arrangement).1 := by
  unfold arrange
  split
  · exact .refl l
  · cases arrangement <;> exact ⟨rfl, rfl, rfl, rfl, rfl, rfl⟩

theorem broadcast_answers (running : l.locked = false) (t : SignedTransfer) :
    l.Answers (.broadcast t) (l.broadcast t).1 (.digest (l.broadcast t).2) := by
  unfold broadcast
  cases l.refusal? t with
  | some f =>
    refine .tells (.refl l) (fun hash => ?_) fun hash impossible => ?_
    · simp
    · cases impossible
  | none =>
    cases t.nonce.add? 1 with
    | none => exact .locks
    | some next =>
      cases moveValue? l.balances t with
      | none => exact .locks
      | some balances => exact .takes running rfl rfl rfl rfl rfl

theorem receiptStatus_answers (hash : Digest) :
    l.Answers (.receipt hash) (l.receiptStatus hash).1 (.mined (l.receiptStatus hash).2) := by
  have silent : l.Answers (.receipt hash) l (.mined (.failure (.receiptNotFound hash.text))) := by
    refine .tells (.refl l) (fun _ => Answer.noConfusion) fun other same _ => ?_
    cases same
    rfl
  unfold receiptStatus
  cases found : l.pending hash with
  | none => exact silent
  | some entry =>
    obtain ⟨sender, plan⟩ := entry
    cases plan with
    | pending => exact silent
    | nodeError => exact .settles found
    | success polls | revert polls =>
      cases polls with
      | zero => exact .settles found
      | succ polls => exact .postpones found

/-- Every answer of the chain is of one of these sorts. -/
theorem answer_answers (q : Query) : l.Answers q (l.answer q).1 (l.answer q).2 := by
  unfold answer
  split
  · rename_i refused
    simp only [Bool.and_eq_true] at refused
    refine .tells (.refl l) (fun hash => ?_) fun hash _ running => ?_
    · cases q <;> simp [Query.crashed]
    · rw [refused.1] at running
      cases running
  · rename_i heard
    cases q with
    | balance a =>
      dsimp only [balanceOf]
      have told (reply : Reply Word) : l.Answers (.balance a)
          { l with balanceQueries := l.balanceQueries ++ [a] } (.number reply) :=
        .tells ⟨rfl, rfl, rfl, rfl, rfl, rfl⟩ (fun _ => Answer.noConfusion)
          fun _ impossible => by cases impossible
      split <;> exact told _
    | gasPrice | nonce _ =>
      exact .tells (.refl l) (fun _ => Answer.noConfusion) fun _ impossible => by cases impossible
    | broadcast t =>
      have running : l.locked = false := by simpa using heard
      exact l.broadcast_answers running t
    | receipt hash => exact l.receiptStatus_answers hash

end Ledger

end GasFaucet
