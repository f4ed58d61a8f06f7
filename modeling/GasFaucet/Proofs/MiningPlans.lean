import GasFaucet.Proofs.Answering
import GasFaucet.Proofs.Broadcasts

/-!
# Mining plans

Every transaction that a chain held in memory takes has a plan: the one arranged for its sender by then, else
the one in force for everybody.  The lookups of its receipt play the plan out one after the other, and from
then on they find nothing.  Lookups of other transactions have no influence on that, nor has any plan that is
arranged later.
-/

namespace GasFaucet

def notFound (hash : Digest) : Answer :=
  .mined (.failure (.receiptNotFound hash.text))

/-- What the lookups of a transaction come to, one after the other, until there is nothing left to find. -/
def MiningPlan.script (hash : Digest) : MiningPlan → List Answer
  | success polls => List.replicate polls (notFound hash) ++ [.mined (.value true)]
  | revert polls => List.replicate polls (notFound hash) ++ [.mined (.value false)]
  | nodeError => [.mined (.failure (Ledger.injected "receipt"))]
  | pending => []

/-- The answers to a number of lookups: first those of a script, and nothing is found after them. -/
def playOut (hash : Digest) (script : List Answer) (lookups : Nat) : List Answer :=
  (List.range lookups).map fun k => (script[k]?).getD (notFound hash)

theorem playOut_succ (hash : Digest) (script : List Answer) (lookups : Nat) :
    playOut hash script (lookups + 1) =
      script.headD (notFound hash) :: playOut hash script.tail lookups := by
  unfold playOut
  rw [List.range_succ_eq_map, List.map_cons, List.map_map]
  cases script <;> simp [Function.comp_def]

theorem playOut_nil (hash : Digest) (lookups : Nat) :
    playOut hash [] lookups = List.replicate lookups (notFound hash) := by
  simp [playOut, List.map_const']

namespace Ledger

def Deed.puts (q : Query) : Deed → Bool
  | .ask q' => q' = q
  | .arrange _ => false

def answersTo (l : Ledger) (q : Query) : List Deed → List Answer
  | [] => []
  | d :: rest =>
      (if d.puts q then [(l.answer q).2] else []) ++ (l.step d).answersTo q rest

def lookups (hash : Digest) (deeds : List Deed) : Nat :=
  deeds.countP (·.puts (.receipt hash))

def Deed.planFor? (a : Address) : Deed → Option MiningPlan
  | .arrange (.plan sender plan) => if sender = a then some plan else none
  | _ => none

def Deed.defaultPlan? : Deed → Option MiningPlan
  | .arrange (.defaultPlan plan) => some plan
  | _ => none

/-- The plan that was last arranged for an account's transactions, else the one last arranged for everybody. -/
def planAfter (deeds : List Deed) (a : Address) : MiningPlan :=
  (deeds.reverse.findSome? (·.planFor? a)).getD
    ((deeds.reverse.findSome? Deed.defaultPlan?).getD (.success 0))

def outlook (l : Ledger) (hash : Digest) : List Answer :=
  match l.pending hash with
  | some (_, plan) => plan.script hash
  | none => []

section Runs

variable {l : Ledger} {d : Deed} {hash : Digest} (q : Query) (deeds more : List Deed)

variable (l) in
theorem taken_append : l.taken (deeds ++ more) = l.taken deeds ++ (l.run deeds).taken more := by
  induction deeds generalizing l with
  | nil => rfl
  | cons d rest ih =>
    rw [List.cons_append, taken, taken, ih, List.append_assoc]
    rfl

variable (l) in
theorem answersTo_append :
    l.answersTo q (deeds ++ more) = l.answersTo q deeds ++ (l.run deeds).answersTo q more := by
  induction deeds generalizing l with
  | nil => rfl
  | cons d rest ih =>
    rw [List.cons_append, answersTo, answersTo, ih, List.append_assoc]
    rfl

theorem inRange_append : l.InRange (deeds ++ more) ↔ l.InRange deeds ∧ (l.run deeds).InRange more := by
  induction deeds generalizing l with
  | nil => simp [InRange, run]
  | cons d rest ih =>
    rw [List.cons_append, InRange, InRange, ih, and_assoc]
    rfl

theorem pending_step_of_other (untaken : ∀ t ∈ l.taken? d, t.hash ≠ hash)
    (other : d.puts (.receipt hash) = false) : (l.step d).pending hash = l.pending hash := by
  cases d with
  | arrange arrangement => exact congrFun (l.sameTransfers_arrange arrangement).pending hash
  | ask q =>
    have answers := l.answer_answers q
    have stepped : l.step (.ask q) = (l.answer q).1 := rfl
    rw [stepped]
    generalize replied : (l.answer q).2 = reply at answers
    generalize (l.answer q).1 = m at answers
    cases answers with
    | tells same _ => exact congrFun same.pending hash
    | @postpones looked | @settles looked =>
      have apart : hash ≠ looked := by
        rintro rfl
        simp [Deed.puts] at other
      exact update_of_ne apart
    | @takes t _ _ _ pending =>
      have apart : hash ≠ t.hash := by
        rintro rfl
        exact untaken t (by simp [taken?, replied]) rfl
      rw [pending]
      exact update_of_ne apart
    | locks => rfl

/-- A lookup finds what is first in the outlook, and the rest is still to be found. -/
theorem receiptStatus_outlook (l : Ledger) (hash : Digest) :
    .mined (l.receiptStatus hash).2 = (l.outlook hash).headD (notFound hash) ∧
      (l.receiptStatus hash).1.outlook hash = (l.outlook hash).tail := by
  unfold outlook receiptStatus
  cases there : l.pending hash with
  | none => simp [there, notFound]
  | some entry =>
    obtain ⟨sender, plan⟩ := entry
    cases plan with
    | pending => simp [there, notFound, MiningPlan.script]
    | nodeError => simp [settleReceipt, MiningPlan.script]
    | success polls | revert polls =>
      cases polls with
      | zero => simp [settleReceipt, MiningPlan.script]
      | succ polls => simp [notFound, MiningPlan.script, List.replicate_succ]

theorem outlook_step_of_other (untaken : ∀ t ∈ l.taken? d, t.hash ≠ hash)
    (other : d.puts (.receipt hash) = false) : (l.step d).outlook hash = l.outlook hash := by
  unfold outlook
  rw [pending_step_of_other untaken other]

theorem answer_receipt (running : l.locked = false) (hash : Digest) :
    l.answer (.receipt hash) = ((l.receiptStatus hash).1, .mined (l.receiptStatus hash).2) := by
  simp [answer, running]

/-- Unless a transaction is taken in a run, its lookups play out what there was to find of it before. -/
theorem answersTo_receipt (running : l.locked = false) {deeds : List Deed} (inRange : l.InRange deeds)
    (untaken : ∀ t ∈ l.taken deeds, t.hash ≠ hash) :
    l.answersTo (.receipt hash) deeds = playOut hash (l.outlook hash) (lookups hash deeds) := by
  induction deeds generalizing l with
  | nil => rfl
  | cons d rest ih =>
    have now : ∀ t ∈ l.taken? d, t.hash ≠ hash := by
      intro t taken
      exact untaken t (List.mem_append_left _ (Option.mem_toList.mpr taken))
    have later : ∀ t ∈ (l.step d).taken rest, t.hash ≠ hash := by
      intro t taken
      exact untaken t (List.mem_append_right _ taken)
    unfold answersTo lookups
    rw [ih (running_step running inRange.1) inRange.2 later, List.countP_cons]
    cases looks : d.puts (.receipt hash) with
    | false =>
      rw [outlook_step_of_other now looks]
      rfl
    | true =>
      obtain rfl : d = .ask (.receipt hash) := by
        cases d with
        | arrange _ => cases looks
        | ask q => rw [of_decide_eq_true looks]
      obtain ⟨found, left⟩ := l.receiptStatus_outlook hash
      rw [step, answer_receipt running]
      dsimp only
      rw [left, found, if_pos rfl, if_pos rfl, playOut_succ]
      rfl

theorem outlook_step_of_taken {t : SignedTransfer} (taken : l.taken? d = some t) :
    (l.step d).outlook t.hash = ((l.plans t.sender).getD l.defaultPlan).script t.hash := by
  obtain ⟨t', -, same, -, -, -, takes⟩ | ⟨none, -⟩ := l.step_cases d
  · cases taken.symm.trans same
    unfold outlook
    rw [takes.pending]
  · cases taken.symm.trans none

end Runs

section Plans

variable {l : Ledger} {d : Deed} {deeds : List Deed}

theorem plans_answer (l : Ledger) (q : Query) :
    (l.answer q).1.plans = l.plans ∧ (l.answer q).1.defaultPlan = l.defaultPlan := by
  by_cases broadcast : ∃ t, q = .broadcast t
  · obtain ⟨t, rfl⟩ := broadcast
    cases running : l.locked with
    | true =>
      rw [fst_answer_of_locked running]
      exact ⟨rfl, rfl⟩
    | false =>
      have handles := l.handles_broadcast t
      rw [answer_broadcast running]
      generalize l.broadcast t = outcome at handles
      obtain ⟨m, reply⟩ := outcome
      cases handles with
      | refuses _ | breaks _ _ => exact ⟨rfl, rfl⟩
      | takes _ _ takes => exact ⟨takes.arrangements.2.2.1, takes.arrangements.2.1⟩
  · obtain ⟨_, _, _, frame⟩ := l.answer_frame (q := q) fun t same => broadcast ⟨t, same⟩
    rw [frame]
    exact ⟨rfl, rfl⟩

theorem plans_step (running : l.locked = false) (d : Deed) (a : Address) :
    (l.step d).plans a = (d.planFor? a).or (l.plans a) ∧
      (l.step d).defaultPlan = d.defaultPlan?.getD l.defaultPlan := by
  cases d with
  | ask q =>
    obtain ⟨plans, defaultPlan⟩ := l.plans_answer q
    exact ⟨congrFun plans a, defaultPlan⟩
  | arrange arrangement =>
    have made : l.step (.arrange arrangement) = l.arranged arrangement := by
      simp [step, arrange, running]
    rw [made]
    cases arrangement with
    | plan sender plan =>
      refine ⟨?_, rfl⟩
      by_cases own : sender = a
      · subst own
        simp [arranged, Deed.planFor?]
      · simp [arranged, Deed.planFor?, own, update_of_ne (Ne.symm own)]
    | defaultPlan | balance | nonce | gasPrice | failingBalance | failingBroadcast => exact ⟨rfl, rfl⟩

theorem plans_run (running : l.locked = false) (inRange : l.InRange deeds) (a : Address) :
    (l.run deeds).plans a = (deeds.reverse.findSome? (·.planFor? a)).or (l.plans a) ∧
      (l.run deeds).defaultPlan = (deeds.reverse.findSome? Deed.defaultPlan?).getD l.defaultPlan := by
  induction deeds generalizing l with
  | nil => exact ⟨rfl, rfl⟩
  | cons d rest ih =>
    obtain ⟨plan, defaultPlan⟩ := plans_step running d a
    obtain ⟨plans, defaultPlans⟩ := ih (running_step running inRange.1) inRange.2
    change ((l.step d).run rest).plans a = _ ∧ ((l.step d).run rest).defaultPlan = _
    rw [plans, plan, defaultPlans, defaultPlan, List.reverse_cons, List.findSome?_append,
      List.findSome?_append, Option.or_assoc]
    simp

end Plans

/--
In a run that takes no two transactions of one hash, the lookups of a transaction that is taken find nothing
before that, and then play out the plan that it had when it was taken, whatever else is done.  Those of a
transaction that is never taken find nothing.
-/
theorem run_plays_plans (latency : Nat) {deeds : List Deed} (inRange : (fresh latency).InRange deeds)
    (distinct : (((fresh latency).taken deeds).map (·.hash)).Nodup) :
    let start := fresh latency
    (∀ hash, (∀ t ∈ start.taken deeds, t.hash ≠ hash) →
      start.answersTo (.receipt hash) deeds = List.replicate (lookups hash deeds) (notFound hash)) ∧
    ∀ before t after, deeds = before ++ .ask (.broadcast t) :: after →
      (start.run before).taken? (.ask (.broadcast t)) = some t →
      start.answersTo (.receipt t.hash) deeds =
        List.replicate (lookups t.hash before) (notFound t.hash) ++
          playOut t.hash ((planAfter before t.sender).script t.hash) (lookups t.hash after) := by
  intro start
  have running : start.locked = false := rfl
  have blank (hash : Digest) : start.outlook hash = [] := rfl
  constructor
  · intro hash untaken
    rw [answersTo_receipt running inRange untaken, blank, playOut_nil]
  · rintro before t after rfl taken
    rw [taken_append, Ledger.taken, taken, List.map_append, List.nodup_append] at distinct
    obtain ⟨-, others, apart⟩ := distinct
    obtain ⟨once, -⟩ := List.nodup_cons.mp others
    obtain ⟨early, fits, late⟩ := (inRange_append before _).mp inRange
    have unseen : ∀ t' ∈ start.taken before, t'.hash ≠ t.hash := by
      intro t' member same
      exact apart _ (List.mem_map_of_mem member) t.hash (by simp) same
    have onlyOnce : ∀ t' ∈ ((start.run before).step (.ask (.broadcast t))).taken after,
        t'.hash ≠ t.hash := by
      intro t' member same
      exact once (List.mem_map.mpr ⟨t', member, same⟩)
    obtain ⟨plans, defaultPlan⟩ := plans_run running early t.sender
    rw [answersTo_append, answersTo_receipt running early unseen, blank, playOut_nil, answersTo]
    congr 1
    have works := running_step (early.running running) fits
    rw [answersTo_receipt works late onlyOnce, outlook_step_of_taken taken, plans, defaultPlan]
    simp [Deed.puts, planAfter, start, fresh]

/-- A transfer that is to fail at its second lookup fails then, though its sender's plan is changed meanwhile. -/
theorem run_plays_plans_two_senders :
    let first : SignedTransfer := ⟨⟨⟨3⟩, 0, 0, transferGas, 1⟩, ⟨1⟩, ⟨1⟩, []⟩
    let other : SignedTransfer := ⟨⟨⟨3⟩, 0, 0, transferGas, 1⟩, ⟨2⟩, ⟨2⟩, []⟩
    let before : List Deed := [.ask (.receipt ⟨1⟩), .arrange (.plan ⟨1⟩ (.revert 1))]
    let after : List Deed :=
      [.ask (.receipt ⟨1⟩), .arrange (.plan ⟨1⟩ .pending), .arrange (.defaultPlan .nodeError),
        .ask (.broadcast other), .ask (.receipt ⟨2⟩), .ask (.receipt ⟨1⟩), .ask (.receipt ⟨1⟩)]
    let deeds := before ++ .ask (.broadcast first) :: after
    let start := fresh 0
    start.InRange deeds ∧ ((start.taken deeds).map (·.hash)).Nodup ∧
      (start.run before).taken? (.ask (.broadcast first)) = some first ∧
      start.answersTo (.receipt ⟨1⟩) deeds =
        [notFound ⟨1⟩, notFound ⟨1⟩, .mined (.value false), notFound ⟨1⟩] := by
  intro first other before after deeds start
  have inRange : start.InRange deeds := by decide
  have distinct : ((start.taken deeds).map (·.hash)).Nodup := by decide
  have taken : (start.run before).taken? (.ask (.broadcast first)) = some first := by decide
  obtain ⟨-, plays⟩ := run_plays_plans 0 inRange distinct
  exact ⟨inRange, distinct, taken, plays before first after rfl taken⟩

end Ledger

end GasFaucet
