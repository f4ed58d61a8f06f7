import GasFaucet.Proofs.Exclusivity

/-!
# Rounds

What a round does when it looks for a signer.  It leases one that is free and that the round has not
leased before, or it ends because every signer is on lease or has had its turn.  The lease of a request
is always among those that its round has taken, and what it offers to the node is what it was asked for.
-/

namespace GasFaucet

namespace Terms

/-- What a request does after a round without a signer. -/
inductive Retires (t : Terms) (now since : Nat) : Progress → Prop
  | rests : t.maxLeaseWait = none → Retires t now since (.resting since (now + t.retryInterval))
  | restsWithin {limit} : t.maxLeaseWait = some limit → now - since < limit →
      Retires t now since (.resting since (now + min t.retryInterval (limit - (now - since))))
  | exhausts {limit} : t.maxLeaseWait = some limit → limit ≤ now - since →
      Retires t now since (.ended (.failed (.noSignerAvailable ((now - since) / 1000))))

variable {t : Terms} {now since : Nat} {progress : Progress}

theorem Retires.rests_or_exhausts (retires : t.Retires now since progress) :
    (∃ wakeAt, progress = .resting since wakeAt) ∨
      progress = .ended (.failed (.noSignerAvailable ((now - since) / 1000))) ∧
        ∃ limit, t.maxLeaseWait = some limit ∧ limit ≤ now - since := by
  cases retires with
  | rests _ | restsWithin _ _ => exact .inl ⟨_, rfl⟩
  | exhausts limited reached => exact .inr ⟨rfl, _, limited, reached⟩

end Terms

namespace Desk

/-- What comes of looking for a signer that is free and not among those tried. -/
inductive Seeks (d : Desk) (since : Nat) (tried : List Address) : Desk × Progress → Prop
  | leases {lease e} : d.pool.signerAt? lease.index = some lease.signer →
      d.pool.isLeased lease.index = false → lease.signer.address ∉ tried →
      e.pool = { d.pool.setLeased lease.index true with totalLeases := d.pool.totalLeases + 1 } →
      Seeks d since tried (e, .trying since (lease.signer.address :: tried) lease .balance)
  | rests {e wakeAt} : e.pool = d.pool →
      (∀ index signer, d.pool.signerAt? index = some signer → signer.address ∉ tried →
        d.pool.isLeased index = true) →
      Seeks d since tried (e, .resting since wakeAt)
  | exhausts {e secs} : e.pool = d.pool →
      (∀ index signer, d.pool.signerAt? index = some signer → signer.address ∉ tried →
        d.pool.isLeased index = true) →
      Seeks d since tried (e, .ended (.failed (.noSignerAvailable secs)))

variable {d : Desk} {p : Policy} {number : Nat} {r : Request} {e : Event} {progress : Progress}
variable {out : Desk × Progress}

theorem endRound_retires (d : Desk) (p : Policy) (since : Nat) :
    p.terms.Retires d.now since (d.endRound p since).2 := by
  unfold endRound
  cases limited : p.terms.maxLeaseWait with
  | none => exact .rests limited
  | some limit =>
    dsimp only
    split
    · rename_i reached
      exact .exhausts limited reached
    · rename_i within
      exact .restsWithin limited (Nat.lt_of_not_le within)

theorem endRound_pool (d : Desk) (p : Policy) (since : Nat) : (d.endRound p since).1.pool = d.pool := by
  unfold endRound
  cases p.terms.maxLeaseWait with
  | none => rfl
  | some limit =>
    dsimp only
    split <;> rfl

theorem tryNext_seeks (d : Desk) (p : Policy) (since : Nat) (tried : List Address) :
    d.Seeks since tried (d.tryNext p since tried) := by
  unfold tryNext Desk.lease?
  cases found : d.pool.lease? fun l => !tried.contains l.signer.address with
  | some granted =>
    obtain ⟨lease, pool⟩ := granted
    obtain ⟨known, free, untried, rfl⟩ := Pool.lease?_eq_some found
    exact .leases known free (by simpa using untried) rfl
  | none =>
    have nobody : ∀ index signer, d.pool.signerAt? index = some signer → signer.address ∉ tried →
        d.pool.isLeased index = true := by
      intro index signer known untried
      exact Pool.lease?_eq_none found known (by simpa using untried)
    have pool := d.endRound_pool p since
    have retires := d.endRound_retires p since
    dsimp only
    generalize d.endRound p since = out at pool retires
    obtain ⟨e, progress⟩ := out
    rcases retires.rests_or_exhausts with ⟨wakeAt, rfl⟩ | ⟨rfl, -⟩
    · exact .rests pool nobody
    · exact .exhausts pool nobody

theorem beginRound_seeks (d : Desk) (p : Policy) (since : Nat) :
    (d.beginRound p since).2 = .ended (.failed .shuttingDown) ∨
      d.Seeks since [] (d.beginRound p since) := by
  unfold beginRound
  split
  · exact .inl rfl
  · exact .inr (d.tryNext_seeks p since [])

theorem Seeks.failed {since : Nat} {tried : List Address} (h : d.Seeks since tried out) {f : Failure}
    (after : out.2 = .ended (.failed f)) : ∃ secs, f = .noSignerAvailable secs := by
  cases h with
  | leases _ _ _ _ => cases after
  | rests _ _ => cases after
  | exhausts _ _ =>
    cases after
    exact ⟨_, rfl⟩

/-- A lease that was just taken: of a signer that was free and new to the round. -/
theorem Seeks.leased {start since : Nat} {before tried : List Address} {lease : Lease} {stage : Stage}
    (h : d.Seeks start before out) (after : out.2 = .trying since tried lease stage) :
    stage = .balance ∧ tried = lease.signer.address :: before ∧ lease.signer.address ∉ before ∧
      d.pool.signerAt? lease.index = some lease.signer ∧ d.pool.isLeased lease.index = false := by
  cases h with
  | leases known free untried _ =>
    cases after
    exact ⟨rfl, rfl, untried, known, free⟩
  | rests _ _ | exhausts _ _ => cases after

def vacated (d : Desk) (progress : Progress) : Pool :=
  match progress.lease? with
  | some held => d.pool.release held
  | none => d.pool

/-- The lease that a request holds after it has strode on with a new one was free by then. -/
theorem Strides.takes {since : Nat} {tried : List Address} {lease : Lease}
    (s : d.Strides p number r e progress out) (after : out.2 = .trying since tried lease .balance) :
    ∃ before, tried = lease.signer.address :: before ∧ lease.signer.address ∉ before ∧
      (d.vacated progress).signerAt? lease.index = some lease.signer ∧
      (d.vacated progress).isLeased lease.index = false ∧
      ∀ since' tried' held stage, progress = .trying since' tried' held stage → tried' = before := by
  cases s with
  | passes reply =>
    cases reply with
    | crash m | failure f => cases after
    | value balance =>
      unfold passGate at after
      dsimp only at after
      split at after
      · cases after
      · rcases beginRound_seeks (d.write _) p d.now with stops | seeks
        · cases stops.symm.trans after
        · obtain ⟨-, rfl, untried, known, free⟩ := seeks.leased after
          exact ⟨[], rfl, untried, known, free, by intro _ _ _ _ impossible; cases impossible⟩
  | @wakes start _ due =>
    rcases d.beginRound_seeks p start with stops | seeks
    · cases stops.symm.trans after
    · obtain ⟨-, rfl, untried, known, free⟩ := seeks.leased after
      exact ⟨[], rfl, untried, known, free, by intro _ _ _ _ impossible; cases impossible⟩
  | drops ongoing =>
    rw [d.cancel_progress ongoing] at after
    cases after
  | @turns since' tried' lease' before q a turnout _ asking admitted decided same =>
    have turned := same.progress
    rw [after] at turned
    cases turnout with
    | goesOn next =>
      cases turned
      exact absurd rfl (Stage.advances_of_goesOn decided).ne_balance
    | passedOver reason =>
      obtain ⟨-, rfl, untried, known, free⟩ := (tryNext_seeks _ p since' tried').leased turned.symm
      refine ⟨tried', rfl, untried, known, free, ?_⟩
      rintro _ _ _ _ same'
      cases same'
      rfl
    | fails f | breaks m | sent t hash => cases turned

theorem Strides.turned {since : Nat} {tried : List Address} {lease : Lease} {stage : Stage} {a : Answer}
    {turnout : Turnout}
    (s : d.Strides p number r (.answerRequest number a) (.trying since tried lease stage) out)
    (decided : stage.turnout? p r lease.signer (d.pool.floor lease.index) a = some turnout) :
    ∃ q, SameTurn out
      ((d.write (.answered (.request number) q a)).enact p since tried lease turnout) := by
  cases s with
  | @turns _ _ _ _ q _ turnout' _ asking admitted decided' same =>
    obtain rfl := Option.some.inj (decided.symm.trans decided')
    exact ⟨q, same⟩

end Desk

namespace Faucet

def Marked (f : Faucet) : Prop :=
  ∀ (number : Nat) r since tried lease stage,
    f.requests[number]? = some (r, .trying since tried lease stage) → lease.signer.address ∈ tried

/-- Every transfer that waits to be taken pays what its request asks for, from the leased signer. -/
def Offered (f : Faucet) (p : Policy) : Prop :=
  ∀ (number : Nat) r since tried lease t,
    f.requests[number]? = some (r, .trying since tried lease (.broadcast t)) →
    SignedTransfer.Pays t p r lease.signer

variable {p : Policy} {f g : Faucet} {e : Event}

theorem Offered.change (h : f.Offered p) (c : Change p f e g) : g.Offered p := by
  intro number r since tried lease t found
  obtain stays | impossible | ⟨before, out, -, s, after⟩ := c.request found
  · exact h number r since tried lease t stays
  · cases impossible
  · exact (s.offers after.symm).1

theorem Marked.change (h : f.Marked) (c : Change p f e g) : g.Marked := by
  intro number r since tried lease stage found
  obtain stays | begins | ⟨before, out, known, s, after⟩ := c.request found
  · exact h number r since tried lease stage stays
  · cases begins
  · obtain rfl | ⟨earlier, a, rfl, -, -⟩ := s.trying after.symm
    · obtain ⟨rest, rfl, -⟩ := s.takes after.symm
      exact List.mem_cons_self
    · exact h number r since tried lease earlier known

theorem Marked.run (h : f.Marked) (p : Policy) (events : List Event) : (f.run p events).Marked :=
  run_induction p f h (fun marked c => marked.change c) events

theorem Offered.run (h : f.Offered p) (events : List Event) : (f.run p events).Offered p :=
  run_induction (P := fun f => f.Offered p) p f h (fun offered c => offered.change c) events

/-- Nobody has asked for anything yet, and the pool is lent to nobody. -/
structure Initial (f : Faucet) : Prop where
  lends : f.Lends
  idle : f.requests = []
  unwatched : f.desk.watches = []

theorem initial_fresh (signers : List Signer) : (fresh (.ofSigners signers)).Initial :=
  ⟨lends_fresh signers, rfl, rfl⟩

theorem Initial.marked (h : f.Initial) : f.Marked := by
  intro number r since tried lease stage found
  rw [h.idle] at found
  cases found

theorem Initial.offered (h : f.Initial) (p : Policy) : f.Offered p := by
  intro number r since tried lease t found
  rw [h.idle] at found
  cases found

theorem Lends.free_of_takes (h : f.Lends) (marked : f.Marked) {number : Nat} {r : Request}
    {progress : Progress} {out : Desk × Progress} (found : f.requests[number]? = some (r, progress))
    (s : f.desk.Strides p number r e progress out) {since : Nat} {tried : List Address} {lease : Lease}
    (after : out.2 = .trying since tried lease .balance) :
    f.desk.pool.signerAt? lease.index = some lease.signer ∧
      f.desk.pool.isLeased lease.index = false := by
  obtain ⟨before, -, untried, known, free, same⟩ := s.takes after
  unfold Desk.vacated at known free
  cases progress with
  | trying since' tried' held stage =>
    obtain rfl := same since' tried' held stage rfl
    have holds := h.lent.known (holds_iff.mp (.request found))
    have known' : f.desk.pool.signerAt? lease.index = some lease.signer :=
      (f.desk.pool.signerAt?_setLeased held.index lease.index false).symm.trans known
    refine ⟨known', ?_⟩
    -- What it gives back is not what it takes: the round has tried that signer.
    have apart : held.index ≠ lease.index := by
      intro place
      rw [place, known'] at holds
      have marks := marked number r since' tried' held stage found
      rw [← Option.some.inj holds] at marks
      exact untried marks
    have released := Pool.isLeased_setLeased holds false lease.index
    rw [if_neg apart] at released
    exact released.symm.trans free
  | gate | resting _ _ | ended _ | crashed _ _ | cancelled => exact ⟨known, free⟩

end Faucet

end GasFaucet
