import GasFaucet.Funding.Round

/-!
# Notices

Nothing that the faucet does depends on what it has noted.  Two desks are alike when they differ in
notices only; whatever a request does on alike desks leaves alike desks and the same progress.
-/

namespace GasFaucet

def Entry.isNotice : Entry → Bool
  | noted _ => true
  | asked .. | answered .. => false

/-- What was asked and answered: the journal without its notices. -/
def spoken (journal : List (Nat × Entry)) : List (Nat × Entry) :=
  journal.filter fun line => !line.2.isNotice

@[simp]
theorem spoken_noted (t : Nat) (n : Notice) (j : List (Nat × Entry)) :
    spoken ((t, .noted n) :: j) = spoken j := rfl

@[simp]
theorem spoken_asked (t : Nat) (who : Actor) (q : Query) (j : List (Nat × Entry)) :
    spoken ((t, .asked who q) :: j) = (t, .asked who q) :: spoken j := rfl

@[simp]
theorem spoken_answered (t : Nat) (who : Actor) (q : Query) (a : Answer) (j : List (Nat × Entry)) :
    spoken ((t, .answered who q a) :: j) = (t, .answered who q a) :: spoken j := rfl

namespace Desk

/-- Two desks that differ in notices only. -/
structure Alike (d e : Desk) : Prop where
  now : d.now = e.now
  pool : d.pool = e.pool
  tally : d.tally = e.tally
  watches : d.watches = e.watches
  stopped : d.stopped = e.stopped
  spoken : spoken d.journal = spoken e.journal

namespace Alike

variable {c d e : Desk}

theorem refl (d : Desk) : d.Alike d :=
  ⟨rfl, rfl, rfl, rfl, rfl, rfl⟩

theorem symm (h : d.Alike e) : e.Alike d :=
  ⟨h.now.symm, h.pool.symm, h.tally.symm, h.watches.symm, h.stopped.symm, h.spoken.symm⟩

theorem trans (h : c.Alike d) (h' : d.Alike e) : c.Alike e :=
  ⟨h.now.trans h'.now, h.pool.trans h'.pool, h.tally.trans h'.tally, h.watches.trans h'.watches,
    h.stopped.trans h'.stopped, h.spoken.trans h'.spoken⟩

theorem note_left (n : Notice) (h : d.Alike e) : (d.note n).Alike e :=
  ⟨h.now, h.pool, h.tally, h.watches, h.stopped, h.spoken⟩

theorem note (n m : Notice) (h : d.Alike e) : (d.note n).Alike (e.note m) :=
  (h.note_left n).trans (note_left m (refl e)).symm

theorem skip (reason : String) (h : d.Alike e) : (d.skip reason).Alike (e.skip reason) :=
  ⟨h.now, h.pool, by simp [Desk.skip, h.tally], h.watches, h.stopped, h.spoken⟩

theorem release (lease : Lease) (h : d.Alike e) : (d.release lease).Alike (e.release lease) :=
  ⟨h.now, by simp [Desk.release, Desk.note, write, h.pool],
    by simp [Desk.release, Desk.note, write, h.tally], h.watches, h.stopped, h.spoken⟩

end Alike

/-- Two outcomes of a turn that differ in notices only. -/
structure SameTurn (x y : Desk × Progress) : Prop where
  desk : x.1.Alike y.1
  progress : x.2 = y.2

namespace SameTurn

theorem refl (x : Desk × Progress) : SameTurn x x :=
  ⟨.refl _, rfl⟩

theorem trans {x y z : Desk × Progress} (h : SameTurn x y) (h' : SameTurn y z) : SameTurn x z :=
  ⟨h.desk.trans h'.desk, h.progress.trans h'.progress⟩

end SameTurn

variable {d e : Desk}

theorem Alike.conclude (p : Policy) (v : Verdict) (h : d.Alike e) :
    SameTurn (d.conclude p v) (e.conclude p v) :=
  ⟨⟨h.now, h.pool, by simp [Desk.conclude, h.tally], h.watches, h.stopped, h.spoken⟩, rfl⟩

theorem Alike.endRound (p : Policy) (since : Nat) (h : d.Alike e) :
    SameTurn (d.endRound p since) (e.endRound p since) := by
  unfold Desk.endRound
  simp only [h.now, h.pool]
  cases p.terms.maxLeaseWait with
  | none => exact ⟨h.note _ _, rfl⟩
  | some limit =>
    dsimp only
    split
    · exact (h.note _ _).conclude p _
    · exact ⟨h.note _ _, rfl⟩

theorem Alike.tryNext (p : Policy) (since : Nat) (tried : List Address) (h : d.Alike e) :
    SameTurn (d.tryNext p since tried) (e.tryNext p since tried) := by
  unfold Desk.tryNext Desk.lease?
  rw [h.pool]
  cases e.pool.lease? fun l => !tried.contains l.signer.address with
  | none => exact h.endRound p since
  | some granted =>
    refine ⟨Alike.note _ _ ⟨h.now, rfl, ?_, h.watches, h.stopped, h.spoken⟩, rfl⟩
    rw [h.tally]

end Desk

end GasFaucet
