import GasFaucet.Proofs.Courses

/-!
# Standings

What every request has made of the leases that it took.  For most leases a skip or a transfer stands; the
others are on hold, or their request failed over them, broke down with them or dropped them.  Which of these
it is can be read off how far the request has come and what it asked and was answered.
-/

namespace GasFaucet

/-- The failure of a leased signer's call that ends its request: no other signer is tried after it. -/
def grave? : Query × Answer → Option Failure
  | (.nonce _, .number (.failure f)) | (.broadcast _, .digest (.failure f)) =>
      if f.skipsSigner then none else some f
  | _ => none

/-- A request as it stands: how far it has come, what it asked and what it was answered. -/
structure Standing where
  progress : Progress
  asked : List Query
  answered : List (Query × Answer)

/-- What a request has made of a lease for which neither a skip nor a transfer stands. -/
inductive Charge
  | holding
  | spoiled
  | broken
  | dropped
  deriving DecidableEq

namespace Standing

def grave? (s : Standing) : Option Failure :=
  s.answered.getLast?.bind GasFaucet.grave?

/-- Whether the last question is a leased signer's and has not been answered. -/
def awaits (s : Standing) : Bool :=
  0 < s.answered.length && s.answered.length < s.asked.length

/--
What the request has made of its last lease.  It spoils a lease by failing over the answer to a leased
signer's call, and it drops one when its caller gives up while such a call is not answered.
-/
def charge? (s : Standing) : Option Charge :=
  match s.progress with
  | .trying .. => some .holding
  | .ended (.failed f) => if s.grave? = some f then some .spoiled else none
  | .crashed _ (some _) => some .broken
  | .cancelled => if s.awaits then some .dropped else none
  | _ => none

/-- How many leases the request answers for: none or one. -/
def weight (s : Standing) : Nat :=
  s.charge?.isSome.toNat

/-- The request as it stands once it was told something and got to some progress. -/
def next (s : Standing) (r : Request) (told : List (Query × Answer)) (progress : Progress) : Standing where
  progress := progress
  asked := s.asked ++ (progress.query? r).toList
  answered := s.answered ++ told

section Next

variable (s : Standing) (r : Request) (progress : Progress)

@[simp]
theorem grave?_next_nil : (s.next r [] progress).grave? = s.grave? := by
  simp [next, grave?]

@[simp]
theorem grave?_next_singleton (line : Query × Answer) :
    (s.next r [line] progress).grave? = GasFaucet.grave? line := by
  simp [next, grave?]

end Next

end Standing

/-- Whoever sets one element of a list changes a count only by what that element counts. -/
theorem countP_set {α : Type} (counts : α → Bool) {l : List α} {i : Nat} {a : α}
    (found : l[i]? = some a) :
    ∃ rest, l.countP counts = rest + (counts a).toNat ∧
      ∀ b, (l.set i b).countP counts = rest + (counts b).toNat := by
  have counted : (counts a).toNat ≤ l.countP counts := by
    cases here : counts a with
    | false => exact Nat.zero_le _
    | true => exact List.countP_pos_iff.mpr ⟨a, List.mem_of_getElem? found, here⟩
  refine ⟨l.countP counts - (counts a).toNat, by omega, ?_⟩
  intro b
  have changed := Pool.countP_modify counts (fun _ => b) found
  rw [List.set_eq_modify]
  omega

section Attempts

variable {p : Policy} {r : Request} {since : Nat} {tried : List Address} {lease : Lease} {stage : Stage}
variable {q : Query} {a : Answer} {turnout : Turnout} {floor : NonceFloor}

def skipReasons : List String :=
  ["insufficient_balance", "balance_error", "broadcast_error"]

theorem Stage.reason_of_passedOver {signer : Signer} {reason : String}
    (decided : stage.turnout? p r signer floor a = some (.passedOver reason)) :
    reason ∈ skipReasons := by
  cases Stage.decides decided <;> decide

theorem grave?_iff_fails (asking : (Progress.trying since tried lease stage).query? r = some q)
    (decided : stage.turnout? p r lease.signer floor a = some turnout) (f : Failure) :
    grave? (q, a) = some f ↔ turnout = .fails f := by
  cases Stage.decides decided with
  | failsAtNonce grave | failsAtBroadcast grave =>
    cases asking
    simp [grave?, grave]
  | numberless skips | refused skips =>
    cases asking
    simp [grave?, skips]
  | advances further =>
    cases further <;> cases asking <;> simp [grave?]
  | unknown | poor _ | unsigned _ _ | collapsesAtBroadcast | overflows _ | taken =>
    cases asking
    simp [grave?]
  | collapses _ =>
    cases stage <;> cases asking <;> simp [grave?]

end Attempts

/-- A request that was told of nothing grave answers for the lease that it holds, if any. -/
theorem Standing.weight_of_mild {s : Standing} (mild : s.grave? = none) (kept : s.progress ≠ .cancelled)
    (whole : ∀ m lease, s.progress ≠ .crashed m (some lease)) :
    s.weight = s.progress.lease?.isSome.toNat := by
  obtain ⟨progress, asked, answered⟩ := s
  cases progress with
  | gate | trying _ _ _ _ | resting _ _ => rfl
  | cancelled => exact absurd rfl kept
  | crashed m held =>
    cases held with
    | none => rfl
    | some lease => exact absurd rfl (whole m lease)
  | ended v =>
    cases v with
    | alreadyFunded _ | inFlight _ => rfl
    | failed f => simp [Standing.weight, Standing.charge?, mild, Progress.lease?]

theorem Standing.weight_of_cancelled {s : Standing} (cancelled : s.progress = .cancelled) :
    s.weight = s.awaits.toNat := by
  unfold weight charge?
  rw [cancelled]
  cases s.awaits <;> rfl

theorem Standing.cancelled_of_dropped {s : Standing} (dropped : s.charge? = some .dropped) :
    s.progress = .cancelled := by
  unfold charge? at dropped
  split at dropped
  · cases dropped
  · split at dropped <;> cases dropped
  · cases dropped
  · assumption
  · cases dropped

def History.standing (h : History) (progress : Progress) : Standing :=
  ⟨progress, h.asked, h.answered⟩

namespace Record

variable {p : Policy} {r : Request} {progress : Progress} {h : History} {watches : List Watch}

/-- A request waits for a leased signer's answer exactly while it holds a lease. -/
theorem awaits (record : Record p r progress h watches) (ongoing : progress.isOver = false)
    (next : Progress) : (h.standing next).awaits = progress.lease?.isSome := by
  have uncancelled : progress ≠ .cancelled := by
    rintro rfl
    cases ongoing
  have dialogue := congrArg List.length (record.dialogue uncancelled)
  have answered (begun : progress ≠ .gate) : 0 < h.answered.length := by
    apply List.length_pos_iff.mpr
    intro silent
    exact (record.opened silent).elim begun uncancelled
  rw [List.length_append, List.length_map] at dialogue
  unfold Standing.awaits History.standing
  cases progress with
  | gate =>
    rw [(record.fresh rfl).1]
    rfl
  | trying since tried lease stage =>
    have := answered Progress.noConfusion
    have asking : ((Progress.trying since tried lease stage).query? r).toList.length = 1 := by
      cases stage <;> rfl
    rw [asking] at dialogue
    simp [dialogue, this, Progress.lease?]
  | resting since wakeAt =>
    simp [dialogue, Progress.query?, Progress.lease?]
  | ended _ | crashed _ _ | cancelled => cases ongoing

/-- A caller that gives up drops the lease that the request answered for. -/
theorem weight_of_drop (record : Record p r progress h watches) (ongoing : progress.isOver = false)
    (mild : (h.standing progress).grave? = none) :
    ((h.standing progress).next r [] .cancelled).weight = (h.standing progress).weight := by
  have awaits := record.awaits ongoing .cancelled
  have before : (h.standing progress).weight = progress.lease?.isSome.toNat := by
    apply Standing.weight_of_mild mild
    · rintro rfl
      cases ongoing
    · rintro m lease rfl
      cases ongoing
  have after : (h.standing progress).next r [] .cancelled = h.standing .cancelled := by
    simp [Standing.next, History.standing, Progress.query?]
  rw [before, after, Standing.weight_of_cancelled rfl, awaits]

end Record

namespace Desk

variable {p : Policy} {d : Desk} {number : Nat} {r : Request} {e : Event} {progress : Progress}
variable {out : Desk × Progress}

theorem weight_of_sought {s : Standing} {since : Nat} (sought : s.progress.Sought since)
    (mild : s.grave? = none) : s.weight = s.progress.lease?.isSome.toNat := by
  apply Standing.weight_of_mild mild
  · intro impossible
    rw [impossible] at sought
    cases sought
  · intro m lease impossible
    rw [impossible] at sought
    cases sought

theorem weight_of_passGate {s : Standing} {reply : Reply Word}
    (after : s.progress = (d.passGate p r reply).2) (mild : s.grave? = none) :
    s.weight = s.progress.lease?.isSome.toNat := by
  unfold Desk.passGate at after
  cases reply with
  | crash m | failure f =>
    apply Standing.weight_of_mild mild <;> simp [after, conclude]
  | value balance =>
    dsimp only at after
    split at after
    · apply Standing.weight_of_mild mild <;> simp [after, conclude]
    · have sought := d.beginRound_sought p d.now
      rw [← after] at sought
      exact weight_of_sought sought mild

/-- A request that goes on has not been told of a failure that would end it. -/
theorem Strides.mild {s : Standing} (strides : d.Strides p number r e progress out)
    (before : s.grave? = none) (ongoing : out.2.isOver = false) :
    (s.next r (e.told r progress) out.2).grave? = none := by
  cases strides with
  | passes reply => exact s.grave?_next_singleton r _ _
  | @wakes since wakeAt due => exact (s.grave?_next_nil r _).trans before
  | drops dropped =>
    rw [d.cancel_progress dropped] at ongoing
    cases ongoing
  | @turns since tried lease stage q a turnout _ asking admitted decided same =>
    have told : Event.told r (.trying since tried lease stage) (.answerRequest number a) = [(q, a)] := by
      simp [Event.told, asking]
    rw [told, Standing.grave?_next_singleton]
    apply Option.eq_none_iff_forall_ne_some.mpr
    intro f grave
    obtain rfl := (grave?_iff_fails asking decided f).mp grave
    rw [same.progress] at ongoing
    cases ongoing

end Desk

namespace Faucet

def standing (f : Faucet) (number : Nat) (progress : Progress) : Standing where
  progress := progress
  asked := asks f.desk.journal (.request number)
  answered := answers f.desk.journal (.request number)

/-- All requests as they stand, in the order in which they came in. -/
def standings (f : Faucet) : List Standing :=
  f.requests.zipIdx.map fun ((_, progress), number) => f.standing number progress

def charged (f : Faucet) (c : Charge) : Nat :=
  f.standings.countP (·.charge? = some c)

variable {p : Policy} {f g : Faucet} {e : Event} {number : Nat}

@[simp]
theorem length_standings (f : Faucet) : f.standings.length = f.requests.length := by
  simp [standings]

theorem getElem?_standings (f : Faucet) (number : Nat) :
    f.standings[number]? = f.requests[number]?.map fun (_, progress) => f.standing number progress := by
  unfold standings
  rw [List.getElem?_map, List.getElem?_zipIdx, Option.map_map, Nat.zero_add]
  rfl

theorem standings_congr (requests : g.requests = f.requests)
    (dialogue : ∀ number progress, g.standing number progress = f.standing number progress) :
    g.standings = f.standings := by
  apply List.ext_getElem?
  intro number
  rw [getElem?_standings, getElem?_standings, requests]
  simp only [dialogue]

section Standing

variable {r : Request} {progress : Progress} {out : Desk × Progress}

theorem Apart.standing (left : f.Apart g) (number : Nat) (progress : Progress) :
    g.standing number progress = f.standing number progress := by
  unfold Faucet.standing
  rw [left.asks fun _ _ => Actor.noConfusion, left.answers fun _ _ => Actor.noConfusion]

theorem Change.standing_others (c : Change p f e g) (other : f.mover? e ≠ some number)
    (progress : Progress) : g.standing number progress = f.standing number progress := by
  obtain ⟨-, asked, answered⟩ := c.others other
  unfold standing
  rw [asked, answered]

theorem Change.standings_others (c : Change p f e g) (other : f.mover? e ≠ some number) :
    g.standings[number]? = f.standings[number]? := by
  obtain ⟨request, -, -⟩ := c.others other
  rw [getElem?_standings, getElem?_standings, request]
  simp only [c.standing_others other]

theorem standings_accept (p : Policy) (f : Faucet) (r : Request) :
    (f.accept r).standings = f.standings ++ [(f.accept r).standing f.requests.length .gate] := by
  apply List.ext_getElem?
  intro number
  by_cases last : number = f.standings.length
  · have here : (f.accept r).requests[f.requests.length]? = some (r, .gate) := by simp [accept_eq]
    rw [last, List.getElem?_concat_length, length_standings, getElem?_standings, here]
    rfl
  · rw [getElem?_append_singleton_of_ne last]
    apply (Change.accepts r : Change p f _ _).standings_others
    intro same
    rw [length_standings] at last
    exact last (Option.some.inj same).symm

theorem standing_put (s : f.desk.Strides p number r e progress out) :
    (f.put number r out).standing number out.2 =
      (f.standing number progress).next r (e.told r progress) out.2 := by
  unfold standing put Standing.next
  dsimp only
  rw [Desk.asks_inquire_self, Desk.answers_inquire, s.asks, s.answers_self]

theorem standings_put (found : f.requests[number]? = some (r, progress))
    (s : f.desk.Strides p number r e progress out) :
    (f.put number r out).standings =
      f.standings.set number ((f.standing number progress).next r (e.told r progress) out.2) := by
  obtain ⟨there, -⟩ := List.getElem?_eq_some_iff.mp found
  apply List.ext_getElem?
  intro k
  by_cases same : k = number
  · subst same
    rw [List.getElem?_set_self (by simpa using there), getElem?_standings, getElem?_put_self found,
      ← standing_put s]
    rfl
  · rw [List.getElem?_set_ne (Ne.symm same)]
    apply (Change.strides found s).standings_others
    rw [mover?_of_strides s]
    exact fun moved => same (Option.some.inj moved).symm

theorem standing_of_tends {w : Watch} {d : Desk} (t : f.desk.Tends p number w e d) (k : Nat)
    (progress : Progress) : ({ f with desk := d } : Faucet).standing k progress = f.standing k progress := by
  obtain ⟨asked, answered⟩ := t.dialogue (Actor.noConfusion : Actor.watch _ ≠ .request k)
  unfold standing
  rw [asked, answered]

theorem standings_of_tends {w : Watch} {d : Desk} (t : f.desk.Tends p number w e d) :
    ({ f with desk := d } : Faucet).standings = f.standings :=
  standings_congr rfl (standing_of_tends t)

end Standing

end Faucet

def Event.cancels : Event → Bool
  | .cancelRequest _ => true
  | _ => false

namespace Faucet

variable {p : Policy} {f g : Faucet} {e : Event}

theorem dropped_step (p : Policy) (f : Faucet) (e : Event) :
    (f.step p e).charged .dropped ≤ f.charged .dropped + e.cancels.toNat := by
  have changed := f.change_step p e
  generalize f.step p e = g at changed
  unfold charged
  cases changed with
  | apart left =>
    rw [standings_congr left.requests left.standing]
    exact Nat.le_add_right _ _
  | accepts r =>
    rw [standings_accept p f r, List.countP_append]
    simp [standing, Standing.charge?]
  | @strides number r progress _ out found s =>
    have standing : f.standings[number]? = some (f.standing number progress) := by
      rw [getElem?_standings, found]
      rfl
    obtain ⟨rest, before, after⟩ := countP_set (·.charge? = some .dropped) standing
    have undropped : (f.standing number progress).charge? ≠ some .dropped := by
      intro impossible
      have ongoing := s.ongoing
      obtain rfl : progress = .cancelled := Standing.cancelled_of_dropped impossible
      cases ongoing
    have caused (drops : ((f.standing number progress).next r (e.told r progress) out.2).charge? =
        some .dropped) : e.cancels = true := by
      have leads := s.leads
      rw [show out.2 = .cancelled from Standing.cancelled_of_dropped drops] at leads
      rw [leads.event_of_cancelled]
      rfl
    rw [standings_put found s, before, after, decide_eq_false undropped]
    cases cancels : e.cancels with
    | true =>
      have := Bool.toNat_le (decide
        (((f.standing number progress).next r (e.told r progress) out.2).charge? = some .dropped))
      simp only [Bool.toNat_false, Bool.toNat_true]
      omega
    | false =>
      rw [cancels] at caused
      rw [decide_eq_false fun drops => Bool.noConfusion (caused drops)]
      simp
  | tends found t =>
    rw [standings_of_tends t]
    exact Nat.le_add_right _ _

theorem dropped_run (p : Policy) (f : Faucet) (events : List Event) :
    (f.run p events).charged .dropped ≤ f.charged .dropped + events.countP (·.cancels) := by
  induction events generalizing f with
  | nil => exact Nat.le_refl _
  | cons e rest ih =>
    have step := f.dropped_step p e
    have later := ih (f.step p e)
    rw [run_cons, List.countP_cons]
    cases cancels : e.cancels with
    | true =>
      simp only [cancels, Bool.toNat_true, if_true] at step ⊢
      omega
    | false =>
      simp only [cancels, Bool.toNat_false, Bool.false_eq_true, if_false] at step ⊢
      omega

theorem countP_charge (l : List Standing) : l.countP (·.charge?.isSome) =
    l.countP (·.charge? = some .spoiled) + l.countP (·.charge? = some .broken) +
      l.countP (·.charge? = some .dropped) + l.countP (·.charge? = some .holding) := by
  induction l with
  | nil => rfl
  | cons s rest ih =>
    simp only [List.countP_cons, ih]
    cases s.charge? with
    | none => simp
    | some c => cases c <;> simp <;> omega

end Faucet

end GasFaucet
