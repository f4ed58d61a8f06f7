import GasFaucet.Proofs.Selection
import Mathlib.Algebra.Order.Floor.Div

/-!
# Patience

How long a request waits for a signer.  Its wait counts from when it passed its gate.  A round that ends
without a signer before the limit of the wait is followed by a rest: of one interval, or of what is left of
the wait where that is less.  One that ends at the limit or later is the last.  So a limited wait has room
for as many rests as intervals begin within it, and for one round more.
-/

namespace GasFaucet

namespace Terms

/-- How far into a wait its rounds begin, where none of them takes any time. -/
def roundAt (t : Terms) (rests : Nat) : Nat :=
  match t.maxLeaseWait with
  | none => rests * t.retryInterval
  | some limit => min (rests * t.retryInterval) limit

def Allows (t : Terms) (rests : Nat) : Prop :=
  ∀ limit ∈ t.maxLeaseWait, rests ≤ limit ⌈/⌉ t.retryInterval

/-- A rest that begins now: of one interval, or of what is left of a limited wait where that is less. -/
structure Sleeps (t : Terms) (now since wakeAt : Nat) : Prop where
  later : now < wakeAt
  unlimited : t.maxLeaseWait = none → wakeAt = now + t.retryInterval
  limited : ∀ {limit}, t.maxLeaseWait = some limit →
    now - since < limit ∧ wakeAt = now + min t.retryInterval (limit - (now - since)) ∧
      wakeAt ≤ since + limit

variable {t : Terms} {now since wakeAt rests : Nat} {progress : Progress}

@[simp]
theorem roundAt_zero (t : Terms) : t.roundAt 0 = 0 := by
  unfold roundAt
  cases t.maxLeaseWait <;> simp

theorem allows_zero (t : Terms) : t.Allows 0 :=
  fun _ _ => Nat.zero_le _

theorem roundAt_of_limit {limit : Nat} (limited : t.maxLeaseWait = some limit) (rests : Nat) :
    t.roundAt rests = min (rests * t.retryInterval) limit := by
  unfold roundAt
  rw [limited]

theorem roundAt_of_unlimited (unlimited : t.maxLeaseWait = none) : t.roundAt = (· * t.retryInterval) := by
  funext rests
  unfold roundAt
  rw [unlimited]

theorem lt_ceilDiv_iff {limit interval : Nat} (positive : 0 < interval) :
    rests < limit ⌈/⌉ interval ↔ rests * interval < limit := by
  rw [← Nat.not_le, ceilDiv_le_iff_le_mul positive, Nat.not_le, Nat.mul_comm]

theorem roundAt_of_limit_cases {limit : Nat} (interval : 0 < t.retryInterval)
    (limited : t.maxLeaseWait = some limit) :
    (∀ rests < limit ⌈/⌉ t.retryInterval, t.roundAt rests = rests * t.retryInterval) ∧
      t.roundAt (limit ⌈/⌉ t.retryInterval) = limit := by
  constructor
  · intro rests inside
    have below := (lt_ceilDiv_iff interval).mp inside
    rw [roundAt_of_limit limited]
    omega
  · have enough : limit ≤ t.retryInterval * (limit ⌈/⌉ t.retryInterval) :=
      (ceilDiv_le_iff_le_mul interval).mp (Nat.le_refl _)
    rw [Nat.mul_comm] at enough
    rw [roundAt_of_limit limited]
    omega

theorem Retires.sleeps (retires : t.Retires now since (.resting since wakeAt))
    (interval : 0 < t.retryInterval) (begun : since ≤ now) : t.Sleeps now since wakeAt := by
  cases retires with
  | rests unlimited =>
    refine ⟨by omega, fun _ => rfl, ?_⟩
    intro limit impossible
    cases unlimited.symm.trans impossible
  | @restsWithin limit limited within =>
    refine ⟨by omega, ?_, ?_⟩
    · intro impossible
      cases limited.symm.trans impossible
    · intro limit' same
      obtain rfl := Option.some.inj (limited.symm.trans same)
      exact ⟨within, rfl, by omega⟩

/-- A rest does not end before the next round is due; if the last round was not late, it ends just then. -/
theorem Retires.next (retires : t.Retires now since (.resting since wakeAt))
    (interval : 0 < t.retryInterval) (begun : since + t.roundAt rests ≤ now) :
    t.Allows (rests + 1) ∧ since + t.roundAt (rests + 1) ≤ wakeAt ∧
      (now = since + t.roundAt rests → wakeAt = since + t.roundAt (rests + 1)) := by
  cases retires with
  | rests unlimited =>
    rw [roundAt_of_unlimited unlimited] at begun ⊢
    dsimp only at begun ⊢
    rw [Nat.succ_mul]
    refine ⟨?_, by omega, by omega⟩
    intro limit impossible
    cases unlimited.symm.trans impossible
  | @restsWithin limit limited within =>
    rw [roundAt_of_limit limited] at begun ⊢
    rw [roundAt_of_limit limited, Nat.succ_mul]
    have below : rests * t.retryInterval < limit := by omega
    refine ⟨?_, by omega, by omega⟩
    intro limit' same
    obtain rfl := Option.some.inj (limited.symm.trans same)
    exact (lt_ceilDiv_iff interval).mpr below

end Terms

namespace Desk

variable {d : Desk} {p : Policy} {since : Nat} {tried : List Address}

theorem tryNext_leases_or_retires (d : Desk) (p : Policy) (since : Nat) (tried : List Address) :
    (∃ lease, (d.tryNext p since tried).2 =
      .trying since (lease.signer.address :: tried) lease .balance) ∨
      p.terms.Retires d.now since (d.tryNext p since tried).2 := by
  unfold tryNext
  split
  · rename_i lease _ _
    exact .inl ⟨lease, rfl⟩
  · exact .inr (d.endRound_retires p since)

end Desk

def Event.Reports (e : Event) (number : Nat) (failure : Failure) : Prop :=
  e = .answerRequest number (.number (.failure failure)) ∨
    e = .answerRequest number (.digest (.failure failure))

theorem Event.Reports.of_fails {p : Policy} {r : Request} {signer : Signer} {floor : NonceFloor}
    {stage : Stage} {a : Answer} {failure : Failure} {number : Nat}
    (failed : stage.turnout? p r signer floor a = some (.fails failure)) :
    (Event.answerRequest number a).Reports number failure := by
  obtain ⟨-, rfl | rfl⟩ := Stage.turnout?_fails failed
  · exact .inl rfl
  · exact .inr rfl

namespace Faucet

def beginsRound (f : Faucet) (number : Nat) : Event → Bool
  | .answerRequest n (.number (.value b)) =>
      match f.requests[number]? with
      | some (r, .gate) => n == number && !decide (r.cap < b) && !f.desk.stopped
      | _ => false
  | .wakeRequest n =>
      match f.requests[number]? with
      | some (_, .resting _ wakeAt) => n == number && decide (wakeAt ≤ f.desk.now) && !f.desk.stopped
      | _ => false
  | _ => false

def roundStarts (start : Faucet) (p : Policy) (s : Nat → Event) (number : Nat) : Nat → List Nat
  | 0 => []
  | k + 1 =>
      if (start.along p s k).beginsRound number (s k) then
        start.roundStarts p s number k ++ [(start.along p s k).desk.now]
      else start.roundStarts p s number k

variable {f start : Faucet} {p : Policy} {s : Nat → Event} {number i j k : Nat} {r : Request}
variable {e : Event} {since : Nat} {progress : Progress} {out : Desk × Progress}

theorem beginsRound_iff : f.beginsRound number e = true ↔ ∃ r since, f.Opens number r e since := by
  constructor
  · intro begins
    unfold beginsRound at begins
    split at begins
    · split at begins
      · rename_i found
        simp only [Bool.and_eq_true, beq_iff_eq, Bool.not_eq_true', decide_eq_false_iff_not] at begins
        obtain ⟨⟨rfl, within⟩, running⟩ := begins
        exact ⟨_, _, .gate found within running⟩
      · cases begins
    · split at begins
      · rename_i found
        simp only [Bool.and_eq_true, beq_iff_eq, Bool.not_eq_true', decide_eq_true_eq] at begins
        obtain ⟨⟨rfl, due⟩, running⟩ := begins
        exact ⟨_, _, .rest found due running⟩
      · cases begins
    · cases begins
  · rintro ⟨r, since, opens⟩
    cases opens with
    | gate found within running => simp [beginsRound, found, within, running]
    | rest found due running => simp [beginsRound, found, due, running]

theorem roundStarts_succ : start.roundStarts p s number (k + 1) =
    if (start.along p s k).beginsRound number (s k) then
      start.roundStarts p s number k ++ [(start.along p s k).desk.now]
    else start.roundStarts p s number k := rfl

theorem roundStarts_of_opens (opens : (start.along p s k).Opens number r (s k) since) :
    start.roundStarts p s number (k + 1) =
      start.roundStarts p s number k ++ [(start.along p s k).desk.now] := by
  rw [roundStarts_succ, beginsRound_iff.mpr ⟨r, since, opens⟩, if_pos rfl]

theorem roundStarts_of_not_opens (quiet : ∀ r since, ¬(start.along p s k).Opens number r (s k) since) :
    start.roundStarts p s number (k + 1) = start.roundStarts p s number k := by
  rw [roundStarts_succ, if_neg]
  intro begins
  obtain ⟨r, since, opens⟩ := beginsRound_iff.mp begins
  exact quiet r since opens

theorem length_roundStarts_succ_le :
    (start.roundStarts p s number (k + 1)).length ≤ (start.roundStarts p s number k).length + 1 := by
  by_cases opening : ∃ r since, (start.along p s k).Opens number r (s k) since
  · obtain ⟨r, since, opens⟩ := opening
    rw [roundStarts_of_opens opens, List.length_append, List.length_singleton]
  · have quiet : start.roundStarts p s number (k + 1) = start.roundStarts p s number k :=
      roundStarts_of_not_opens fun r since opens => opening ⟨r, since, opens⟩
    rw [quiet]
    exact Nat.le_succ _

theorem Opens.found (opens : f.Opens number r e since) :
    f.requests[number]? = some (r, .gate) ∨
      ∃ wakeAt, f.requests[number]? = some (r, .resting since wakeAt) ∧ wakeAt ≤ f.desk.now := by
  cases opens with
  | gate found _ _ => exact .inl found
  | rest found due _ => exact .inr ⟨_, found, due⟩

theorem not_opens_of_trying {accounts : List Address} {lease : Lease} {stage : Stage}
    (found : f.requests[number]? = some (r, .trying since accounts lease stage)) (r' : Request)
    (since' : Nat) : ¬f.Opens number r' e since' := by
  intro opens
  rcases opens.found with gate | ⟨wakeAt, rests, -⟩
  · cases found.symm.trans gate
  · cases found.symm.trans rests

/-- Beginning a round moves a request: it does not wait at its gate any more, or it rests for longer. -/
theorem Opens.not_still (interval : 0 < p.terms.retryInterval)
    (opens : (start.along p s k).Opens number r (s k) since) :
    ¬(start.along p s k).Still (start.along p s (k + 1)) number (s k) := by
  intro still
  obtain ⟨before, out, turns, -, d, -, now, same⟩ := opens.turns
  have stays := still.requests.symm.trans turns.found_after
  have found := d.tryNext_leases_or_retires p since []
  rw [← same.progress, now] at found
  rcases opens.found with gate | ⟨wakeAt, rests, due⟩
  · obtain ⟨-, reached⟩ := Prod.mk.inj (Option.some.inj (gate.symm.trans stays))
    rw [← reached] at found
    rcases found with ⟨lease, impossible⟩ | impossible <;> cases impossible
  · obtain ⟨-, reached⟩ := Prod.mk.inj (Option.some.inj (rests.symm.trans stays))
    rw [← reached] at found
    rcases found with ⟨lease, impossible⟩ | retires
    · cases impossible
    · cases retires <;> omega

theorem roundStarts_of_abides (interval : 0 < p.terms.retryInterval)
    (abides : start.Abides p s number i j) (upTo : i ≤ j) :
    start.roundStarts p s number j = start.roundStarts p s number i := by
  induction j, upTo using Nat.le_induction with
  | base => rfl
  | succ j upTo ih =>
    have still := abides j upTo (Nat.lt_succ_self j)
    have quiet : start.roundStarts p s number (j + 1) = start.roundStarts p s number j :=
      roundStarts_of_not_opens fun r since opens => opens.not_still interval still
    rw [quiet]
    exact ih fun k later earlier => abides k later (Nat.lt_succ_of_lt earlier)

structure PassesGate (start : Faucet) (p : Policy) (s : Nat → Event) (number : Nat) (r : Request)
    (gate : Nat) : Prop where
  found : (start.along p s gate).requests[number]? = some (r, .gate)
  opens : (start.along p s gate).Opens number r (s gate) (start.along p s gate).desk.now

def Gated (start : Faucet) (p : Policy) (s : Nat → Event) (number : Nat) (r : Request)
    (since k : Nat) : Prop :=
  ∃ gate < k, start.PassesGate p s number r gate ∧ since = (start.along p s gate).desk.now

theorem Gated.later (gated : start.Gated p s number r since k) :
    start.Gated p s number r since (k + 1) := by
  obtain ⟨gate, earlier, passes, counts⟩ := gated
  exact ⟨gate, Nat.lt_succ_of_lt earlier, passes, counts⟩

/--
Where a request stands with its wait: when the wait began, how many rounds there have been, and that neither
the round under way nor the next one comes before it is due.
-/
inductive Paced (start : Faucet) (p : Policy) (s : Nat → Event) (number k : Nat) :
    Option (Request × Progress) → Prop
  | absent : start.roundStarts p s number k = [] → Paced start p s number k none
  | waits {r : Request} : start.roundStarts p s number k = [] → Paced start p s number k (some (r, .gate))
  | tries {r : Request} {since accounts lease stage rests} : start.Gated p s number r since k →
      (start.roundStarts p s number k).length = rests + 1 →
      since + p.terms.roundAt rests ≤ (start.along p s k).desk.now → p.terms.Allows rests →
      Paced start p s number k (some (r, .trying since accounts lease stage))
  | rests {r : Request} {since wakeAt : Nat} {rests} : start.Gated p s number r since k →
      (start.roundStarts p s number k).length = rests →
      since + p.terms.roundAt rests ≤ wakeAt → p.terms.Allows rests →
      Paced start p s number k (some (r, .resting since wakeAt))
  | closes {r : Request} {progress : Progress} {rests} : progress.isOver = true →
      (start.roundStarts p s number k).length ≤ rests + 1 → p.terms.Allows rests →
      Paced start p s number k (some (r, progress))

theorem Paced.of_looks {tried : List Address} (paced : start.Paced p s number k (some (r, progress)))
    (turns : start.Turns p s number r progress k out)
    (looks : (start.along p s k).desk.Looks p number r (s k) progress since tried) :
    ∃ rests, start.Gated p s number r since (k + 1) ∧
      (start.roundStarts p s number (k + 1)).length = rests + 1 ∧
      since + p.terms.roundAt rests ≤ (start.along p s k).desk.now ∧ p.terms.Allows rests := by
  generalize event : s k = e at looks
  cases looks with
  | opens within running =>
    have opens := Opens.gate turns.found within running
    rw [← event] at opens
    cases paced with
    | waits unbegun =>
      refine ⟨0, ⟨k, Nat.lt_succ_self k, ⟨turns.found, opens⟩, rfl⟩, ?_, by simp, p.terms.allows_zero⟩
      rw [roundStarts_of_opens opens, unbegun]
      rfl
    | closes finished _ _ => cases finished
  | renews due running =>
    have opens := Opens.rest turns.found due running
    rw [← event] at opens
    cases paced with
    | rests gated counted paced allowed =>
      refine ⟨_, gated.later, ?_, Nat.le_trans paced due, allowed⟩
      rw [roundStarts_of_opens opens, List.length_append, counted]
      rfl
    | closes finished _ _ => cases finished
  | passes _ =>
    cases paced with
    | tries gated counted paced allowed =>
      refine ⟨_, gated.later, ?_, paced, allowed⟩
      rw [roundStarts_of_not_opens (not_opens_of_trying turns.found)]
      exact counted
    | closes finished _ _ => cases finished

theorem Paced.of_still (interval : 0 < p.terms.retryInterval)
    (paced : start.Paced p s number k (start.along p s k).requests[number]?)
    (still : (start.along p s k).Still (start.along p s (k + 1)) number (s k)) :
    start.Paced p s number (k + 1) (start.along p s (k + 1)).requests[number]? := by
  have later : (start.along p s k).desk.now ≤ (start.along p s (k + 1)).desk.now :=
    now_le_along (Nat.le_succ k)
  have same : start.roundStarts p s number (k + 1) = start.roundStarts p s number k :=
    roundStarts_of_not_opens fun r since opens => opens.not_still interval still
  rw [still.requests]
  generalize (start.along p s k).requests[number]? = entry at paced
  cases paced with
  | absent unbegun => exact .absent (same.trans unbegun)
  | waits unbegun => exact .waits (same.trans unbegun)
  | tries gated counted paced allowed =>
    exact .tries gated.later (same ▸ counted) (Nat.le_trans paced later) allowed
  | rests gated counted paced allowed => exact .rests gated.later (same ▸ counted) paced allowed
  | closes finished counted allowed => exact .closes finished (same ▸ counted) allowed

theorem Paced.of_ends {accounts : List Address} {lease : Lease} {stage : Stage}
    (paced : start.Paced p s number k (some (r, .trying since accounts lease stage)))
    (found : (start.along p s k).requests[number]? = some (r, .trying since accounts lease stage))
    (finished : progress.isOver = true) : start.Paced p s number (k + 1) (some (r, progress)) := by
  have same : start.roundStarts p s number (k + 1) = start.roundStarts p s number k :=
    roundStarts_of_not_opens (not_opens_of_trying found)
  cases paced with
  | tries _ counted _ allowed => exact .closes finished (Nat.le_of_eq (same ▸ counted)) allowed
  | closes impossible _ _ => cases impossible

theorem Paced.of_turns (interval : 0 < p.terms.retryInterval)
    (paced : start.Paced p s number k (some (r, progress)))
    (turns : start.Turns p s number r progress k out) :
    start.Paced p s number (k + 1) (some (r, out.2)) := by
  have now := turns.coeval.now
  have proceeds := turns.strides.proceeds
  generalize event : s k = e at proceeds
  cases proceeds with
  | @looks _ _ since tried _ d looks same_now _ same =>
    rw [← event] at looks
    obtain ⟨rests, gated, counted, paced, allowed⟩ := paced.of_looks turns looks
    have found := d.tryNext_leases_or_retires p since tried
    rw [← same.progress, same_now] at found
    rcases found with ⟨lease, reached⟩ | retires
    · rw [reached]
      exact .tries gated counted (now ▸ paced) allowed
    · rcases retires.rests_or_exhausts with ⟨wakeAt, reached⟩ | ⟨reached, -⟩
      · rw [reached] at retires ⊢
        obtain ⟨allowed', due, -⟩ := retires.next interval paced
        exact .rests gated counted due allowed'
      · rw [reached]
        exact .closes rfl (Nat.le_of_eq counted) allowed
  | closes idle _ finished _ =>
    have counted : (start.roundStarts p s number (k + 1)).length ≤
        (start.roundStarts p s number k).length + 1 := length_roundStarts_succ_le
    cases paced with
    | waits unbegun =>
      rw [unbegun] at counted
      exact .closes finished counted p.terms.allows_zero
    | tries _ _ _ _ => cases idle
    | rests _ exactly _ allowed => exact .closes finished (exactly ▸ counted) allowed
    | closes impossible _ _ =>
      rw [turns.strides.ongoing] at impossible
      cases impossible
  | advances _ _ reached =>
    have same : start.roundStarts p s number (k + 1) = start.roundStarts p s number k :=
      roundStarts_of_not_opens (not_opens_of_trying turns.found)
    rw [reached]
    cases paced with
    | tries gated counted paced allowed => exact .tries gated.later (same ▸ counted) (now ▸ paced) allowed
    | closes impossible _ _ => cases impossible
  | sends _ _ reached | fails _ _ reached | breaks _ _ reached | drops _ reached =>
    exact paced.of_ends turns.found (reached ▸ rfl)

theorem paced_along (idle : start.requests = []) (interval : 0 < p.terms.retryInterval) (s : Nat → Event)
    (number k : Nat) : start.Paced p s number k (start.along p s k).requests[number]? := by
  induction k with
  | zero =>
    rw [along, idle]
    exact .absent rfl
  | succ k ih =>
    have changed := (start.along p s k).change_step p (s k)
    cases before : (start.along p s k).requests[number]? with
    | none =>
      have quiet : start.roundStarts p s number (k + 1) = start.roundStarts p s number k := by
        apply roundStarts_of_not_opens
        intro r since opens
        rcases opens.found with gate | ⟨wakeAt, rests, -⟩
        · cases before.symm.trans gate
        · cases before.symm.trans rests
      rw [before] at ih
      cases ih with
      | absent unbegun =>
        cases now : (start.along p s (k + 1)).requests[number]? with
        | none => exact .absent (quiet.trans unbegun)
        | some entry =>
          obtain ⟨r, progress⟩ := entry
          rcases changed.request now with stays | rfl | ⟨_, _, there, -, -⟩
          · cases before.symm.trans stays
          · exact .waits (quiet.trans unbegun)
          · cases before.symm.trans there
    | some entry =>
      obtain ⟨r, progress⟩ := entry
      rcases changed.still_or_strides before with still | ⟨out, strides, result⟩
      · exact ih.of_still interval still
      · have turns : start.Turns p s number r progress k out := ⟨before, strides, result⟩
        rw [before] at ih
        rw [turns.found_after]
        exact ih.of_turns interval turns

theorem length_roundStarts_le (idle : start.requests = []) (interval : 0 < p.terms.retryInterval)
    {limit : Nat} (limited : p.terms.maxLeaseWait = some limit) (s : Nat → Event) (number k : Nat) :
    (start.roundStarts p s number k).length ≤ limit ⌈/⌉ p.terms.retryInterval + 1 := by
  have paced := paced_along idle interval s number k
  generalize (start.along p s k).requests[number]? = entry at paced
  cases paced with
  | absent unbegun | waits unbegun =>
    rw [unbegun]
    exact Nat.zero_le _
  | tries _ counted _ allowed =>
    rw [counted]
    exact Nat.succ_le_succ (allowed limit limited)
  | rests _ counted _ allowed =>
    rw [counted]
    exact Nat.le_succ_of_le (allowed limit limited)
  | closes _ counted allowed => exact Nat.le_trans counted (Nat.succ_le_succ (allowed limit limited))

theorem roundStarts_of_gate (idle : start.requests = []) (interval : 0 < p.terms.retryInterval)
    (found : (start.along p s k).requests[number]? = some (r, .gate)) :
    start.roundStarts p s number k = [] := by
  have paced := paced_along idle interval s number k
  rw [found] at paced
  cases paced with
  | waits unbegun => exact unbegun
  | closes impossible _ _ => cases impossible

/-- Whoever has no signer after an event is at the end of a round, or over for some other reason. -/
theorem Turns.retires_or_over (initial : start.Initial) (interval : 0 < p.terms.retryInterval)
    (turns : start.Turns p s number r progress k out) (idle : out.2.lease? = none) :
    (∃ since begun trials, start.Gated p s number r since (k + 1) ∧ since ≤ (start.along p s k).desk.now ∧
      p.terms.Retires (start.along p s k).desk.now since out.2 ∧
      start.Round p s number r since begun (k + 1) trials out.2) ∨
    out.2.isOver = true ∧ ∀ secs, out.2 = .ended (.failed (.noSignerAvailable secs)) →
      (s k).Reports number (.noSignerAvailable secs) := by
  have paced := paced_along initial.idle interval s number k
  rw [turns.found] at paced
  have under : ∀ since accounts lease stage, progress = .trying since accounts lease stage →
      ∃ begun trials, start.Round p s number r since begun k trials progress := by
    rintro since accounts lease stage rfl
    exact exists_round initial turns.found
  have proceeds := turns.strides.proceeds
  generalize event : s k = e at proceeds
  cases proceeds with
  | @looks _ _ since tried _ d looks same_now _ same =>
    rw [← event] at looks
    obtain ⟨begun, trials, round⟩ := turns.round_of_looks initial under looks
    obtain ⟨rests, gated, -, earlier, -⟩ := paced.of_looks turns looks
    have found := d.tryNext_leases_or_retires p since tried
    rw [← same.progress, same_now] at found
    rcases found with ⟨lease, reached⟩ | retires
    · rw [reached] at idle
      cases idle
    · exact .inl ⟨since, begun, trials, gated, by omega, retires, round⟩
  | closes _ _ finished passed => exact .inr ⟨finished, fun secs ended => .inl (passed secs ended)⟩
  | advances _ _ reached =>
    rw [reached] at idle
    cases idle
  | sends _ _ reached | breaks _ _ reached | drops _ reached =>
    rw [reached]
    exact .inr ⟨rfl, fun secs impossible => by cases impossible⟩
  | fails failed _ reached =>
    rw [reached]
    refine .inr ⟨rfl, ?_⟩
    intro secs ended
    cases ended
    exact .of_fails failed

/-- A round that ends in a failure has gone through the whole pool, or its last answer is that failure. -/
theorem Round.declined_or_reports (initial : start.Initial) {trials : List Trial} {failure : Failure}
    (round : start.Round p s number r since j (k + 1) trials (.ended (.failed failure))) :
    (∀ t ∈ trials, t.Declined p r) ∧ (start.along p s (k + 1)).Elsewhere number trials ∨
      (s k).Reports number failure := by
  have stands := round.stands initial
  cases stands with
  | exhausts declined elsewhere => exact .inl ⟨declined, elsewhere⟩
  | @fails done t _ split declined failed =>
    right
    generalize ended : Progress.ended (.failed failure) = progress at round
    cases round with
    | opens _ _ =>
      rw [← ended] at split
      simp [Progress.onTrial] at split
    | waits _ _ => cases ended
    | @hears _ done' u _ _ _ a out before event turns =>
      rw [← ended, Progress.onTrial_of_idle rfl] at split
      obtain ⟨-, rfl⟩ := List.append_singleton_inj.mp split
      obtain ⟨earlier, last, stage, answered, -, failing⟩ := Trial.exists_last failed (by simp)
      obtain ⟨-, rfl⟩ := List.append_singleton_inj.mp answered
      exact event ▸ .of_fails failing
    | drops before event turns =>
      have leads := turns.strides.leads
      rw [event, ← ended] at leads
      cases leads

/-- A request that rests does so as long as the wait since its gate allows. -/
theorem Turns.sleeps (initial : start.Initial) (interval : 0 < p.terms.retryInterval)
    (turns : start.Turns p s number r progress k out) {since wakeAt : Nat}
    (rests : out.2 = .resting since wakeAt) :
    start.Gated p s number r since (k + 1) ∧ since ≤ (start.along p s k).desk.now ∧
      p.terms.Sleeps (start.along p s k).desk.now since wakeAt := by
  rcases turns.retires_or_over initial interval (by rw [rests]; rfl) with
    ⟨since', begun, trials, gated, earlier, retires, -⟩ | ⟨impossible, -⟩
  · rcases retires.rests_or_exhausts with ⟨wakeAt', reached⟩ | ⟨reached, -⟩
    · cases rests.symm.trans reached
      rw [rests] at retires
      exact ⟨gated, earlier, retires.sleeps interval earlier⟩
    · cases rests.symm.trans reached
  · rw [rests] at impossible
    cases impossible

/-- A request that gives up has gone through the whole pool once more after its limit. -/
theorem Turns.gives_up (initial : start.Initial) (interval : 0 < p.terms.retryInterval)
    (turns : start.Turns p s number r progress k out) {secs : Nat}
    (ended : out.2 = .ended (.failed (.noSignerAvailable secs))) :
    (s k).Reports number (.noSignerAvailable secs) ∨
      ∃ limit since begun trials, p.terms.maxLeaseWait = some limit ∧
        start.Gated p s number r since (k + 1) ∧ since + limit ≤ (start.along p s k).desk.now ∧
        secs = ((start.along p s k).desk.now - since) / 1000 ∧
        start.Round p s number r since begun (k + 1) trials out.2 ∧
        (∀ t ∈ trials, t.Declined p r) ∧ (start.along p s (k + 1)).Elsewhere number trials := by
  rcases turns.retires_or_over initial interval (by rw [ended]; rfl) with
    ⟨since, begun, trials, gated, earlier, retires, round⟩ | ⟨-, reports⟩
  · rcases retires.rests_or_exhausts with ⟨wakeAt, reached⟩ | ⟨reached, limit, limited, late⟩
    · cases ended.symm.trans reached
    · cases ended.symm.trans reached
      rw [ended] at round ⊢
      rcases round.declined_or_reports initial with ⟨declined, elsewhere⟩ | reports
      · exact .inr ⟨limit, since, begun, trials, limited, gated, by omega, rfl, round, declined, elsewhere⟩
      · exact .inl reports
  · exact .inl (reports secs ended)

/--
A request that is held up by nobody, and served by nobody: its calls on behalf of a signer take no time, its
rests end when they should, and every attempt is passed over.
-/
structure Fruitless (start : Faucet) (p : Policy) (s : Nat → Event) (number : Nat) : Prop where
  running : ∀ k, (start.along p s k).desk.stopped = false
  kept : ∀ k, s k ≠ .cancelRequest number
  answered : ∀ {i r since accounts lease stage q},
    (start.along p s i).requests[number]? = some (r, .trying since accounts lease stage) →
    (Progress.trying since accounts lease stage).query? r = some q →
    ∃ j a, i ≤ j ∧ s j = .answerRequest number a ∧ q.admits a = true ∧
      (start.along p s j).desk.now = (start.along p s i).desk.now
  declined : ∀ {k r since accounts lease stage a turnout},
    (start.along p s k).requests[number]? = some (r, .trying since accounts lease stage) →
    s k = .answerRequest number a →
    stage.turnout? p r lease.signer ((start.along p s k).desk.pool.floor lease.index) a = some turnout →
    (∃ next, turnout = .goesOn next) ∨ ∃ reason, turnout = .passedOver reason
  woken : ∀ {i wakeAt}, (start.along p s i).wakeAt? (.request number) = some wakeAt →
    ∃ j, i ≤ j ∧ s j = .wakeRequest number ∧ (start.along p s j).desk.now = wakeAt

/-- A round that is under way comes to its end at the same time, and no other one begins before. -/
def EndsAtOnce (start : Faucet) (p : Policy) (s : Nat → Event) (number : Nat) (r : Request)
    (since i : Nat) : Prop :=
  ∃ j before out, i ≤ j ∧ start.Turns p s number r before j out ∧
    (start.along p s j).desk.now = (start.along p s i).desk.now ∧
    start.roundStarts p s number (j + 1) = start.roundStarts p s number i ∧
    p.terms.Retires (start.along p s i).desk.now since out.2

section Fruitless

variable (fruitless : start.Fruitless p s number) (interval : 0 < p.terms.retryInterval)
include fruitless interval

theorem Fruitless.round_ends {accounts : List Address} (draws : start.Draws accounts) (calls : Nat)
    {tried : List Address} {lease : Lease} {stage : Stage} (few : callsLeft accounts tried stage ≤ calls)
    (found : (start.along p s i).requests[number]? = some (r, .trying since tried lease stage)) :
    start.EndsAtOnce p s number r since i := by
  induction calls generalizing i tried lease stage with
  | zero =>
    have := callsLeft_pos accounts tried stage
    omega
  | succ calls ih =>
    obtain ⟨q, asking⟩ : ∃ q, (Progress.trying since tried lease stage).query? r = some q := by
      cases stage <;> exact ⟨_, rfl⟩
    obtain ⟨j, a, later, answer, admitted, atOnce⟩ := fruitless.answered found asking
    obtain ⟨k, out, after, upTo, abides, turns⟩ := exists_first_turn found later
      fun there => turns_of_answer there answer asking admitted
    have begins : (start.along p s i).desk.now ≤ (start.along p s k).desk.now := now_le_along after
    have ends : (start.along p s k).desk.now ≤ (start.along p s j).desk.now := now_le_along upTo
    have now : (start.along p s k).desk.now = (start.along p s i).desk.now := by omega
    have quiet : start.roundStarts p s number (k + 1) = start.roundStarts p s number i :=
      (roundStarts_of_not_opens (not_opens_of_trying turns.found)).trans
        (roundStarts_of_abides interval abides after)
    have continues {tried' : List Address} {lease' : Lease} {stage' : Stage}
        (reached : out.2 = .trying since tried' lease' stage')
        (fewer : callsLeft accounts tried' stage' < callsLeft accounts tried stage) :
        start.EndsAtOnce p s number r since i := by
      obtain ⟨j', before, out', beyond, turns', now', same, retires⟩ :=
        ih (by omega) (reached ▸ turns.found_after)
      rw [turns.coeval.now, now] at now' retires
      exact ⟨j', before, out', by omega, turns', now', same.trans quiet, retires⟩
    have proceeds := turns.strides.proceeds
    generalize event : s k = e at proceeds
    cases proceeds with
    | looks d looks same_now _ same =>
      cases looks with
      | passes _ =>
        have search := d.tryNext_leases_or_retires p since tried
        rw [← same.progress, same_now] at search
        rcases search with ⟨lease', reached⟩ | retires
        · have drawn := (draws.along p s (k + 1)).drawn (reached ▸ turns.found_after)
          exact continues reached (callsLeft_lease drawn stage)
        · rw [now] at retires
          exact ⟨k, _, out, after, turns, now, quiet, retires⟩
    | closes idle _ _ _ => cases idle
    | advances decided _ reached =>
      have further := (Stage.advances_of_goesOn decided).rank_lt
      exact continues reached (callsLeft_advance accounts tried further)
    | sends decided _ _ | fails decided _ _ | breaks decided _ _ =>
      rcases fruitless.declined turns.found event decided with ⟨_, impossible⟩ | ⟨_, impossible⟩ <;>
        cases impossible
    | drops _ _ => exact absurd event (fruitless.kept k)

theorem Fruitless.round_retires {accounts : List Address} (draws : start.Draws accounts)
    (opens : (start.along p s k).Opens number r (s k) since) :
    ∃ j before out, start.Turns p s number r before j out ∧
      (start.along p s j).desk.now = (start.along p s k).desk.now ∧
      start.roundStarts p s number (j + 1) =
        start.roundStarts p s number k ++ [(start.along p s k).desk.now] ∧
      p.terms.Retires (start.along p s k).desk.now since out.2 := by
  obtain ⟨before, out, turns, -, d, -, same_now, same⟩ := opens.turns
  have now := turns.coeval.now
  have search := d.tryNext_leases_or_retires p since []
  rw [← same.progress, same_now] at search
  rcases search with ⟨lease, reached⟩ | retires
  · obtain ⟨j, before', out', -, turns', now', quiet, retires⟩ :=
      fruitless.round_ends interval draws _ (Nat.le_refl _) (reached ▸ turns.found_after)
    rw [now] at now' retires
    rw [roundStarts_of_opens opens] at quiet
    exact ⟨j, before', out', turns', now', quiet, retires⟩
  · exact ⟨k, before, out, turns, rfl, roundStarts_of_opens opens, retires⟩

theorem Fruitless.wakes {wakeAt : Nat}
    (found : (start.along p s i).requests[number]? = some (r, .resting since wakeAt)) :
    ∃ k, i ≤ k ∧ (start.along p s k).Opens number r (s k) since ∧
      (start.along p s k).desk.now = wakeAt ∧
      start.roundStarts p s number k = start.roundStarts p s number i := by
  have sleeping : (start.along p s i).wakeAt? (.request number) = some wakeAt := by
    unfold wakeAt?
    simp only [found]
  obtain ⟨j, later, woken, onTime⟩ := fruitless.woken sleeping
  obtain ⟨k, out, after, upTo, abides, turns⟩ := exists_first_turn found later
    fun there => turns_of_wake there woken rfl (Nat.le_of_eq onTime.symm)
  have ends : (start.along p s k).desk.now ≤ (start.along p s j).desk.now := now_le_along upTo
  have strides := turns.strides
  generalize event : s k = e at strides
  cases strides with
  | wakes due =>
    have opens := Opens.rest turns.found due (fruitless.running k)
    exact ⟨k, after, event ▸ opens, by omega, roundStarts_of_abides interval abides after⟩
  | drops _ => exact absurd event (fruitless.kept k)

/-- The rounds of a fruitless wait begin exactly when they are due. -/
theorem Fruitless.opens_at (initial : start.Initial) {accounts : List Address}
    (draws : start.Draws accounts) {gate : Nat} (passes : start.PassesGate p s number r gate)
    {rests : Nat} (allowed : p.terms.Allows rests) :
    ∃ k, (start.along p s k).Opens number r (s k) (start.along p s gate).desk.now ∧
      (start.along p s k).desk.now = (start.along p s gate).desk.now + p.terms.roundAt rests ∧
      start.roundStarts p s number k =
        ((List.range rests).map p.terms.roundAt).map ((start.along p s gate).desk.now + ·) := by
  induction rests with
  | zero =>
    refine ⟨gate, passes.opens, ?_, roundStarts_of_gate initial.idle interval passes.found⟩
    rw [Terms.roundAt_zero, Nat.add_zero]
  | succ rests ih =>
    obtain ⟨k, opens, now, starts⟩ := ih fun limit limited => Nat.le_of_succ_le (allowed limit limited)
    obtain ⟨j, before, out, turns, -, starts', retires⟩ := fruitless.round_retires interval draws opens
    have due : ((List.range (rests + 1)).map p.terms.roundAt).map ((start.along p s gate).desk.now + ·) =
        ((List.range rests).map p.terms.roundAt).map ((start.along p s gate).desk.now + ·) ++
          [(start.along p s gate).desk.now + p.terms.roundAt rests] := by
      rw [List.range_succ, List.map_append, List.map_append]
      rfl
    rw [starts, now, ← due] at starts'
    rcases retires.rests_or_exhausts with ⟨wakeAt, reached⟩ | ⟨reached, limit, limited, late⟩
    · rw [reached] at retires
      obtain ⟨-, -, due⟩ := retires.next interval (Nat.le_of_eq now.symm)
      obtain ⟨k', -, opens', now', same⟩ := fruitless.wakes interval (reached ▸ turns.found_after)
      exact ⟨k', opens', now'.trans (due now), same.trans starts'⟩
    · -- The limit is not reached before the last round that it allows.
      have below := (Terms.lt_ceilDiv_iff interval).mp (allowed limit limited)
      rw [now, Terms.roundAt_of_limit limited] at late
      omega

theorem Fruitless.ends (initial : start.Initial) {accounts : List Address}
    (draws : start.Draws accounts) {gate : Nat} (passes : start.PassesGate p s number r gate)
    {limit : Nat} (limited : p.terms.maxLeaseWait = some limit) :
    ∃ n before out, start.Turns p s number r before n out ∧
      out.2 = .ended (.failed (.noSignerAvailable (limit / 1000))) ∧
      (start.along p s n).desk.now = (start.along p s gate).desk.now + limit ∧
      ∀ m > n, start.roundStarts p s number m =
        ((List.range (limit ⌈/⌉ p.terms.retryInterval)).map (· * p.terms.retryInterval) ++ [limit]).map
          ((start.along p s gate).desk.now + ·) := by
  obtain ⟨early, last⟩ := Terms.roundAt_of_limit_cases interval limited
  have allowed : p.terms.Allows (limit ⌈/⌉ p.terms.retryInterval) := by
    intro limit' same
    cases limited.symm.trans same
    exact Nat.le_refl _
  obtain ⟨k, opens, now, starts⟩ := fruitless.opens_at interval initial draws passes allowed
  obtain ⟨n, before, out, turns, now', starts', retires⟩ := fruitless.round_retires interval draws opens
  have counted : (List.range (limit ⌈/⌉ p.terms.retryInterval)).map p.terms.roundAt =
      (List.range (limit ⌈/⌉ p.terms.retryInterval)).map (· * p.terms.retryInterval) :=
    List.map_congr_left fun rests member => early rests (List.mem_range.mp member)
  rcases retires.rests_or_exhausts with ⟨wakeAt, reached⟩ | ⟨reached, -⟩
  · -- A rest would be one more than the wait has room for.
    rw [reached] at retires
    obtain ⟨further, -, -⟩ := retires.next interval (Nat.le_of_eq now.symm)
    exact absurd (further limit limited) (Nat.not_succ_le_self _)
  · have ended := turns.found_after
    rw [reached] at ended
    rw [last] at now
    rw [starts, counted, now] at starts'
    rw [now, Nat.add_sub_cancel_left] at reached
    refine ⟨n, before, out, turns, reached, now'.trans now, ?_⟩
    intro m later
    rw [roundStarts_of_abides interval (abides_of_over ended rfl later) later, starts', List.map_append]
    rfl

end Fruitless

/--
The wait of a request, which counts from its gate.  Every rest is one interval, or what is left of a limited
wait; a request gives up only after a round at or past its limit, unless it is told to; and the limit bounds
its rounds.  Where nothing takes time and nobody pays, the rounds begin exactly at the multiples of the
interval and at the limit, where the request gives up.
-/
theorem bounded_wait (signers : List Signer) (p : Policy) (s : Nat → Event) (number : Nat)
    (interval : 0 < p.terms.retryInterval) :
    let start := fresh (.ofSigners signers)
    (∀ {r progress k out since wakeAt}, start.Turns p s number r progress k out →
      out.2 = .resting since wakeAt →
      start.Gated p s number r since (k + 1) ∧ since ≤ (start.along p s k).desk.now ∧
        p.terms.Sleeps (start.along p s k).desk.now since wakeAt) ∧
    (∀ {r progress k out secs}, start.Turns p s number r progress k out →
      out.2 = .ended (.failed (.noSignerAvailable secs)) →
      (s k).Reports number (.noSignerAvailable secs) ∨
        ∃ limit since begun trials, p.terms.maxLeaseWait = some limit ∧
          start.Gated p s number r since (k + 1) ∧ since + limit ≤ (start.along p s k).desk.now ∧
          secs = ((start.along p s k).desk.now - since) / 1000 ∧
          start.Round p s number r since begun (k + 1) trials out.2 ∧
          (∀ t ∈ trials, t.Declined p r) ∧ (start.along p s (k + 1)).Elsewhere number trials) ∧
    (∀ {limit}, p.terms.maxLeaseWait = some limit → ∀ k,
      (start.roundStarts p s number k).length ≤ limit ⌈/⌉ p.terms.retryInterval + 1) ∧
    ∀ {r gate}, start.Fruitless p s number → start.PassesGate p s number r gate →
      (p.terms.maxLeaseWait = none → ∀ rests, ∃ k, start.roundStarts p s number k =
        ((List.range rests).map (· * p.terms.retryInterval)).map
          ((start.along p s gate).desk.now + ·)) ∧
      ∀ {limit}, p.terms.maxLeaseWait = some limit →
        ∃ n before out, start.Turns p s number r before n out ∧
          out.2 = .ended (.failed (.noSignerAvailable (limit / 1000))) ∧
          (start.along p s n).desk.now = (start.along p s gate).desk.now + limit ∧
          ∀ m > n, start.roundStarts p s number m =
            ((List.range (limit ⌈/⌉ p.terms.retryInterval)).map (· * p.terms.retryInterval) ++
              [limit]).map ((start.along p s gate).desk.now + ·) := by
  intro start
  have initial : start.Initial := initial_fresh signers
  have draws := draws_fresh signers
  refine ⟨fun turns => turns.sleeps initial interval, fun turns => turns.gives_up initial interval, ?_, ?_⟩
  · intro limit limited k
    exact length_roundStarts_le initial.idle interval limited s number k
  · intro r gate fruitless passes
    refine ⟨?_, fruitless.ends interval initial draws passes⟩
    intro unlimited rests
    have allowed : p.terms.Allows rests := by
      intro limit impossible
      cases unlimited.symm.trans impossible
    obtain ⟨k, -, -, starts⟩ := fruitless.opens_at interval initial draws passes allowed
    refine ⟨k, ?_⟩
    rw [starts, Terms.roundAt_of_unlimited unlimited]

namespace Poor

def request : Request :=
  ⟨⟨0⟩, 5, 0⟩

/-- A wait has room for a whole interval and for half of another. -/
def policy : Policy :=
  ⟨31337, ⟨none, 1⟩, ⟨100, 100, some 150, none, 7, transferGas⟩⟩

def schedule : Nat → Event
  | 0 => .request request
  | 1 | 2 | 5 | 8 => .answerRequest 0 (.number (.value 0))
  | 3 => .pass 100
  | 6 => .pass 50
  | 4 | 7 => .wakeRequest 0
  | _ => .pass 0

variable (signer : Signer)

def state : Nat → Faucet :=
  (fresh (.ofSigners [signer])).along policy schedule

theorem state_add_nine (k : Nat) : state signer (k + 9) = state signer 9 := by
  induction k with
  | zero => rfl
  | succ k ih => exact ih

theorem found (k : Nat) : (state signer k).requests[0]? =
    match k with
    | 0 => none
    | 1 => some (request, .gate)
    | 2 | 5 | 8 => some (request, .trying 0 [signer.address] ⟨0, signer⟩ .balance)
    | 3 | 4 => some (request, .resting 0 100)
    | 6 | 7 => some (request, .resting 0 150)
    | _ => some (request, .ended (.failed (.noSignerAvailable 0))) := by
  match k with
  | 0 | 1 | 2 | 3 | 4 | 5 | 6 | 7 | 8 => cbv
  | k + 9 =>
    rw [state_add_nine]
    cbv

theorem passesGate : (fresh (.ofSigners [signer])).PassesGate policy schedule 0 request 1 :=
  ⟨rfl, .gate rfl (by decide) rfl⟩

theorem running (k : Nat) : (state signer k).desk.stopped = false := by
  match k with
  | 0 | 1 | 2 | 3 | 4 | 5 | 6 | 7 | 8 => cbv
  | k + 9 =>
    rw [state_add_nine]
    cbv

theorem declines {k : Nat} {r : Request} {since : Nat} {accounts : List Address} {lease : Lease}
    {stage : Stage}
    (trying : (state signer k).requests[0]? = some (r, .trying since accounts lease stage)) :
    r = request ∧ stage = .balance ∧ schedule k = .answerRequest 0 (.number (.value 0)) := by
  rw [found] at trying
  split at trying
  all_goals cases trying
  all_goals exact ⟨rfl, rfl, rfl⟩

theorem awakes {k : Nat} {r : Request} {since wakeAt : Nat}
    (rests : (state signer k).requests[0]? = some (r, .resting since wakeAt)) :
    ∃ j, k ≤ j ∧ schedule j = .wakeRequest 0 ∧ (state signer j).desk.now = wakeAt := by
  have first : (state signer 4).desk.now = 100 := by cbv
  have second : (state signer 7).desk.now = 150 := by cbv
  rw [found] at rests
  split at rests
  all_goals cases rests
  case h_6 | h_7 => exact ⟨4, by decide, rfl, first⟩
  case h_8 | h_9 => exact ⟨7, by decide, rfl, second⟩

theorem fruitless : (fresh (.ofSigners [signer])).Fruitless policy schedule 0 := by
  constructor
  case running => exact running signer
  case kept =>
    intro k
    unfold schedule
    split <;> exact Event.noConfusion
  case answered =>
    intro i r since accounts lease stage q trying asking
    obtain ⟨rfl, rfl, answer⟩ := declines signer trying
    obtain rfl := Option.some.inj asking
    exact ⟨i, _, Nat.le_refl i, answer, rfl, rfl⟩
  case declined =>
    intro k r since accounts lease stage a turnout trying answer decided
    obtain ⟨rfl, rfl, poor⟩ := declines signer trying
    cases poor.symm.trans answer
    exact .inr ⟨_, (Option.some.inj decided).symm⟩
  case woken =>
    intro i wakeAt sleeping
    obtain ⟨r, since, rests⟩ := resting_of_wakeAt? sleeping
    exact awakes signer rests

end Poor

/-- A request whose only signer never has enough goes through three rounds and gives up at its limit. -/
theorem bounded_wait_poor :
    let signer : Signer := ⟨.ofKey ⟨1, by decide, by decide⟩, 31337⟩
    let start := fresh (.ofSigners [signer])
    0 < Poor.policy.terms.retryInterval ∧ start.Fruitless Poor.policy Poor.schedule 0 ∧
      start.PassesGate Poor.policy Poor.schedule 0 Poor.request 1 ∧
      ∃ n before out, start.Turns Poor.policy Poor.schedule 0 Poor.request before n out ∧
        out.2 = .ended (.failed (.noSignerAvailable 0)) ∧
        (start.along Poor.policy Poor.schedule n).desk.now = 150 ∧
        ∀ m > n, start.roundStarts Poor.policy Poor.schedule 0 m = [0, 100, 150] := by
  intro signer start
  have interval : 0 < Poor.policy.terms.retryInterval := by decide
  have fruitless := Poor.fruitless signer
  have passes := Poor.passesGate signer
  obtain ⟨-, -, -, exactly⟩ := bounded_wait [signer] Poor.policy Poor.schedule 0 interval
  obtain ⟨n, before, out, turns, ended, now, starts⟩ := (exactly fruitless passes).2 rfl
  exact ⟨interval, fruitless, passes, n, before, out, turns, ended, now, starts⟩

namespace Passing

/-- A wait has no limit, and a signer with enough is asked for its nonce at once. -/
def policy : Policy :=
  ⟨31337, ⟨some 1, 1⟩, ⟨100, 100, none, none, 7, transferGas⟩⟩

/-- The node answers the signer's nonce with a failure of the faucet's own. -/
def schedule : Nat → Event
  | 0 => .request Poor.request
  | 1 => .answerRequest 0 (.number (.value 0))
  | 2 => .answerRequest 0 (.number (.value 100))
  | 3 => .answerRequest 0 (.number (.failure (.noSignerAvailable 7)))
  | _ => .pass 0

end Passing

/-- A request without a limit may end as if its wait were over: by a call that was answered so. -/
theorem bounded_wait_reported :
    let signer : Signer := ⟨.ofKey ⟨1, by decide, by decide⟩, 31337⟩
    let start := fresh (.ofSigners [signer])
    0 < Passing.policy.terms.retryInterval ∧ Passing.policy.terms.maxLeaseWait = none ∧
      (start.along Passing.policy Passing.schedule 4).desk.stopped = false ∧
      (start.along Passing.policy Passing.schedule 4).desk.now = 0 ∧
      (start.along Passing.policy Passing.schedule 4).requests[0]? =
        some (Poor.request, .ended (.failed (.noSignerAvailable 7))) := by
  intro signer
  clear_value signer
  refine ⟨by decide, rfl, ?_, ?_, ?_⟩ <;> cbv

end Faucet

end GasFaucet
