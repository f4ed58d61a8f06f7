import GasFaucet.Proofs.Courses
import Mathlib.Data.Nat.Init

/-!
# Schedules

A run that goes on for good: one event for every moment.  Time only passes and never turns back, the faucet
stops once and for all, and a request stays where it is until an event makes it stride on.
-/

namespace GasFaucet

def Event.elapsed : Event → Nat
  | .pass ms => ms
  | _ => 0

def Event.stops : Event → Bool
  | .stop => true
  | _ => false

namespace Desk

/-- Two desks of one time, both stopping or neither. -/
structure Coeval (d e : Desk) : Prop where
  now : e.now = d.now
  stopped : e.stopped = d.stopped

namespace Coeval

variable {c d e : Desk}

theorem refl (d : Desk) : d.Coeval d :=
  ⟨rfl, rfl⟩

theorem trans (first : c.Coeval d) (second : d.Coeval e) : c.Coeval e :=
  ⟨second.now.trans first.now, second.stopped.trans first.stopped⟩

theorem of_keeps (kept : d.Keeps e) : d.Coeval e :=
  ⟨kept.now, kept.stopped⟩

end Coeval

theorem inquire_coeval (d : Desk) (who : Actor) (q? : Option Query) : d.Coeval (d.inquire who q?) := by
  cases q? <;> exact ⟨rfl, rfl⟩

variable {d : Desk} {p : Policy} {number : Nat} {r : Request} {e : Event} {progress : Progress}
variable {out : Desk × Progress}

theorem Strides.coeval (s : d.Strides p number r e progress out) : d.Coeval out.1 := by
  obtain kept | ⟨since, tried, lease, t, hash, -, -, same⟩ := s.keeps_or_sends
  · exact ⟨kept.now, kept.stopped⟩
  · exact ⟨same.desk.now, same.desk.stopped⟩

theorem wake_coeval (d : Desk) (p : Policy) (progress : Progress) : d.Coeval (d.wake p progress).1 := by
  unfold wake
  cases progress with
  | resting since wakeAt =>
    dsimp only
    split
    · exact .of_keeps (d.beginRound_keeps p since)
    · exact .refl d
  | gate | trying _ _ _ _ | ended _ | crashed _ _ | cancelled => exact .refl d

theorem wakeWatch_coeval (d : Desk) (p : Policy) (number : Nat) : d.Coeval (d.wakeWatch p number) := by
  unfold wakeWatch
  cases d.watches[number]? with
  | none => exact .refl d
  | some w =>
    dsimp only
    cases w.progress with
    | planned => exact ⟨rfl, rfl⟩
    | sleeping since wakeAt =>
      dsimp only
      split <;> exact ⟨rfl, rfl⟩
    | asking _ | concluded _ | crashed => exact .refl d

theorem concludeWatch_coeval (d : Desk) (p : Policy) (number : Nat) (w : Watch) (c : Conclusion) :
    d.Coeval (d.concludeWatch p number w c) := by
  cases c <;> exact ⟨rfl, rfl⟩

theorem onReceipt_coeval (d : Desk) (p : Policy) (number : Nat) (reply : Reply Bool) :
    d.Coeval (d.onReceipt p number reply) := by
  unfold onReceipt
  cases d.watches[number]? with
  | none => exact .refl d
  | some w =>
    dsimp only
    cases w.progress with
    | asking since =>
      cases reply with
      | crash m => exact ⟨rfl, rfl⟩
      | value mined =>
        dsimp only
        split
        · exact d.concludeWatch_coeval p number w _
        · exact ⟨rfl, rfl⟩
      | failure f =>
        dsimp only
        split
        · exact d.concludeWatch_coeval p number w _
        · exact ⟨rfl, rfl⟩
    | planned | sleeping _ _ | concluded _ | crashed => exact .refl d

end Desk

namespace Faucet

variable {f g : Faucet} {p : Policy} {e : Event} {number : Nat} {r : Request} {progress : Progress}

section Clock

theorem writeQuery_coeval (f : Faucet) (who : Actor) : f.desk.Coeval (f.writeQuery who).desk := by
  rw [writeQuery_eq]
  exact f.desk.inquire_coeval who _

theorem hear?_coeval {who : Actor} {a : Answer} (heard : f.hear? who a = some g) :
    f.desk.Coeval g.desk := by
  obtain ⟨q, -, -, rfl⟩ := hear?_eq_some heard
  exact ⟨rfl, rfl⟩

theorem answerRequest_coeval (f : Faucet) (p : Policy) (number : Nat) (a : Answer) :
    f.desk.Coeval (f.answerRequest p number a).desk := by
  cases heard : f.hear? (.request number) a with
  | none =>
    unfold answerRequest
    rw [heard]
    exact .refl _
  | some g =>
    obtain ⟨q, asking, admitted, -⟩ := hear?_eq_some heard
    obtain ⟨⟨r, progress⟩, found, waits⟩ := Option.bind_eq_some_iff.mp asking
    obtain ⟨out, strides, result⟩ := strides_answerRequest found waits admitted p
    rw [result]
    exact strides.coeval.trans (out.1.inquire_coeval _ _)

theorem wakeRequest_coeval (f : Faucet) (p : Policy) (number : Nat) :
    f.desk.Coeval (f.wakeRequest p number).desk := by
  unfold wakeRequest
  split
  · split
    · cases found : f.requests[number]? with
      | none =>
        unfold runRequest
        rw [found]
        exact .refl _
      | some entry =>
        rw [runRequest_eq found]
        exact (f.desk.wake_coeval p entry.2).trans (Desk.inquire_coeval _ _ _)
    · exact .refl _
  · exact .refl _

theorem cancelRequest_coeval (f : Faucet) (number : Nat) :
    f.desk.Coeval (f.cancelRequest number).desk := by
  unfold cancelRequest
  split
  · exact .refl _
  · exact .of_keeps (f.desk.cancel_keeps _)

theorem wakeWatch_coeval (f : Faucet) (p : Policy) (number : Nat) :
    f.desk.Coeval (f.wakeWatch p number).desk := by
  unfold wakeWatch
  split
  · exact .refl _
  · exact (f.desk.wakeWatch_coeval p number).trans
      (writeQuery_coeval { f with desk := f.desk.wakeWatch p number } _)

theorem answerWatch_coeval (f : Faucet) (p : Policy) (number : Nat) (a : Answer) :
    f.desk.Coeval (f.answerWatch p number a).desk := by
  unfold answerWatch
  split
  · rename_i heard
    exact (hear?_coeval heard).trans (Desk.onReceipt_coeval _ p number _)
  · exact .refl _

theorem beginCensus_coeval (f : Faucet) : f.desk.Coeval f.beginCensus.desk := by
  have asked (g : Faucet) (number : Nat) (places : List Nat) :
      g.desk.Coeval (places.foldl (fun g index => g.writeQuery (.census number index)) g).desk := by
    induction places generalizing g with
    | nil => exact .refl _
    | cons index rest ih => exact (g.writeQuery_coeval _).trans (ih _)
  exact asked { f with censuses := f.censuses ++ [.start f.desk.pool] } _ _

theorem answerCensus_coeval (f : Faucet) (number index : Nat) (a : Answer) :
    f.desk.Coeval (f.answerCensus number index a).desk := by
  unfold answerCensus
  split
  · rename_i heard
    have kept := hear?_coeval heard
    exact ⟨kept.now, kept.stopped⟩
  · exact .refl _

theorem clock_of_coeval (h : f.desk.Coeval g.desk) (lasting : e.elapsed = 0) (running : e.stops = false) :
    g.desk.now = f.desk.now + e.elapsed ∧ g.desk.stopped = (f.desk.stopped || e.stops) := by
  rw [lasting, running, Bool.or_false]
  exact ⟨h.now, h.stopped⟩

theorem clock_step (p : Policy) (f : Faucet) (e : Event) :
    (f.step p e).desk.now = f.desk.now + e.elapsed ∧
      (f.step p e).desk.stopped = (f.desk.stopped || e.stops) := by
  cases e with
  | request r =>
    apply clock_of_coeval _ rfl rfl
    change f.desk.Coeval (f.accept r).desk
    rw [accept_eq]
    exact ⟨rfl, rfl⟩
  | answerRequest number a => exact clock_of_coeval (f.answerRequest_coeval p number a) rfl rfl
  | wakeRequest number => exact clock_of_coeval (f.wakeRequest_coeval p number) rfl rfl
  | cancelRequest number => exact clock_of_coeval (f.cancelRequest_coeval number) rfl rfl
  | wakeWatch number => exact clock_of_coeval (f.wakeWatch_coeval p number) rfl rfl
  | answerWatch number a => exact clock_of_coeval (f.answerWatch_coeval p number a) rfl rfl
  | census => exact clock_of_coeval f.beginCensus_coeval rfl rfl
  | answerCensus number index a => exact clock_of_coeval (f.answerCensus_coeval number index a) rfl rfl
  | stop => exact ⟨rfl, (Bool.or_true _).symm⟩
  | pass ms => exact ⟨rfl, (Bool.or_false _).symm⟩

end Clock

/-- An event that does not make a request stride on leaves it as it is. -/
structure Still (f g : Faucet) (number : Nat) (e : Event) : Prop where
  requests : g.requests[number]? = f.requests[number]?
  asks : asks g.desk.journal (.request number) = asks f.desk.journal (.request number)
  pool : f.mover? e = some number → g.desk.pool = f.desk.pool

theorem Still.of_others (c : Change p f e g) (other : f.mover? e ≠ some number) : f.Still g number e := by
  obtain ⟨requests, asks, -⟩ := c.others other
  exact ⟨requests, asks, fun own => absurd own other⟩

theorem Change.still_or_strides (c : Change p f e g) (found : f.requests[number]? = some (r, progress)) :
    f.Still g number e ∨ ∃ out, f.desk.Strides p number r e progress out ∧ g = f.put number r out := by
  by_cases own : f.mover? e = some number
  · cases c with
    | apart left =>
      left
      exact ⟨by rw [left.requests], left.asks fun _ _ => Actor.noConfusion, fun _ => left.pool⟩
    | accepts r' =>
      obtain ⟨there, -⟩ := List.getElem?_eq_some_iff.mp found
      obtain rfl := Option.some.inj own
      exact absurd there (Nat.lt_irrefl _)
    | strides known s =>
      rw [mover?_of_strides s] at own
      obtain rfl := Option.some.inj own
      cases known.symm.trans found
      exact .inr ⟨_, s, rfl⟩
    | tends watched t =>
      rw [mover?_of_tends t] at own
      cases own
  · exact .inl (.of_others c own)

theorem strides_cancelRequest (found : f.requests[number]? = some (r, progress))
    (ongoing : progress.isOver = false) (p : Policy) :
    ∃ out, f.desk.Strides p number r (.cancelRequest number) progress out ∧
      f.cancelRequest number = f.put number r out := by
  refine ⟨f.desk.cancel progress, .drops ongoing, ?_⟩
  have silent : (f.desk.cancel progress).2.query? r = none := by
    rw [f.desk.cancel_progress ongoing]
    rfl
  unfold cancelRequest put
  rw [found, silent]
  rfl

theorem resting_of_wakeAt? {wakeAt : Nat} (sleeps : f.wakeAt? (.request number) = some wakeAt) :
    ∃ r since, f.requests[number]? = some (r, .resting since wakeAt) := by
  unfold wakeAt? at sleeps
  dsimp only at sleeps
  split at sleeps
  · rename_i r since wakeAt' found
    obtain rfl := Option.some.inj sleeps
    exact ⟨r, since, found⟩
  · cases sleeps

theorem strides_wakeRequest {since wakeAt : Nat}
    (found : f.requests[number]? = some (r, .resting since wakeAt)) (due : wakeAt ≤ f.desk.now)
    (p : Policy) :
    ∃ out, f.desk.Strides p number r (.wakeRequest number) (.resting since wakeAt) out ∧
      f.wakeRequest p number = f.put number r out := by
  have sleeping : f.wakeAt? (.request number) = some wakeAt := by
    unfold wakeAt?
    simp only [found]
  refine ⟨f.desk.beginRound p since, .wakes due, ?_⟩
  unfold wakeRequest
  simp only [sleeping, due, if_true]
  rw [runRequest_eq found]
  simp only [Desk.wake, due, if_true]

def along (f : Faucet) (p : Policy) (s : Nat → Event) : Nat → Faucet
  | 0 => f
  | k + 1 => (f.along p s k).step p (s k)

section Schedule

variable {start : Faucet} {s : Nat → Event} {i j k : Nat} {out : Desk × Progress}

theorem along_eq_run (start : Faucet) (p : Policy) (s : Nat → Event) (k : Nat) :
    start.along p s k = start.run p ((List.range k).map s) := by
  induction k with
  | zero => rfl
  | succ k ih =>
    rw [List.range_succ, List.map_append]
    unfold along run
    rw [List.foldl_append, ih]
    rfl

theorem now_le_along (upTo : i ≤ j) : (start.along p s i).desk.now ≤ (start.along p s j).desk.now := by
  induction j, upTo using Nat.le_induction with
  | base => exact Nat.le_refl _
  | succ j _ ih =>
    obtain ⟨now, -⟩ := clock_step p (start.along p s j) (s j)
    apply Nat.le_trans ih
    rw [along, now]
    exact Nat.le_add_right _ _

theorem Draws.along {accounts : List Address} (h : start.Draws accounts) (p : Policy) (s : Nat → Event)
    (k : Nat) : (start.along p s k).Draws accounts := by
  induction k with
  | zero => exact h
  | succ k ih => exact ih.change ((start.along p s k).change_step p (s k))

theorem Lends.along (h : start.Lends) (p : Policy) (s : Nat → Event) (k : Nat) :
    (start.along p s k).Lends := by
  rw [along_eq_run]
  exact h.run p _

theorem Initial.lends_along (h : start.Initial) (p : Policy) (s : Nat → Event) (k : Nat) :
    (start.along p s k).Lends :=
  h.lends.along p s k

theorem stopped_along (upTo : i ≤ j) (stopping : (start.along p s i).desk.stopped = true) :
    (start.along p s j).desk.stopped = true := by
  induction j, upTo using Nat.le_induction with
  | base => exact stopping
  | succ j _ ih =>
    obtain ⟨-, stopped⟩ := clock_step p (start.along p s j) (s j)
    rw [along, stopped, ih, Bool.true_or]

def Abides (start : Faucet) (p : Policy) (s : Nat → Event) (number i j : Nat) : Prop :=
  ∀ k, i ≤ k → k < j → (start.along p s k).Still (start.along p s (k + 1)) number (s k)

theorem Abides.same (h : start.Abides p s number i j) (upTo : i ≤ j) :
    (start.along p s j).requests[number]? = (start.along p s i).requests[number]? ∧
      asks (start.along p s j).desk.journal (.request number) =
        asks (start.along p s i).desk.journal (.request number) := by
  induction j, upTo using Nat.le_induction with
  | base => exact ⟨rfl, rfl⟩
  | succ j upTo ih =>
    obtain ⟨requests, asks⟩ := ih fun k later earlier => h k later (Nat.lt_succ_of_lt earlier)
    have still := h j upTo (Nat.lt_succ_self j)
    exact ⟨still.requests.trans requests, still.asks.trans asks⟩

/-- A request strides on at some moment, from one progress to what comes of it. -/
structure Turns (start : Faucet) (p : Policy) (s : Nat → Event) (number : Nat) (r : Request)
    (progress : Progress) (k : Nat) (out : Desk × Progress) : Prop where
  found : (start.along p s k).requests[number]? = some (r, progress)
  strides : (start.along p s k).desk.Strides p number r (s k) progress out
  result : start.along p s (k + 1) = (start.along p s k).put number r out

/-- Up to a later moment a request has stayed as it is, or it has made a first stride. -/
theorem abides_or_turns (found : (start.along p s i).requests[number]? = some (r, progress))
    (upTo : i ≤ j) :
    start.Abides p s number i j ∨
      ∃ k out, i ≤ k ∧ k < j ∧ start.Abides p s number i k ∧
        start.Turns p s number r progress k out := by
  induction j, upTo using Nat.le_induction with
  | base =>
    left
    intro k later earlier
    omega
  | succ j upTo ih =>
    rcases ih with abides | ⟨k, out, later, earlier, abides, turns⟩
    · have here := (abides.same upTo).1.trans found
      have changed := (start.along p s j).change_step p (s j)
      rcases changed.still_or_strides here with still | ⟨out, strides, result⟩
      · left
        intro k later earlier
        rcases Nat.lt_or_ge k j with inside | last
        · exact abides k later inside
        · obtain rfl : k = j := by omega
          exact still
      · exact .inr ⟨j, out, upTo, Nat.lt_succ_self j, abides, here, strides, result⟩
    · exact .inr ⟨k, out, later, Nat.lt_succ_of_lt earlier, abides, turns⟩

theorem abides_of_over (found : (start.along p s i).requests[number]? = some (r, progress))
    (finished : progress.isOver = true) (upTo : i ≤ j) : start.Abides p s number i j := by
  rcases abides_or_turns found upTo with abides | ⟨k, out, -, -, -, turns⟩
  · exact abides
  · rw [turns.strides.ongoing] at finished
    cases finished

theorem Turns.coeval (t : start.Turns p s number r progress k out) :
    (start.along p s k).desk.Coeval (start.along p s (k + 1)).desk := by
  rw [t.result]
  exact t.strides.coeval.trans (out.1.inquire_coeval _ _)

theorem Turns.found_after (t : start.Turns p s number r progress k out) :
    (start.along p s (k + 1)).requests[number]? = some (r, out.2) := by
  rw [t.result]
  exact getElem?_put_self t.found

theorem Turns.asks_after (t : start.Turns p s number r progress k out) :
    asks (start.along p s (k + 1)).desk.journal (.request number) =
      asks (start.along p s k).desk.journal (.request number) ++ (out.2.query? r).toList := by
  rw [t.result]
  unfold put
  rw [Desk.asks_inquire_self, t.strides.asks]

theorem Turns.pool_after (t : start.Turns p s number r progress k out) :
    (start.along p s (k + 1)).desk.pool = out.1.pool := by
  rw [t.result]
  unfold put
  rw [Desk.inquire_pool]

/-- A request makes a first stride by a moment at which it would make one, if it were still as it is. -/
theorem exists_first_turn (found : (start.along p s i).requests[number]? = some (r, progress))
    (upTo : i ≤ j) (moves : (start.along p s j).requests[number]? = some (r, progress) →
      ∃ out, start.Turns p s number r progress j out) :
    ∃ k out, i ≤ k ∧ k ≤ j ∧ start.Abides p s number i k ∧ start.Turns p s number r progress k out := by
  rcases abides_or_turns found upTo with abides | ⟨k, out, later, earlier, abides, turns⟩
  · obtain ⟨out, turns⟩ := moves ((abides.same upTo).1.trans found)
    exact ⟨j, out, upTo, Nat.le_refl j, abides, turns⟩
  · exact ⟨k, out, later, Nat.le_of_lt earlier, abides, turns⟩

theorem exists_turn (found : (start.along p s i).requests[number]? = some (r, progress)) (upTo : i ≤ j)
    (moves : (start.along p s j).requests[number]? = some (r, progress) →
      ∃ out, start.Turns p s number r progress j out) :
    ∃ k out, i ≤ k ∧ k ≤ j ∧ start.Turns p s number r progress k out := by
  obtain ⟨k, out, later, upTo', -, turns⟩ := exists_first_turn found upTo moves
  exact ⟨k, out, later, upTo', turns⟩

section Turns

variable (found : (start.along p s j).requests[number]? = some (r, progress))
include found

theorem turns_of_answer {q : Query} {a : Answer} (event : s j = .answerRequest number a)
    (asking : progress.query? r = some q) (admitted : q.admits a = true) :
    ∃ out, start.Turns p s number r progress j out := by
  obtain ⟨out, strides, result⟩ := strides_answerRequest found asking admitted p
  refine ⟨out, found, event ▸ strides, ?_⟩
  rw [along, event]
  exact result

theorem turns_of_cancel (event : s j = .cancelRequest number) (ongoing : progress.isOver = false) :
    ∃ out, start.Turns p s number r progress j out := by
  obtain ⟨out, strides, result⟩ := strides_cancelRequest found ongoing p
  refine ⟨out, found, event ▸ strides, ?_⟩
  rw [along, event]
  exact result

theorem turns_of_wake {since wakeAt : Nat} (event : s j = .wakeRequest number)
    (rests : progress = .resting since wakeAt) (due : wakeAt ≤ (start.along p s j).desk.now) :
    ∃ out, start.Turns p s number r progress j out := by
  subst rests
  obtain ⟨out, strides, result⟩ := strides_wakeRequest found due p
  refine ⟨out, found, event ▸ strides, ?_⟩
  rw [along, event]
  exact result

end Turns

end Schedule

end Faucet

end GasFaucet
