import GasFaucet.Proofs.Settling
import Mathlib.Data.List.Induction

/-!
# Settlements

Whatever happens between the chores of a settlement, the signer stays on lease to its watch until the
release, with the nonce floor with which it was handed over, or none once the watch itself has cleared it.
Then its chores are done but for the report, and only with the report a caller at the handle learns the end.
-/

namespace GasFaucet

/-! ## How far a settlement has come -/

namespace Settlement

def Released (st : Settlement) : Prop :=
  .release st.ending.progress ∈ st.done

/-- The settlement has come to some point of the chores of its ending. -/
inductive Phase (st : Settlement) : Prop
  | prepares (rest : List Chore) : st.ending.preparations = st.done ++ rest →
      st.left = rest ++ [.release st.ending.progress, .report st.ending.signal] → Phase st
  | released : st.done = st.ending.preparations ++ [.release st.ending.progress] →
      st.left = [.report st.ending.signal] → Phase st
  | reported : st.done = st.ending.chores → st.left = [] → Phase st

variable {st : Settlement} {c : Chore} {left : List Chore}

theorem phase (ordered : st.done ++ st.left = st.ending.chores) : st.Phase := by
  rcases List.append_eq_append_iff.mp ordered with ⟨rest, before, after⟩ | ⟨more, done, rest⟩
  · exact .prepares rest before after
  · rcases more with _ | ⟨c, _ | ⟨c', more⟩⟩
    · refine .prepares [] ?_ rest.symm
      simp [done]
    · simp only [List.singleton_append, List.cons.injEq] at rest
      obtain ⟨rfl, rest⟩ := rest
      exact .released done rest.symm
    · simp only [List.cons_append, List.cons.injEq, List.nil_eq_append_iff] at rest
      obtain ⟨rfl, rfl, rfl, none⟩ := rest
      exact .reported done none

theorem notReleased_of_prepares {rest : List Chore}
    (before : st.ending.preparations = st.done ++ rest) : ¬ st.Released := by
  intro member
  apply st.ending.release_notMem_preparations st.ending.progress
  rw [before]
  exact List.mem_append_left rest member

theorem notReleased_of_done (done : st.done = st.ending.preparations) : ¬ st.Released := by
  unfold Released
  rw [done]
  exact st.ending.release_notMem_preparations _

/-- The release is the only chore that ends the lease, and it follows all preparations. -/
theorem done_of_release {progress : WatchProgress}
    (ordered : st.done ++ st.left = st.ending.chores) (next : st.left = .release progress :: left) :
    st.done = st.ending.preparations ∧ progress = st.ending.progress ∧
      left = [.report st.ending.signal] := by
  rcases phase ordered with ⟨rest, before, after⟩ | ⟨-, after⟩ | ⟨-, after⟩
  · rw [next] at after
    cases rest with
    | nil =>
      obtain ⟨same, rfl⟩ := List.cons.inj after
      exact ⟨by simpa using before.symm, Chore.release.inj same, rfl⟩
    | cons c rest =>
      obtain ⟨rfl, -⟩ := List.cons.inj after
      have early : .release progress ∈ st.ending.preparations := by
        rw [before]
        simp
      exact absurd early (st.ending.release_notMem_preparations progress)
  · rw [next] at after
    cases after
  · rw [next] at after
    cases after

theorem eq_report_of_released (ordered : st.done ++ st.left = st.ending.chores)
    (released : st.Released) (next : st.left = c :: left) :
    c = .report st.ending.signal ∧ left = [] := by
  rcases phase ordered with ⟨rest, before, -⟩ | ⟨-, after⟩ | ⟨-, after⟩
  · exact absurd released (notReleased_of_prepares before)
  · rw [next] at after
    exact List.cons.inj after
  · rw [next] at after
    cases after

theorem released_of_left_nil (ordered : st.done ++ st.left = st.ending.chores)
    (finished : st.left = []) : st.Released := by
  rw [finished, List.append_nil] at ordered
  unfold Released
  rw [ordered]
  simp [WatchEnd.chores]

theorem findSome?_done (ordered : st.done ++ st.left = st.ending.chores) :
    st.done.findSome? Chore.signal? = if st.left = [] then some st.ending.signal else none := by
  have silent : st.ending.preparations.findSome? Chore.signal? = none :=
    List.findSome?_eq_none_iff.mpr fun _ => WatchEnd.signal?_of_mem_preparations
  rcases phase ordered with ⟨rest, before, after⟩ | ⟨done, after⟩ | ⟨done, after⟩
  · rw [after, if_neg (by simp), List.findSome?_eq_none_iff]
    intro c member
    apply WatchEnd.signal?_of_mem_preparations
    rw [before]
    exact List.mem_append_left rest member
  · rw [after, if_neg (by simp), done, List.findSome?_append, silent]
    rfl
  · rw [after, if_pos rfl, done, WatchEnd.chores, List.findSome?_append, silent]
    rfl

theorem counted_of_released (ordered : st.done ++ st.left = st.ending.chores)
    (released : st.Released) :
    st.done.filterMap Chore.counted? = st.ending.counted ∧
      st.done.count (.release st.ending.progress) = 1 := by
  have once : st.ending.preparations.count (.release st.ending.progress) = 0 :=
    List.count_eq_zero.mpr (st.ending.release_notMem_preparations _)
  rcases phase ordered with ⟨rest, before, -⟩ | ⟨done, -⟩ | ⟨done, -⟩
  · exact absurd released (notReleased_of_prepares before)
  · rw [done, List.filterMap_append, st.ending.filterMap_preparations, List.count_append, once]
    simp [Chore.counted?]
  · rw [done, WatchEnd.chores, List.filterMap_append, st.ending.filterMap_preparations,
      List.count_append, once]
    simp [Chore.counted?]

structure Suits (st : Settlement) (w : Watch) : Prop where
  ordered : st.done ++ st.left = st.ending.chores
  asking : ¬ st.Released → ∃ since, w.progress = .asking since
  ended : st.Released → w.progress = st.ending.progress

variable {w : Watch}

theorem Suits.unreported (suits : st.Suits w) (leased : ¬ st.Released) : w.report? = none := by
  obtain ⟨since, asking⟩ := suits.asking leased
  unfold Watch.report?
  rw [asking]

theorem Suits.busy (suits : st.Suits w) (wakeAt since : Nat) :
    w.progress ≠ .planned ∧ w.progress ≠ .sleeping since wakeAt := by
  by_cases released : st.Released
  · rw [suits.ended released]
    cases st.ending <;> exact ⟨WatchProgress.noConfusion, WatchProgress.noConfusion⟩
  · obtain ⟨since, asking⟩ := suits.asking released
    rw [asking]
    exact ⟨WatchProgress.noConfusion, WatchProgress.noConfusion⟩

theorem suits_begin {since : Nat} (asking : w.progress = .asking since) (e : WatchEnd) (elapsed : Nat) :
    (Settlement.begin e elapsed).Suits w where
  ordered := rfl
  asking _ := ⟨since, asking⟩
  ended released := by cases released

theorem Suits.advance (suits : st.Suits w) (next : st.left = c :: left) :
    (st.advance c left).Suits { w with progress := c.leaves w.progress } where
  ordered := by
    change (st.done ++ [c]) ++ left = st.ending.chores
    rw [List.append_assoc, List.singleton_append, ← next, suits.ordered]
  asking := by
    intro leased
    cases c with
    | release progress =>
      obtain ⟨-, rfl, -⟩ := done_of_release suits.ordered next
      exact absurd (List.mem_append_right _ (List.mem_singleton_self _)) leased
    | forget | count _ | report _ =>
      exact suits.asking fun released => leased (List.mem_append_left _ released)
  ended := by
    intro released
    cases c with
    | release progress =>
      obtain ⟨-, rfl, -⟩ := done_of_release suits.ordered next
      rfl
    | forget | count _ | report _ =>
      exact suits.ended (by simpa [Released, Settlement.advance] using released)

end Settlement

theorem NonceFloor.record_ne_clear (f : NonceFloor) (nonce : Word) : f.record nonce ≠ .clear := by
  obtain ⟨lastSent⟩ := f
  unfold record
  cases lastSent with
  | none => simp [clear]
  | some last =>
    dsimp only
    split <;> simp [clear]

namespace Desk

variable {d : Desk} {p : Policy} {k : Nat} {w : Watch} {elapsed : Nat}

/-- A watch that does its chores moves no floor but that of its own signer. -/
theorem floor_perform_of_ne (known : d.pool.signerAt? w.lease.index = some w.lease.signer) (c : Chore)
    {index : Nat} (other : w.lease.index ≠ index) :
    (d.perform p k w elapsed c).pool.floor index = d.pool.floor index := by
  cases c with
  | forget => exact (Pool.floor_modifyFloor known _ index).trans (if_neg other)
  | release progress => exact d.pool.floor_setLeased _ index false
  | count _ | report _ => rfl

theorem floor_perform (known : d.pool.signerAt? w.lease.index = some w.lease.signer) (c : Chore) :
    (d.perform p k w elapsed c).pool.floor w.lease.index =
      if c = .forget then .clear else d.pool.floor w.lease.index := by
  cases c with
  | forget => exact (Pool.floor_modifyFloor known _ w.lease.index).trans (if_pos rfl)
  | release progress => exact d.pool.floor_setLeased _ _ false
  | count _ | report _ => rfl

theorem getElem?_perform_of_ne {j : Nat} (other : k ≠ j) (c : Chore) :
    (d.perform p k w elapsed c).watches[j]? = d.watches[j]? := by
  cases c with
  | release progress => exact getElem?_setWatch_of_ne _ other progress
  | forget | count _ | report _ => rfl

end Desk

/-! ## What every move keeps -/

namespace Office

variable {p : Policy} {s t : Office} {m : Move} {k : Nat} {w : Watch} {floor : NonceFloor}

structure Sound (s : Office) : Prop where
  lends : s.faucet.Lends
  suits : ∀ {k st}, s.settling k = some st →
    ∃ w, s.faucet.desk.watches[k]? = some w ∧ st.Suits w
  line : ∀ k, s.line k = (s.deeds k).findSome? Chore.signal?
  returned : ∀ {k c}, s.handle k = .returned c →
    ∃ signal, s.line k = some signal ∧ c = signal.conclusion

theorem deeds_of_none (idle : s.settling k = none) : s.deeds k = [] := by
  simp [deeds, idle]

theorem deeds_of_some {st : Settlement} (settling : s.settling k = some st) :
    s.deeds k = st.done := by
  simp [deeds, settling]

theorem deeds_congr {j : Nat} (same : t.settling j = s.settling j) : t.deeds j = s.deeds j := by
  unfold deeds
  rw [same]

theorem sound_opened {f : Faucet} (lends : f.Lends) : (opened f).Sound where
  lends := lends
  suits settling := by cases settling
  line _ := rfl
  returned told := by cases told

theorem Sound.suits_of (h : s.Sound) {st : Settlement} (settling : s.settling k = some st)
    (found : s.faucet.desk.watches[k]? = some w) : st.Suits w := by
  obtain ⟨w', found', suits⟩ := h.suits settling
  cases found.symm.trans found'
  exact suits

theorem lends_perform {f : Faucet} (h : f.Lends) (found : f.desk.watches[k]? = some w)
    (p : Policy) (elapsed : Nat) {c : Chore}
    (releases : ∀ progress, c = .release progress →
      w.report? = none ∧ Watch.report? { w with progress := progress } ≠ none) :
    Faucet.Lends { f with desk := f.desk.perform p k w elapsed c } := by
  cases c with
  | forget => exact Desk.Lends.modifyFloor h _ _
  | count _ => exact Desk.Lends.congr h rfl rfl
  | report _ => exact h
  | release progress =>
    obtain ⟨unreported, reported⟩ := releases progress rfl
    have held : f.leaseOf? (.watch k) = some w.lease := Faucet.holds_iff.mp (.watch found unreported)
    have after : Watch.lease? { w with progress := progress } = none := by
      rw [← Option.not_isSome_iff_eq_none]
      intro leased
      obtain ⟨lease, leased⟩ := Option.isSome_iff_exists.mp leased
      exact reported (Watch.lease?_eq_some_iff.mp leased).1
    refine Faucet.lends_setWatch found progress rfl ?_
    rw [after]
    exact (Desk.Lends.release h held).congr rfl rfl

theorem Sound.perform (h : s.Sound) {st : Settlement} {c : Chore} {left : List Chore}
    (settling : s.settling k = some st) (next : st.left = c :: left)
    (found : s.faucet.desk.watches[k]? = some w) : (s.perform p k w st c left).Sound := by
  have suits := h.suits_of settling found
  have watches {j : Nat} (other : j ≠ k) :
      (s.perform p k w st c left).faucet.desk.watches[j]? = s.faucet.desk.watches[j]? :=
    Desk.getElem?_perform_of_ne other.symm c
  constructor
  case lends =>
    apply lends_perform h.lends found
    rintro progress rfl
    obtain ⟨done, rfl, -⟩ := Settlement.done_of_release suits.ordered next
    have leased := Settlement.notReleased_of_done done
    refine ⟨suits.unreported leased, ?_⟩
    rw [st.ending.report?_progress]
    exact Option.some_ne_none _
  case suits =>
    intro j st' settling'
    by_cases same : j = k
    · subst same
      cases (s.settling_perform p j w st c left).symm.trans settling'
      exact ⟨_, getElem?_perform found p st.elapsed c, suits.advance next⟩
    · rw [settling_perform_of_ne s p k w same] at settling'
      rw [watches same]
      exact h.suits settling'
  case line =>
    intro j
    by_cases same : j = k
    · subst same
      rw [line_perform, h.line, deeds_of_some settling, deeds_of_some (s.settling_perform p j w st c left)]
      simp [Settlement.advance, List.findSome?_append]
    · rw [line_perform_of_ne s p k w same, deeds_congr (settling_perform_of_ne s p k w same st c left)]
      exact h.line j
  case returned =>
    intro j outcome told
    obtain ⟨signal, heard, same⟩ := h.returned told
    refine ⟨signal, ?_, same⟩
    by_cases same : j = k
    · subst same
      rw [line_perform, heard, Option.some_or]
    · rwa [line_perform_of_ne s p k w same]

theorem Sound.begin (h : s.Sound) {reply : Reply Bool} {since : Nat}
    (idle : s.settling k = none) (found : s.faucet.desk.watches[k]? = some w)
    (asking : w.progress = .asking since) (e : WatchEnd) : (s.begin k w reply e).Sound where
  lends := Desk.Lends.congr h.lends rfl rfl
  suits := by
    intro j st settling
    by_cases same : j = k
    · subst same
      cases (s.settling_begin j w reply e).symm.trans settling
      exact ⟨w, found, Settlement.suits_begin asking e _⟩
    · rw [settling_begin_of_ne s k w same] at settling
      exact h.suits settling
  line := by
    intro j
    change s.line j = _
    rw [h.line]
    by_cases same : j = k
    · subst same
      rw [deeds_of_none idle, deeds_of_some (s.settling_begin j w reply e)]
      rfl
    · rw [deeds_congr (settling_begin_of_ne s k w same reply e)]
  returned := h.returned

theorem returned_of_update {handle : Nat → Handle} {x : Handle} {j : Nat} {c : Conclusion}
    (told : Function.update handle k x j = .returned c) :
    j = k ∧ x = .returned c ∨ handle j = .returned c := by
  by_cases same : j = k
  · subst same
    rw [Function.update_self] at told
    exact .inl ⟨rfl, told⟩
  · rw [Function.update_of_ne same] at told
    exact .inr told

theorem Sound.moves (h : s.Sound) (moves : s.Moves p m t) : t.Sound := by
  cases moves with
  | idles => exact h
  | @goes e unanswered endless =>
    have changed := s.faucet.change_step p e
    constructor
    case lends => exact h.lends.change changed
    case suits =>
      intro k st settling
      obtain ⟨w, found, suits⟩ := h.suits settling
      refine ⟨w, changed.watch_kept found suits.busy ?_, suits⟩
      intro a same
      rw [unanswered k a same] at settling
      cases settling
    case line => exact h.line
    case returned => exact h.returned
  | ends idle found asking _ => exact h.begin idle found asking _
  | settles settling next found => exact h.perform settling next found
  | @drops k held =>
    refine ⟨h.lends, h.suits, h.line, ?_⟩
    intro j c told
    rcases returned_of_update told with ⟨-, same⟩ | told
    · cases same
    · exact h.returned told
  | @returns k signal held heard =>
    refine ⟨h.lends, h.suits, h.line, ?_⟩
    intro j c told
    rcases returned_of_update told with ⟨rfl, same⟩ | told
    · cases same
      exact ⟨signal, heard, rfl⟩
    · exact h.returned told

theorem Sound.line_eq (h : s.Sound) {st : Settlement} (settling : s.settling k = some st) :
    s.line k = if st.left = [] then some st.ending.signal else none := by
  obtain ⟨w, found, suits⟩ := h.suits settling
  rw [h.line, deeds_of_some settling, Settlement.findSome?_done suits.ordered]

theorem Sound.line_of_none (h : s.Sound) (idle : s.settling k = none) : s.line k = none := by
  rw [h.line, deeds_of_none idle]
  rfl

theorem Sound.run (h : s.Sound) (p : Policy) (moves : List Move) : (s.run p moves).Sound := by
  induction moves generalizing s with
  | nil => exact h
  | cons m rest ih => exact ih (h.moves (moves_step p s m))

/-! ## Runs of the faucet -/

def Finished (s : Office) : Prop :=
  ∀ k st, s.settling k = some st → st.left = []

theorem Sound.ended (h : s.Sound) (finished : s.Finished) {st : Settlement}
    (settling : s.settling k = some st) :
    ∃ w, s.faucet.desk.watches[k]? = some w ∧ w.progress = st.ending.progress := by
  obtain ⟨w, found, suits⟩ := h.suits settling
  have released := Settlement.released_of_left_nil suits.ordered (finished k st settling)
  exact ⟨w, found, suits.ended released⟩

theorem Sound.faucet_event (h : s.Sound) (finished : s.Finished) {e : Event}
    (undecided : ∀ k a, e = .answerWatch k a → s.faucet.settlement? p k a = none) :
    s.step p (.event e) = { s with faucet := s.faucet.step p e } := by
  cases e with
  | answerWatch k a =>
    change s.answer p k a = _
    unfold answer
    cases settling : s.settling k with
    | none => simp only [undecided k a rfl]
    | some st =>
      obtain ⟨w, found, ended⟩ := h.ended finished settling
      have silent : s.faucet.query? (.watch k) = none := by
        rw [Faucet.query?_watch found]
        unfold Watch.query?
        rw [ended]
        cases st.ending <;> rfl
      have still : s.faucet.step p (.answerWatch k a) = s.faucet := by
        change s.faucet.answerWatch p k a = s.faucet
        unfold Faucet.answerWatch Faucet.hear?
        rw [silent]
        cases a <;> rfl
      rw [still]
  | _ => rfl

/-- Whatever an event makes of the faucet can be made of it by moves that settle at once. -/
theorem Sound.exists_moves_step (h : s.Sound) (finished : s.Finished) (p : Policy) (e : Event) :
    ∃ moves, (s.run p moves).faucet = s.faucet.step p e ∧ (s.run p moves).Finished := by
  by_cases begins : ∃ k a st, e = .answerWatch k a ∧ s.faucet.settlement? p k a = some st
  · obtain ⟨k, a, st, rfl, begins⟩ := begins
    obtain ⟨reply, w, since, ending, rfl, found, asking, ends, rfl⟩ :=
      Faucet.settlement?_eq_some begins
    have idle : s.settling k = none := by
      cases settling : s.settling k with
      | none => rfl
      | some st =>
        obtain ⟨w', found', ended⟩ := h.ended finished settling
        cases found.symm.trans found'
        exact absurd (ended.symm.trans asking) (st.ending.progress_ne_asking since)
    have settled := settled_at_once p idle found asking ends
    refine ⟨_, congrArg Office.faucet settled, ?_⟩
    rw [settled]
    intro j st settling
    have settling : Function.update s.settling k _ j = some st := settling
    by_cases same : j = k
    · subst same
      rw [Function.update_self] at settling
      cases settling
      rfl
    · rw [Function.update_of_ne same] at settling
      exact finished j st settling
  · have undecided : ∀ k a, e = .answerWatch k a → s.faucet.settlement? p k a = none := by
      intro k a same
      cases settlement : s.faucet.settlement? p k a with
      | none => rfl
      | some st => exact absurd ⟨k, a, st, same, settlement⟩ begins
    have stepped := h.faucet_event finished undecided
    refine ⟨[.event e], congrArg Office.faucet stepped, ?_⟩
    change (s.step p (.event e)).Finished
    rw [stepped]
    exact finished

/-- Every run of the faucet is one of the office in which each settlement is made at once. -/
theorem exists_moves {f : Faucet} (lends : f.Lends) (p : Policy) (events : List Event) :
    ∃ moves, ((opened f).run p moves).faucet = f.run p events := by
  suffices ∀ s : Office, s.Sound → s.Finished →
      ∃ moves, (s.run p moves).faucet = s.faucet.run p events from
    this (opened f) (sound_opened lends) fun _ _ settling => by cases settling
  induction events with
  | nil => exact fun s _ _ => ⟨[], rfl⟩
  | cons e rest ih =>
    intro s h finished
    obtain ⟨first, stepped, finished'⟩ := h.exists_moves_step finished p e
    obtain ⟨later, rested⟩ := ih (s.run p first) (h.run p first) finished'
    refine ⟨first ++ later, ?_⟩
    rw [run_append, rested, stepped, Faucet.run_cons]

/-! ## One watch from its beginning -/

/-- The watch over a transfer, since it took the lease over with some nonce floor. -/
structure Tracks (s : Office) (k : Nat) (w : Watch) (floor : NonceFloor) : Prop where
  watch : ∃ progress, s.faucet.desk.watches[k]? = some { w with progress := progress } ∧
    (s.settling k = none → Watch.report? { w with progress := progress } = none)
  floor : (∀ st, s.settling k = some st → ¬ st.Released) →
    s.faucet.desk.pool.floor w.lease.index = if .forget ∈ s.deeds k then .clear else floor

theorem Tracks.holds (tracks : s.Tracks k w floor) (h : s.Sound)
    (leased : ∀ st, s.settling k = some st → ¬ st.Released) :
    ∃ progress, s.faucet.desk.watches[k]? = some { w with progress := progress } ∧
      Watch.report? { w with progress := progress } = none := by
  obtain ⟨progress, found, unreported⟩ := tracks.watch
  refine ⟨progress, found, ?_⟩
  cases settling : s.settling k with
  | none => exact unreported settling
  | some st => exact (h.suits_of settling found).unreported (leased st settling)

theorem Tracks.perform (tracks : s.Tracks k w floor) (h : s.Sound) {j : Nat} {w' : Watch}
    {st : Settlement} {c : Chore} {left : List Chore} (settling : s.settling j = some st)
    (next : st.left = c :: left) (found : s.faucet.desk.watches[j]? = some w') :
    (s.perform p j w' st c left).Tracks k w floor := by
  have suits := h.suits_of settling found
  obtain ⟨progress, found', unreported⟩ := tracks.watch
  by_cases same : j = k
  · subst same
    cases found.symm.trans found'
    have after := s.settling_perform p j { w with progress := progress } st c left
    constructor
    case watch =>
      refine ⟨_, getElem?_perform found p st.elapsed c, ?_⟩
      intro idle
      cases after.symm.trans idle
    case floor =>
      intro leased
      have before : ¬ st.Released := by
        intro released
        exact leased _ after (List.mem_append_left _ released)
      have kept := tracks.floor fun st' now => by
        cases settling.symm.trans now
        exact before
      have known := h.lends.lent.known
        (Faucet.holds_iff.mp (.watch found (suits.unreported before)))
      have moved : (s.faucet.desk.perform p j _ st.elapsed c).pool.floor w.lease.index = _ :=
        Desk.floor_perform known c
      rw [deeds_of_some settling] at kept
      rw [deeds_of_some after]
      refine moved.trans ?_
      by_cases forgets : c = .forget
      · simp [Settlement.advance, forgets]
      · have differs : Chore.forget ≠ c := fun same => forgets same.symm
        simpa [Settlement.advance, forgets, differs] using kept
  · have elsewhere := settling_perform_of_ne s p j w' (Ne.symm same) st c left
    have watches : (s.perform p j w' st c left).faucet.desk.watches[k]? =
        s.faucet.desk.watches[k]? := Desk.getElem?_perform_of_ne same c
    constructor
    case watch =>
      rw [watches, elsewhere]
      exact ⟨progress, found', unreported⟩
    case floor =>
      rw [elsewhere]
      intro leased
      have kept := tracks.floor leased
      obtain ⟨_, there, silent⟩ := tracks.holds h leased
      have mine := Faucet.holds_iff.mp (.watch there silent)
      have sameDeeds : (s.perform p j w' st c left).deeds k = s.deeds k := by
        unfold deeds
        rw [elsewhere]
      rw [sameDeeds, ← kept]
      -- The other watch still holds a signer, and so another one, whenever it moves a floor.
      by_cases released : st.Released
      · obtain ⟨rfl, -⟩ := Settlement.eq_report_of_released suits.ordered released next
        rfl
      · have theirs := Faucet.holds_iff.mp (.watch found (suits.unreported released))
        apply Desk.floor_perform_of_ne (h.lends.lent.known theirs)
        intro place
        cases h.lends.lent.exclusive theirs mine place
        exact same rfl

theorem Tracks.moves (tracks : s.Tracks k w floor) (h : s.Sound) (moves : s.Moves p m t) :
    t.Tracks k w floor := by
  cases moves with
  | idles => exact tracks
  | drops _ | returns _ _ => exact ⟨tracks.watch, tracks.floor⟩
  | settles settling next found => exact tracks.perform h settling next found
  | @goes e unanswered endless =>
    obtain ⟨progress, found, unreported⟩ := tracks.watch
    constructor
    case watch =>
      cases settling : s.settling k with
      | none =>
        obtain ⟨after, there, silent⟩ := endless k _ found (unreported settling)
        exact ⟨after, there, fun _ => silent⟩
      | some st =>
        have suits := h.suits_of settling found
        refine ⟨progress, (s.faucet.change_step p e).watch_kept found suits.busy ?_, ?_⟩
        · intro a same
          rw [unanswered k a same] at settling
          cases settling
        · intro idle
          cases idle
    case floor =>
      intro leased
      obtain ⟨_, there, silent⟩ := tracks.holds h leased
      rw [Faucet.floor_step_of_endless h.lends there silent endless]
      exact tracks.floor leased
  | @ends j reply w' since e idle found asking ends =>
    obtain ⟨progress, found', unreported⟩ := tracks.watch
    constructor
    case watch =>
      refine ⟨progress, found', ?_⟩
      intro still
      by_cases same : k = j
      · subst same
        simp [begin] at still
      · rw [settling_begin_of_ne s j w' same] at still
        exact unreported still
    case floor =>
      intro leased
      by_cases same : k = j
      · subst same
        have before := tracks.floor fun st now => by cases idle.symm.trans now
        rw [deeds_of_none idle] at before
        rw [deeds_of_some (s.settling_begin k w' reply e)]
        exact before
      · rw [settling_begin_of_ne s j w' same] at leased
        have sameDeeds : (s.begin j w' reply e).deeds k = s.deeds k := by
          unfold deeds
          rw [settling_begin_of_ne s j w' same]
        rw [sameDeeds]
        exact tracks.floor leased

theorem Tracks.run (tracks : s.Tracks k w floor) (h : s.Sound) (p : Policy) (moves : List Move) :
    (s.run p moves).Tracks k w floor := by
  induction moves generalizing s with
  | nil => exact tracks
  | cons m rest ih =>
    have next := moves_step p s m
    exact ih (tracks.moves h next) (h.moves next)

/-- A watch begins with a transfer that was taken, whose nonce its signer's floor has just recorded. -/
theorem Sound.tracks (h : s.Sound) (moves : s.Moves p m t)
    (before : s.faucet.desk.watches[k]? = none) (after : t.faucet.desk.watches[k]? = some w) :
    t.Tracks k w (t.faucet.desk.pool.floor w.lease.index) ∧
      t.faucet.desk.pool.floor w.lease.index ≠ .clear ∧ t.settling k = none ∧
      w.report? = none := by
  cases moves with
  | idles | drops _ | returns _ _ | ends _ _ _ _ => cases before.symm.trans after
  | @settles j w' st c left _ _ found =>
    have other : j ≠ k := by
      rintro rfl
      cases before.symm.trans found
    cases before.symm.trans ((Desk.getElem?_perform_of_ne other c).symm.trans after)
  | @goes e _ _ =>
    have idle : s.settling k = none := by
      cases settling : s.settling k with
      | none => rfl
      | some st =>
        obtain ⟨w', found, -⟩ := h.suits settling
        cases before.symm.trans found
    rcases (s.faucet.change_step p e).watch_before after with
      ⟨w', found, -⟩ | ⟨number, r, since, tried, lease, transfer, hash, rfl, found, -, rfl⟩
    · cases before.symm.trans found
    · obtain ⟨out, strides, result⟩ := Faucet.strides_answerRequest (q := .broadcast transfer)
        (a := .digest (.value hash)) found rfl rfl p
      have recorded := Faucet.floor_put_sent h.lends found strides.sends lease.index
      rw [if_pos rfl, ← result] at recorded
      refine ⟨⟨⟨_, after, fun _ => rfl⟩, ?_⟩, ?_, idle, rfl⟩
      · intro _
        simp [deeds, idle]
      · intro cleared
        exact (s.faucet.desk.pool.floor lease.index).record_ne_clear transfer.nonce
          (recorded.symm.trans cleared)

/-- A settlement under way was so before, or an answer has just ended the watch. -/
theorem Moves.settling (moves : s.Moves p m t) {st : Settlement} (now : t.settling k = some st) :
    (∃ before, s.settling k = some before ∧ before.ending = st.ending) ∨
    ∃ reply w since, m = .event (.answerWatch k (.mined reply)) ∧
      s.faucet.desk.watches[k]? = some w ∧ w.progress = .asking since ∧
      Watch.ending? p since s.faucet.desk.now reply = some st.ending := by
  cases moves with
  | idles | goes _ _ | drops _ | returns _ _ => exact .inl ⟨st, now, rfl⟩
  | @settles j w before c left settling next found =>
    by_cases same : k = j
    · subst same
      cases (s.settling_perform p k w before c left).symm.trans now
      exact .inl ⟨before, settling, rfl⟩
    · rw [settling_perform_of_ne s p j w same] at now
      exact .inl ⟨st, now, rfl⟩
  | @ends j reply w since e idle found asking ends =>
    by_cases same : k = j
    · subst same
      cases (s.settling_begin k w reply e).symm.trans now
      exact .inr ⟨reply, w, since, rfl, found, asking, ends⟩
    · rw [settling_begin_of_ne s j w same] at now
      exact .inl ⟨st, now, rfl⟩

theorem exists_answer (p : Policy) (idle : s.settling k = none) (moves : List Move) {st : Settlement}
    (settling : (s.run p moves).settling k = some st) :
    ∃ earlier reply later w since, moves = earlier ++ .event (.answerWatch k (.mined reply)) :: later ∧
      (s.run p earlier).faucet.desk.watches[k]? = some w ∧ w.progress = .asking since ∧
      Watch.ending? p since (s.run p earlier).faucet.desk.now reply = some st.ending := by
  induction moves using List.reverseRecOn generalizing st with
  | nil => cases idle.symm.trans settling
  | append_singleton moves m ih =>
    rw [run_append] at settling
    rcases (moves_step p (s.run p moves) m).settling settling with
      ⟨before, under, same⟩ | ⟨reply, w, since, rfl, found, asking, ends⟩
    · obtain ⟨earlier, reply, later, w, since, rfl, found, asking, ends⟩ := ih under
      refine ⟨earlier, reply, later ++ [m], w, since, ?_, found, asking, ?_⟩
      · simp
      · rw [ends, same]
    · exact ⟨moves, reply, [], w, since, rfl, found, asking, ends⟩

/-! ## What is counted -/

def counts? (s : Office) : Move → Option Conclusion
  | .chore k => (s.settling k).bind fun st => st.left.head?.bind Chore.counted?
  | .event _ | .drop _ | .wait _ => none

/-- A conclusion is counted under its label by the chore that counts it, and by nothing else. -/
theorem confirmations_step (h : s.Sound) (p : Policy) (m : Move) :
    (s.step p m).faucet.desk.tally.confirmations =
      match s.counts? m with
      | some c => s.faucet.desk.tally.confirmations.bump [toString p.chainId.toNat, c.label]
      | none => s.faucet.desk.tally.confirmations := by
  have next := moves_step p s m
  generalize result : s.step p m = t at next
  cases m with
  | event e =>
    cases next with
    | idles | ends _ _ _ _ => rfl
    | goes _ endless => exact (s.faucet.change_step p e).confirmations endless
  | drop k => cases next <;> rfl
  | wait k => cases next <;> rfl
  | chore k =>
    subst result
    cases settling : s.settling k with
    | none =>
      rw [step_chore_of_none settling]
      simp [counts?, settling]
    | some st =>
      obtain ⟨w, found, -⟩ := h.suits settling
      cases left : st.left with
      | nil =>
        rw [step_chore_of_finished settling left]
        simp [counts?, settling, left]
      | cons c rest =>
        rw [step_chore settling left found]
        simp only [counts?, settling, Option.bind_some, left, List.head?_cons]
        exact Desk.confirmations_perform k w st.elapsed c

/-! ## Handles -/

theorem step_withHandle (p : Policy) (s : Office) (handle : Nat → Handle) {m : Move}
    (work : m.isWork = true) :
    step p { s with handle := handle } m = { s.step p m with handle := handle } := by
  cases m with
  | event e =>
    cases e with
    | answerWatch k a =>
      change answer p { s with handle := handle } k a = { s.answer p k a with handle := handle }
      unfold answer
      dsimp only
      split
      · rfl
      · split <;> rfl
    | _ => rfl
  | chore k =>
    change settle p { s with handle := handle } k = { s.settle p k with handle := handle }
    unfold settle
    dsimp only
    split <;> rfl
  | drop _ | wait _ => cases work

/-- Two offices that differ in what became of the handles only. -/
structure SameWork (s t : Office) : Prop where
  faucet : t.faucet = s.faucet
  settling : t.settling = s.settling
  line : t.line = s.line

theorem SameWork.step (h : SameWork s t) (p : Policy) {m : Move} (work : m.isWork = true) :
    SameWork (s.step p m) (t.step p m) := by
  have apart : t = { s with handle := t.handle } := by
    rw [← h.faucet, ← h.settling, ← h.line]
  rw [apart, step_withHandle p s t.handle work]
  exact ⟨rfl, rfl, rfl⟩

theorem sameWork_of_idle (p : Policy) (s : Office) {m : Move} (idle : m.isWork = false) :
    SameWork (s.step p m) s := by
  have next := moves_step p s m
  cases m with
  | event _ | chore _ => cases idle
  | drop k =>
    generalize s.step p (.drop k) = t at next
    cases next <;> exact ⟨rfl, rfl, rfl⟩
  | wait k =>
    generalize s.step p (.wait k) = t at next
    cases next <;> exact ⟨rfl, rfl, rfl⟩

theorem SameWork.run (h : SameWork s t) (p : Policy) (moves : List Move) :
    SameWork (s.run p (moves.filter Move.isWork)) (t.run p moves) := by
  induction moves generalizing s t with
  | nil => exact h
  | cons m rest ih =>
    cases work : m.isWork with
    | true =>
      rw [List.filter_cons_of_pos work]
      exact ih (h.step p work)
    | false =>
      rw [List.filter_cons_of_neg (by simp [work])]
      have same := sameWork_of_idle p t work
      exact ih ⟨same.faucet.symm.trans h.faucet, same.settling.symm.trans h.settling,
        same.line.symm.trans h.line⟩

/-! ## The settlement as a whole -/

/-- How the watch stands that took a lease over, with the nonce floor that its signer had then. -/
structure SettlesFirst (p : Policy) (s : Office) (k : Nat) (w : Watch) (floor : NonceFloor) : Prop where
  ordered : ∀ st, s.settling k = some st → st.done ++ st.left = st.ending.chores
  /-- Until the release nobody else holds the signer, and only the watch itself clears the floor. -/
  leased : (∀ st, s.settling k = some st → ¬ st.Released) →
    s.faucet.Holds (.watch k) w.lease ∧ s.faucet.desk.pool.isLeased w.lease.index = true ∧
    (∀ who lease, s.faucet.Holds who lease → lease.index = w.lease.index → who = .watch k) ∧
    s.faucet.desk.pool.floor w.lease.index = if .forget ∈ s.deeds k then .clear else floor
  releases : ∀ st progress left, s.settling k = some st → st.left = .release progress :: left →
    (s.step p (.chore k)).faucet.desk.pool.isLeased w.lease.index = false ∧
    (s.step p (.chore k)).faucet.desk.pool.floor w.lease.index =
      if st.ending.gaveUp then .clear else floor
  counted : ∀ st, s.settling k = some st → st.Released →
    st.done.filterMap Chore.counted? = st.ending.counted ∧
      st.done.count (.release st.ending.progress) = 1
  /-- After the release the watch touches nothing that is shared. -/
  apart : ∀ st, s.settling k = some st → st.Released → (s.step p (.chore k)).faucet = s.faucet
  /-- Whoever waits before the report goes on waiting. -/
  waits : (∀ st, s.settling k = some st → st.left ≠ []) → s.step p (.wait k) = s
  told : ∀ c, s.handle k = .returned c → ∃ st, s.settling k = some st ∧ st.Released ∧
    st.left = [] ∧ c = st.ending.outcome ∧ (st.ending = .breaks → c.transactionStatus = .unknown)
  tells : ∀ st, s.settling k = some st → st.left = [] → s.handle k = .held →
    (s.step p (.wait k)).handle k = .returned st.ending.outcome
  finishes : ∀ st, s.settling k = some st →
    (s.run p (List.replicate st.left.length (.chore k))).settling k =
      some { st with done := st.ending.chores, left := [] }

theorem Tracks.releases (tracks : s.Tracks k w floor) (h : s.Sound) (p : Policy) {st : Settlement}
    {progress : WatchProgress} {left : List Chore} (settling : s.settling k = some st)
    (next : st.left = .release progress :: left) :
    (s.step p (.chore k)).faucet.desk.pool.isLeased w.lease.index = false ∧
    (s.step p (.chore k)).faucet.desk.pool.floor w.lease.index =
      if st.ending.gaveUp then .clear else floor := by
  obtain ⟨current, found, -⟩ := tracks.watch
  have suits := h.suits_of settling found
  obtain ⟨done, rfl, rfl⟩ := Settlement.done_of_release suits.ordered next
  have before := Settlement.notReleased_of_done done
  have known := h.lends.lent.known (Faucet.holds_iff.mp (.watch found (suits.unreported before)))
  have kept := tracks.floor fun st' now => by
    cases settling.symm.trans now
    exact before
  rw [deeds_of_some settling, done] at kept
  simp only [WatchEnd.forget_mem_preparations] at kept
  rw [step_chore settling next found]
  constructor
  · exact (Pool.isLeased_setLeased known false _).trans (if_pos rfl)
  · exact (s.faucet.desk.pool.floor_setLeased _ _ false).trans kept

theorem Sound.waits (h : s.Sound) (p : Policy)
    (unfinished : ∀ st, s.settling k = some st → st.left ≠ []) : s.step p (.wait k) = s := by
  have silent : s.line k = none := by
    cases settling : s.settling k with
    | none => exact h.line_of_none settling
    | some st => rw [h.line_eq settling, if_neg (unfinished st settling)]
  simp [step, silent]

theorem Sound.tells (h : s.Sound) (p : Policy) {st : Settlement} (settling : s.settling k = some st)
    (finished : st.left = []) (held : s.handle k = .held) :
    (s.step p (.wait k)).handle k = .returned st.ending.outcome := by
  have heard := h.line_eq settling
  rw [if_pos finished] at heard
  simp [step, held, heard, st.ending.conclusion_signal]

theorem Sound.told (h : s.Sound) {c : Conclusion} (returned : s.handle k = .returned c) :
    ∃ st, s.settling k = some st ∧ st.Released ∧ st.left = [] ∧ c = st.ending.outcome ∧
      (st.ending = .breaks → c.transactionStatus = .unknown) := by
  obtain ⟨signal, heard, rfl⟩ := h.returned returned
  cases settling : s.settling k with
  | none =>
    rw [h.line_of_none settling] at heard
    cases heard
  | some st =>
    obtain ⟨w, found, suits⟩ := h.suits settling
    have finished : st.left = [] := by
      by_contra unfinished
      rw [h.line_eq settling, if_neg unfinished] at heard
      cases heard
    rw [h.line_eq settling, if_pos finished] at heard
    obtain rfl := Option.some.inj heard
    refine ⟨st, rfl, Settlement.released_of_left_nil suits.ordered finished, finished,
      st.ending.conclusion_signal, ?_⟩
    intro breaks
    rw [breaks]
    rfl

theorem Tracks.settlesFirst (tracks : s.Tracks k w floor) (h : s.Sound) (p : Policy) :
    s.SettlesFirst p k w floor := by
  obtain ⟨progress, found, -⟩ := tracks.watch
  constructor
  case ordered => exact fun st settling => (h.suits_of settling found).ordered
  case leased =>
    intro leased
    obtain ⟨_, there, silent⟩ := tracks.holds h leased
    have held := Faucet.Holds.watch there silent
    have mine := Faucet.holds_iff.mp held
    refine ⟨held, h.lends.lent.isLeased mine, ?_, tracks.floor leased⟩
    intro who lease theirs place
    exact h.lends.lent.exclusive (Faucet.holds_iff.mp theirs) mine place
  case releases => exact fun st _ _ settling next => tracks.releases h p settling next
  case counted =>
    intro st settling released
    exact Settlement.counted_of_released (h.suits_of settling found).ordered released
  case apart =>
    intro st settling released
    cases next : st.left with
    | nil => rw [step_chore_of_finished settling next]
    | cons c left =>
      obtain ⟨rfl, -⟩ := Settlement.eq_report_of_released (h.suits_of settling found).ordered
        released next
      rw [step_chore settling next found]
      rfl
  case waits => exact h.waits p
  case told => exact fun c returned => h.told returned
  case tells => exact fun st settling finished held => h.tells p settling finished held
  case finishes =>
    intro st settling
    rw [run_chores p settling found, ← (h.suits_of settling found).ordered]
    exact Function.update_self ..

/--
A watch settles its signer before it reports.  From the moment at which it takes the lease over, whatever
else happens, the signer stays on lease to it with the floor that it had, which only the watch itself
clears, and does so just when it gives up; the conclusion is counted once, a breakdown not at all; then
the signer is released, once, and only then the handle learns the end to which the node's answer led.
-/
theorem settles_before_reporting (p : Policy) {f : Faucet} (lends : f.Lends) {before : List Move}
    {m : Move} {k : Nat} {w : Watch}
    (unwatched : ((opened f).run p before).faucet.desk.watches[k]? = none)
    (begins : ((opened f).run p (before ++ [m])).faucet.desk.watches[k]? = some w)
    (after : List Move) :
    let start := (opened f).run p (before ++ [m])
    let floor := start.faucet.desk.pool.floor w.lease.index
    let s := start.run p after
    floor ≠ .clear ∧ s.SettlesFirst p k w floor ∧
    (∀ st, s.settling k = some st → ∃ earlier reply later since,
      after = earlier ++ .event (.answerWatch k (.mined reply)) :: later ∧
      (start.run p earlier).faucet.desk.watches[k]? = some { w with progress := .asking since } ∧
      Watch.ending? p since (start.run p earlier).faucet.desk.now reply = some st.ending) ∧
    (∀ move, (s.step p move).faucet.desk.tally.confirmations =
      match s.counts? move with
      | some c => s.faucet.desk.tally.confirmations.bump [toString p.chainId.toNat, c.label]
      | none => s.faucet.desk.tally.confirmations) ∧
    s.faucet = (start.run p (after.filter Move.isWork)).faucet ∧
    s.settling = (start.run p (after.filter Move.isWork)).settling ∧
    s.line = (start.run p (after.filter Move.isWork)).line := by
  intro start floor s
  have sound := (sound_opened lends).run p before
  have next := moves_step p ((opened f).run p before) m
  have same : start = ((opened f).run p before).step p m := run_append p (opened f) before [m]
  rw [← same] at next
  obtain ⟨tracks, unclear, idle, -⟩ := sound.tracks next unwatched begins
  have sound := sound.moves next
  have work : SameWork (start.run p (after.filter Move.isWork)) s :=
    SameWork.run (s := start) ⟨rfl, rfl, rfl⟩ p after
  refine ⟨unclear, (tracks.run sound p after).settlesFirst (sound.run p after) p, ?_,
    confirmations_step (sound.run p after) p, work.faucet, work.settling, work.line⟩
  intro st settling
  obtain ⟨earlier, reply, later, w', since, split, found, asking, ends⟩ :=
    exists_answer p idle after settling
  obtain ⟨progress, found', -⟩ := (tracks.run sound p earlier).watch
  cases found.symm.trans found'
  obtain rfl : progress = .asking since := asking
  exact ⟨earlier, reply, later, since, split, found, ends⟩

namespace HandedOver

def policy : Policy :=
  ⟨31337, ⟨none, 1⟩, ⟨100, 1000, none, some 1000, 7, transferGas⟩⟩

def request : Request :=
  ⟨⟨2⟩, 0, 7⟩

variable (signer : Signer)

def transfer : SignedTransfer :=
  { destination := ⟨2⟩, value := 7, nonce := 0, gasLimit := transferGas, gasPrice := 1
    sender := signer.address, hash := ⟨1⟩, raw := [] }

/-- A faucet whose only signer is held by a request that has offered a transfer to the node. -/
def faucet : Faucet where
  desk :=
    { Desk.fresh { (Pool.ofSigners [signer]).setLeased 0 true with totalLeases := 1 } with
      tally := Tally.empty.signerLeased }
  requests := [(request, .trying 0 [signer.address] ⟨0, signer⟩ (.broadcast (transfer signer)))]
  censuses := []

def watch : Watch :=
  ⟨(transfer signer).transaction ⟨0, signer⟩ ⟨1⟩ 0, ⟨0, signer⟩, .planned⟩

def taken : Move :=
  .event (.answerRequest 0 (.digest (.value ⟨1⟩)))

/-- There is no receipt in time; another request comes while the signer is being settled. -/
def moves : List Move :=
  [.event (.wakeWatch 0), .event (.pass 1000), .event (.wakeWatch 0),
    .event (.answerWatch 0 (.mined (.failure (.receiptNotFound "late")))), .chore 0,
    .event (.request request), .event (.answerRequest 1 (.number (.value 0))), .chore 0, .chore 0,
    .wait 0, .chore 0, .wait 0]

theorem lends_faucet : (faucet signer).Lends := by
  have granted : (Desk.fresh (.ofSigners [signer])).lease? (fun _ => true) = some (⟨0, signer⟩, _) := rfl
  have idle : (Faucet.fresh (.ofSigners [signer])).leaseOf? (.request 0) = none := rfl
  obtain ⟨lends, -⟩ := (Faucet.lends_fresh [signer]).grant idle granted
  unfold Faucet.Lends Faucet.leaseOf?
  change Desk.Lends _ (holdings (([] ++ [(request, Progress.gate)]).set 0 (request, _)) [])
  rw [holdings_set (by simp), holdings_append_request]
  exact lends.congr rfl rfl

def start : Office :=
  (opened (faucet signer)).run policy ([] ++ [taken])

theorem begins : (start signer).faucet.desk.watches[0]? = some (watch signer) ∧
    (start signer).faucet.desk.pool.floor 0 = ⟨some 0⟩ :=
  ⟨by cbv, by cbv⟩

def finish : Office :=
  (start signer).run policy moves

/-- The office after somebody has waited between the release and the report. -/
def early : Office :=
  (start signer).run policy (moves.take 10)

set_option maxRecDepth 4000 in
theorem unreported : (early signer).handle 0 = .held ∧ (early signer).faucet.desk.pool.isLeased 0 = false :=
  ⟨by cbv, by cbv⟩

set_option maxRecDepth 4000 in
theorem settled : (finish signer).handle 0 = .returned (.givenUp "no receipt after 1s") ∧
    (finish signer).faucet.desk.pool.floor 0 = .clear ∧
    (finish signer).faucet.desk.pool.isLeased 0 = false :=
  ⟨by cbv, by cbv, by cbv⟩

end HandedOver

/-- A watch whose time is up clears the floor, then releases its signer, then reports. -/
theorem settles_before_reporting_time_up :
    let signer : Signer := ⟨.ofKey ⟨1, by decide, by decide⟩, 31337⟩
    (HandedOver.faucet signer).Lends ∧
      (opened (HandedOver.faucet signer)).faucet.desk.watches[0]? = none ∧
      (HandedOver.start signer).faucet.desk.watches[0]? = some (HandedOver.watch signer) ∧
      (HandedOver.finish signer).SettlesFirst HandedOver.policy 0 (HandedOver.watch signer) ⟨some 0⟩ ∧
      (HandedOver.early signer).handle 0 = .held ∧
      (HandedOver.early signer).faucet.desk.pool.isLeased 0 = false ∧
      (HandedOver.finish signer).handle 0 = .returned (.givenUp "no receipt after 1s") ∧
      (HandedOver.finish signer).faucet.desk.pool.floor 0 = .clear ∧
      (HandedOver.finish signer).faucet.desk.pool.isLeased 0 = false := by
  intro signer
  clear_value signer
  have lends := HandedOver.lends_faucet signer
  obtain ⟨begins, floor⟩ := HandedOver.begins signer
  have unwatched : ((opened (HandedOver.faucet signer)).run HandedOver.policy
      []).faucet.desk.watches[0]? = none := rfl
  obtain ⟨-, settles, -⟩ :=
    settles_before_reporting HandedOver.policy lends unwatched begins HandedOver.moves
  have place : (HandedOver.watch signer).lease.index = 0 := rfl
  rw [place] at settles
  have settles : (HandedOver.finish signer).SettlesFirst HandedOver.policy 0
      (HandedOver.watch signer) ((HandedOver.start signer).faucet.desk.pool.floor 0) := settles
  rw [floor] at settles
  obtain ⟨held, free⟩ := HandedOver.unreported signer
  exact ⟨lends, unwatched, begins, settles, held, free, HandedOver.settled signer⟩

end Office

end GasFaucet
