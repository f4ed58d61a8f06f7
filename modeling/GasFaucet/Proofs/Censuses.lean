import GasFaucet.Pages.Servers
import GasFaucet.Proofs.Moments
import Mathlib.Data.Set.List

/-!
# Censuses

What a census reports is right in whatever order its answers come and whatever else happens meanwhile: it has
one line for each signer, in the order of the pool, with the balance that was answered for that signer and the
signer's lease flag of that moment.  A census itself touches neither leases nor nonce floors nor counters.
-/

namespace GasFaucet

/-- A line describes a place of a pool as it is when it is answered for. -/
structure SignerLine.Describes (l : SignerLine) (pool : Pool) (place : Nat) (reply : Reply Word) : Prop where
  index : l.index = place
  address : (pool.signerAt? place).map Signer.address = some l.address
  leased : l.leased = pool.isLeased place
  balance : ∀ b, l.balance = some b ↔ reply = .value b
  unread : l.balance = none ↔ ∃ f, reply = .failure f

/-- The first answer that events bring to a place of a census, by its position among them. -/
structure FirstAnswer (events : List Event) (number index k : Nat) (reply : Reply Word) : Prop where
  told : events[k]? = some (.answerCensus number index (.number reply))
  first : ∀ j < k, ∀ other, events[j]? ≠ some (.answerCensus number index (.number other))

theorem FirstAnswer.unique {events : List Event} {number index k j : Nat} {reply other : Reply Word}
    (one : FirstAnswer events number index k reply) (two : FirstAnswer events number index j other) :
    j = k ∧ other = reply := by
  rcases Nat.lt_trichotomy j k with earlier | rfl | later
  · exact absurd two.told (one.first j earlier other)
  · cases one.told.symm.trans two.told
    exact ⟨rfl, rfl⟩
  · exact absurd one.told (two.first k later reply)

section Line

variable {pool : Pool} {index : Nat} {reply : Reply Word} {l l' : SignerLine}

theorem SignerLine.Describes.unique (one : l.Describes pool index reply)
    (two : l'.Describes pool index reply) : l' = l := by
  have place := two.index.trans one.index.symm
  have address := Option.some.inj (two.address.symm.trans one.address)
  have leased := two.leased.trans one.leased.symm
  have balance : l'.balance = l.balance := by
    ext b
    rw [two.balance, one.balance]
  obtain ⟨_, _, _, _⟩ := l
  obtain ⟨_, _, _, _⟩ := l'
  cases place
  cases address
  cases leased
  cases balance
  rfl

theorem SignerLine.Describes.sound (describes : l.Describes pool index reply) (m : String) :
    reply ≠ .crash m := by
  rintro rfl
  cases balance : l.balance with
  | none =>
    obtain ⟨f, impossible⟩ := describes.unread.mp balance
    cases impossible
  | some b => cases (describes.balance b).mp balance

/-- Unless who answers breaks down, there is a line for every place of the pool. -/
theorem Pool.exists_line {signer : Signer} (known : pool.signerAt? index = some signer)
    (sound : ∀ m, reply ≠ .crash m) :
    ∃ l, pool.line? index reply = some l ∧ l.Describes pool index reply := by
  obtain ⟨slot, there, rfl⟩ := Option.map_eq_some_iff.mp known
  have flag : pool.isLeased index = slot.leased := by simp [Pool.isLeased, there]
  unfold Pool.line?
  rw [there]
  cases reply with
  | value b => exact ⟨_, rfl, rfl, by simp [known], flag.symm, by simp, by simp⟩
  | failure f => exact ⟨_, rfl, rfl, by simp [known], flag.symm, by simp, by simp⟩
  | crash m => exact absurd rfl (sound m)

theorem Pool.exists_signerAt? (inside : index < pool.size) : ∃ signer, pool.signerAt? index = some signer :=
  ⟨_, by rw [Pool.signerAt?, List.getElem?_eq_getElem inside]; rfl⟩

theorem Pool.signerAt?_eq_none_iff : pool.signerAt? index = none ↔ pool.size ≤ index := by
  simp [Pool.signerAt?, Pool.size]

theorem Pool.size_eq_of_signerAt? {q : Pool} (same : ∀ index, q.signerAt? index = pool.signerAt? index) :
    q.size = pool.size := by
  apply Nat.le_antisymm
  · have outside := Pool.signerAt?_eq_none_iff.mpr (Nat.le_refl pool.size)
    exact Pool.signerAt?_eq_none_iff.mp ((same _).trans outside)
  · have outside := Pool.signerAt?_eq_none_iff.mpr (Nat.le_refl q.size)
    exact Pool.signerAt?_eq_none_iff.mp ((same _).symm.trans outside)

end Line

namespace Census

/-- What a census comes to: its lines once all are there, unless somebody broke down. -/
def result? (c : Census) : Option (List SignerLine) :=
  match c.crashed with
  | some _ => none
  | none => c.report?

/--
What an event makes of a census with a given number, over a pool: an answer is entered where nothing stands
yet, and all else leaves the census as it is.
-/
inductive Hears (c : Census) (pool : Pool) (number : Nat) : Event → Census → Prop
  | nothing {e} :
      (∀ index reply, e = .answerCensus number index (.number reply) → c.lines[index]? ≠ some none) →
      Hears c pool number e c
  | crash {index m} : c.lines[index]? = some none →
      Hears c pool number (.answerCensus number index (.number (.crash m)))
        { c with crashed := c.crashed.or (some m) }
  | line {index reply l} : c.lines[index]? = some none → l.Describes pool index reply →
      Hears c pool number (.answerCensus number index (.number reply))
        { c with lines := c.lines.set index (some l) }

variable {c : Census} {pool : Pool} {index : Nat} {reply : Reply Word}

theorem mapM_id_eq_some_iff {α : Type} {l : List (Option α)} {xs : List α} :
    l.mapM id = some xs ↔ l = xs.map some := by
  induction l generalizing xs with
  | nil => cases xs <;> simp
  | cons entry rest ih =>
    rw [List.mapM_cons]
    cases entry with
    | none => cases xs <;> simp
    | some x =>
      cases xs with
      | nil => simp [Option.bind_eq_some_iff]
      | cons x' xs =>
        simp [Option.bind_eq_some_iff, ih, and_comm]

theorem result?_eq_some_iff {lines : List SignerLine} :
    c.result? = some lines ↔ c.crashed = none ∧ c.lines = lines.map some := by
  unfold result? report?
  cases c.crashed with
  | none => simp [mapM_id_eq_some_iff]
  | some m => simp

theorem enter_of_filled (filled : c.lines[index]? ≠ some none) : c.enter pool index reply = c := by
  unfold enter
  split
  · exact absurd ‹_› filled
  · exact absurd ‹_› filled
  · rfl

theorem enter_of_sound (blank : c.lines[index]? = some none) (sound : ∀ m, reply ≠ .crash m) :
    c.enter pool index reply = { c with lines := c.lines.set index (pool.line? index reply) } := by
  cases reply with
  | value _ | failure _ => simp [enter, blank]
  | crash m => exact absurd rfl (sound m)

theorem hears_enter (size : c.lines.length = pool.size) (number index : Nat) (reply : Reply Word) :
    c.Hears pool number (.answerCensus number index (.number reply)) (c.enter pool index reply) := by
  by_cases blank : c.lines[index]? = some none
  · by_cases broken : ∃ m, reply = .crash m
    · obtain ⟨m, rfl⟩ := broken
      have entered : c.enter pool index (.crash m) = { c with crashed := c.crashed.or (some m) } := by
        simp [enter, blank]
      rw [entered]
      exact .crash blank
    · obtain ⟨inside, -⟩ := List.getElem?_eq_some_iff.mp blank
      obtain ⟨signer, known⟩ := Pool.exists_signerAt? (size ▸ inside)
      have sound : ∀ m, reply ≠ .crash m := fun m same => broken ⟨m, same⟩
      obtain ⟨l, line, describes⟩ := Pool.exists_line known sound
      rw [enter_of_sound blank sound, line]
      exact .line blank describes
  · rw [enter_of_filled blank]
    refine .nothing fun index' reply' same => ?_
    cases same
    exact blank

end Census

namespace Faucet

section Steps

variable {f : Faucet} {c : Census} {number : Nat}

theorem censuses_writeQuery (f : Faucet) (who : Actor) : (f.writeQuery who).censuses = f.censuses := by
  rw [writeQuery_eq]

theorem censuses_runRequest (f : Faucet) (number : Nat)
    (run : Desk → Request → Progress → Desk × Progress) :
    (f.runRequest number run).censuses = f.censuses := by
  unfold runRequest
  split
  · rfl
  · rw [censuses_writeQuery]

theorem censuses_answerRequest (f : Faucet) (p : Policy) (number : Nat) (a : Answer) :
    (f.answerRequest p number a).censuses = f.censuses := by
  unfold answerRequest
  cases heard : f.hear? (.request number) a with
  | none => rfl
  | some g =>
    obtain ⟨q, -, -, rfl⟩ := hear?_eq_some heard
    exact censuses_runRequest ..

theorem censuses_wakeRequest (f : Faucet) (p : Policy) (number : Nat) :
    (f.wakeRequest p number).censuses = f.censuses := by
  unfold wakeRequest
  split
  · split
    · exact censuses_runRequest ..
    · rfl
  · rfl

theorem censuses_cancelRequest (f : Faucet) (number : Nat) :
    (f.cancelRequest number).censuses = f.censuses := by
  unfold cancelRequest
  split <;> rfl

theorem censuses_wakeWatch (f : Faucet) (p : Policy) (number : Nat) :
    (f.wakeWatch p number).censuses = f.censuses := by
  unfold wakeWatch
  split
  · rfl
  · rw [censuses_writeQuery]

theorem censuses_answerWatch (f : Faucet) (p : Policy) (number : Nat) (a : Answer) :
    (f.answerWatch p number a).censuses = f.censuses := by
  unfold answerWatch
  split
  · rename_i heard
    obtain ⟨q, -, -, rfl⟩ := hear?_eq_some heard
    rfl
  · rfl

theorem censuses_beginCensus (f : Faucet) :
    f.beginCensus.censuses = f.censuses ++ [.start f.desk.pool] := by
  have kept : ∀ (number : Nat) (places : List Nat) (g : Faucet),
      (places.foldl (fun g index => g.writeQuery (.census number index)) g).censuses = g.censuses := by
    intro number places
    induction places with
    | nil => exact fun _ => rfl
    | cons index rest ih => exact fun g => (ih _).trans (censuses_writeQuery ..)
  exact kept ..

theorem query?_census_of_blank {index : Nat} {signer : Signer} (found : f.censuses[number]? = some c)
    (blank : c.lines[index]? = some none) (known : f.desk.pool.signerAt? index = some signer) :
    f.query? (.census number index) = some (.balance signer.address) := by
  obtain ⟨slot, there, rfl⟩ := Option.map_eq_some_iff.mp known
  simp [query?, found, blank, there]

theorem census_answerCensus (found : f.censuses[number]? = some c)
    (size : c.lines.length = f.desk.pool.size) (index : Nat) (reply : Reply Word) :
    (f.answerCensus number index (.number reply)).censuses[number]? =
      some (c.enter f.desk.pool index reply) := by
  unfold answerCensus
  cases heard : f.hear? (.census number index) (.number reply) with
  | some g =>
    obtain ⟨q, -, -, rfl⟩ := hear?_eq_some heard
    simp [found, Desk.write]
  | none =>
    have filled : c.lines[index]? ≠ some none := by
      intro blank
      obtain ⟨inside, -⟩ := List.getElem?_eq_some_iff.mp blank
      obtain ⟨signer, known⟩ := Pool.exists_signerAt? (size ▸ inside)
      have asking := query?_census_of_blank found blank known
      simp [hear?, asking, Query.admits] at heard
    rw [Census.enter_of_filled filled]
    exact found

theorem census_answerCensus_of_ne {other : Nat} (elsewhere : other ≠ number) (index : Nat) (a : Answer) :
    (f.answerCensus other index a).censuses[number]? = f.censuses[number]? := by
  unfold answerCensus
  split
  · rename_i heard
    obtain ⟨q, -, -, rfl⟩ := hear?_eq_some heard
    rw [List.getElem?_modify]
    simp [elsewhere]
  · rfl

/-- Only answers touch the censuses of a faucet, and only a new census adds to them. -/
theorem censuses_step (p : Policy) {e : Event} (begins : e ≠ .census)
    (answers : ∀ number index a, e ≠ .answerCensus number index a) :
    (f.step p e).censuses = f.censuses := by
  cases e with
  | request r =>
    change (f.accept r).censuses = _
    rw [accept_eq]
  | answerRequest number a => exact f.censuses_answerRequest p number a
  | wakeRequest number => exact f.censuses_wakeRequest p number
  | cancelRequest number => exact f.censuses_cancelRequest number
  | wakeWatch number => exact f.censuses_wakeWatch p number
  | answerWatch number a => exact f.censuses_answerWatch p number a
  | census => exact absurd rfl begins
  | answerCensus number index a => exact absurd rfl (answers number index a)
  | stop | pass _ => rfl

theorem census_step (p : Policy) (found : f.censuses[number]? = some c)
    (size : c.lines.length = f.desk.pool.size) (e : Event) :
    ∃ c', (f.step p e).censuses[number]? = some c' ∧ c.Hears f.desk.pool number e c' := by
  by_cases begins : e = .census
  · subst begins
    obtain ⟨there, -⟩ := List.getElem?_eq_some_iff.mp found
    refine ⟨c, ?_, .nothing fun _ _ => Event.noConfusion⟩
    change f.beginCensus.censuses[number]? = _
    rw [censuses_beginCensus, List.getElem?_append_left there]
    exact found
  by_cases answers : ∃ number index a, e = .answerCensus number index a
  · obtain ⟨number', index, a, rfl⟩ := answers
    change ∃ c', (f.answerCensus number' index a).censuses[number]? = some c' ∧ _
    by_cases same : number' = number
    · subst same
      cases a with
      | number reply => exact ⟨_, census_answerCensus found size index reply, Census.hears_enter size ..⟩
      | digest _ | mined _ => exact ⟨c, found, .nothing fun _ _ same => by cases same⟩
    · rw [census_answerCensus_of_ne same]
      refine ⟨c, found, .nothing fun _ _ mine => ?_⟩
      cases mine
      exact absurd rfl same
  · have others : ∀ number index a, e ≠ .answerCensus number index a :=
      fun number index a same => answers ⟨number, index, a, same⟩
    rw [censuses_step p begins others]
    exact ⟨c, found, .nothing fun _ _ same => absurd same (others _ _ _)⟩

end Steps

section Moments

variable {start : Faucet} {p : Policy} {events : List Event} {number n : Nat} {c : Census}

/--
What may stand at a place of a census at a moment: nothing, if nothing was answered for it yet, or else a line
that was right when it was first answered for.
-/
inductive Entered (start : Faucet) (p : Policy) (events : List Event) (number n index : Nat) :
    Option SignerLine → Prop
  | blank : (∀ k < n, ∀ reply, events[k]? ≠ some (.answerCensus number index (.number reply))) →
      Entered start p events number n index none
  | line {k reply l} : FirstAnswer events number index k reply →
      l.Describes (start.after p events k).desk.pool index reply →
      Entered start p events number n index (some l)

/-- What is true of a census at every moment after its begin. -/
structure Counts (start : Faucet) (p : Policy) (events : List Event) (number n : Nat) (c : Census) :
    Prop where
  size : c.lines.length = start.desk.pool.size
  crashed : c.crashed ≠ none → ∃ index < start.desk.pool.size, ∃ k m,
    FirstAnswer events number index k (.crash m)
  entered : c.crashed = none → ∀ index entry, c.lines[index]? = some entry →
    start.Entered p events number n index entry

theorem Entered.succ {index : Nat} {entry : Option SignerLine}
    (h : start.Entered p events number n index entry)
    (untold : ∀ reply, events[n]? ≠ some (.answerCensus number index (.number reply))) :
    start.Entered p events number (n + 1) index entry := by
  cases h with
  | line answered describes => exact .line answered describes
  | blank unanswered =>
    refine .blank fun k before => ?_
    rcases Nat.lt_succ_iff_lt_or_eq.mp before with earlier | rfl
    · exact unanswered k earlier
    · exact untold

theorem Entered.exists_line {index k : Nat} {reply : Reply Word} {entry : Option SignerLine}
    (h : start.Entered p events number events.length index entry)
    (told : FirstAnswer events number index k reply) :
    ∃ l, entry = some l ∧ l.Describes (start.after p events k).desk.pool index reply := by
  cases h with
  | blank unanswered =>
    obtain ⟨before, -⟩ := List.getElem?_eq_some_iff.mp told.told
    exact absurd told.told (unanswered k before reply)
  | line told' describes =>
    obtain ⟨rfl, rfl⟩ := told.unique told'
    exact ⟨_, rfl, describes⟩

theorem size_after (start : Faucet) (p : Policy) (events : List Event) (n : Nat) :
    (start.after p events n).desk.pool.size = start.desk.pool.size :=
  Pool.size_eq_of_signerAt? fun index => signerAt?_run (events.take n) index

theorem Counts.step {c' : Census} (h : start.Counts p events number n c) {e : Event}
    (here : events[n]? = some e)
    (hears : c.Hears (start.after p events n).desk.pool number e c') :
    start.Counts p events number (n + 1) c' := by
  -- The first answer for a place is the one that finds the place blank.
  have first {index reply} (whole : c.crashed = none) (blank : c.lines[index]? = some none)
      (told : e = .answerCensus number index (.number reply)) :
      FirstAnswer events number index n reply := by
    cases h.entered whole index none blank with
    | blank unanswered => exact ⟨told ▸ here, unanswered⟩
  cases hears with
  | nothing filled =>
    refine ⟨h.size, h.crashed, fun whole index entry there => ?_⟩
    cases h.entered whole index entry there with
    | line answered describes => exact .line answered describes
    | blank unanswered =>
      refine Entered.succ (.blank unanswered) fun reply told => ?_
      exact filled index reply (Option.some.inj (here.symm.trans told)) there
  | @crash index m blank =>
    obtain ⟨inside, -⟩ := List.getElem?_eq_some_iff.mp blank
    refine ⟨h.size, fun _ => ?_, fun whole => ?_⟩
    · by_cases whole : c.crashed = none
      · exact ⟨index, h.size ▸ inside, n, m, first whole blank rfl⟩
      · exact h.crashed whole
    · cases crashed : c.crashed <;> simp [crashed] at whole
  | @line index reply l blank describes =>
    obtain ⟨inside, -⟩ := List.getElem?_eq_some_iff.mp blank
    refine ⟨by rw [List.length_set, h.size], h.crashed, fun whole index' entry there => ?_⟩
    by_cases same : index = index'
    · subst same
      obtain rfl : some l = entry := by simpa [inside] using there
      exact .line (first whole blank rfl) describes
    · rw [List.getElem?_set_ne same] at there
      refine (h.entered whole index' entry there).succ fun reply' told => ?_
      cases here.symm.trans told
      exact same rfl

theorem Counts.run (h : start.Counts p events number 0 c) (found : start.censuses[number]? = some c)
    (within : n ≤ events.length) :
    ∃ c', (start.after p events n).censuses[number]? = some c' ∧ start.Counts p events number n c' := by
  induction n with
  | zero => exact ⟨c, found, h⟩
  | succ n ih =>
    obtain ⟨c', there, counts⟩ := ih (by omega)
    obtain ⟨e, here⟩ : ∃ e, events[n]? = some e := ⟨_, List.getElem?_eq_getElem within⟩
    have size : c'.lines.length = (start.after p events n).desk.pool.size :=
      counts.size.trans (start.size_after p events n).symm
    obtain ⟨c'', after, hears⟩ := census_step p there size e
    rw [after_succ here]
    exact ⟨c'', after, counts.step here hears⟩

theorem counts_start (start : Faucet) (p : Policy) (events : List Event) (number : Nat) :
    start.Counts p events number 0 (.start start.desk.pool) := by
  refine ⟨List.length_replicate, fun crashed => absurd rfl crashed, fun _ index entry there => ?_⟩
  obtain ⟨-, rfl⟩ : index < start.desk.pool.size ∧ none = entry := by
    simpa [Census.start, List.getElem?_replicate] using there
  exact .blank fun k before => absurd before (Nat.not_lt_zero k)

/-- A report has a line for every signer, in the order of the pool, each as of its first answer. -/
structure Faithful (start : Faucet) (p : Policy) (events : List Event) (number : Nat)
    (lines : List SignerLine) : Prop where
  size : lines.length = start.desk.pool.size
  line : ∀ index l, lines[index]? = some l → ∃ k reply, FirstAnswer events number index k reply ∧
    l.Describes (start.after p events k).desk.pool index reply

/-- Every signer has been answered for, and who answered first did not break down. -/
def AllAnswered (events : List Event) (number size : Nat) : Prop :=
  ∀ index < size, ∃ k reply, FirstAnswer events number index k reply ∧ ∀ m, reply ≠ .crash m

theorem Counts.whole (h : start.Counts p events number events.length c)
    (answered : AllAnswered events number start.desk.pool.size) : c.crashed = none := by
  by_contra crashed
  obtain ⟨index, inside, k, m, broken⟩ := h.crashed crashed
  obtain ⟨j, reply, told, sound⟩ := answered index inside
  exact sound m (told.unique broken).2.symm

theorem Faithful.allAnswered {lines : List SignerLine} (h : start.Faithful p events number lines) :
    AllAnswered events number start.desk.pool.size := by
  intro index inside
  obtain ⟨k, reply, told, describes⟩ :=
    h.line index _ (List.getElem?_eq_getElem (h.size.symm ▸ inside))
  exact ⟨k, reply, told, describes.sound⟩

theorem Counts.result?_eq_some_iff (h : start.Counts p events number events.length c)
    (lines : List SignerLine) : c.result? = some lines ↔ start.Faithful p events number lines := by
  rw [Census.result?_eq_some_iff]
  constructor
  · rintro ⟨whole, filled⟩
    refine ⟨by rw [← h.size, filled, List.length_map], fun index l there => ?_⟩
    have entry : c.lines[index]? = some (some l) := by simp [filled, there]
    cases h.entered whole index _ entry with
    | line told describes => exact ⟨_, _, told, describes⟩
  · intro faithful
    have whole := h.whole faithful.allAnswered
    refine ⟨whole, List.ext_getElem (by rw [h.size, List.length_map, faithful.size]) ?_⟩
    intro index inside inside'
    rw [List.length_map] at inside'
    obtain ⟨k, reply, told, describes⟩ := faithful.line index _ (List.getElem?_eq_getElem inside')
    obtain ⟨l, entry, describes'⟩ :=
      (h.entered whole index _ (List.getElem?_eq_getElem inside)).exists_line told
    rw [List.getElem_map, entry]
    exact congrArg some (describes.unique describes')

theorem Counts.isSome_result?_iff (h : start.Counts p events number events.length c) :
    (∃ lines, c.result? = some lines) ↔ AllAnswered events number start.desk.pool.size := by
  constructor
  · rintro ⟨lines, result⟩
    exact ((h.result?_eq_some_iff lines).mp result).allAnswered
  · intro answered
    have whole := h.whole answered
    have full : ∀ entry ∈ c.lines, entry ∈ Set.range some := by
      intro entry member
      obtain ⟨index, inside, rfl⟩ := List.mem_iff_getElem.mp member
      obtain ⟨k, reply, told, -⟩ := answered index (h.size ▸ inside)
      obtain ⟨l, entry, -⟩ :=
        (h.entered whole index _ (List.getElem?_eq_getElem inside)).exists_line told
      exact ⟨l, entry.symm⟩
    obtain ⟨lines, filled⟩ : c.lines ∈ Set.range (List.map some) := by
      rw [Set.range_list_map]
      exact full
    exact ⟨lines, Census.result?_eq_some_iff.mpr ⟨whole, filled.symm⟩⟩

end Moments

/-- What a census of a faucet comes to, with any events after its begin. -/
structure TakesCensus (f : Faucet) (p : Policy) (events : List Event) : Prop where
  asks : ∀ index signer, f.desk.pool.signerAt? index = some signer →
    (f.step p .census).query? (.census f.censuses.length index) = some (.balance signer.address)
  report : ∃ c, ((f.step p .census).run p events).censuses[f.censuses.length]? = some c ∧
    (∀ lines, c.result? = some lines ↔ (f.step p .census).Faithful p events f.censuses.length lines) ∧
    ((∃ lines, c.result? = some lines) ↔ AllAnswered events f.censuses.length f.desk.pool.size)
  beginsApart : f.Apart (f.step p .census)
  answersApart : ∀ k number index a, events[k]? = some (.answerCensus number index a) →
    ((f.step p .census).after p events k).Apart ((f.step p .census).after p events (k + 1))

theorem takesCensus (f : Faucet) (p : Policy) (events : List Event) : f.TakesCensus p events := by
  have begun : (f.step p .census).censuses[f.censuses.length]? =
      some (.start (f.step p .census).desk.pool) := by
    change f.beginCensus.censuses[f.censuses.length]? = some (.start f.beginCensus.desk.pool)
    rw [censuses_beginCensus, List.getElem?_concat_length, f.beginCensus_apart.pool]
  have pool : (f.step p .census).desk.pool = f.desk.pool := f.beginCensus_apart.pool
  constructor
  case asks =>
    intro index signer known
    have inside : index < f.desk.pool.size := by
      by_contra outside
      rw [Pool.signerAt?_eq_none_iff.mpr (Nat.le_of_not_lt outside)] at known
      cases known
    refine query?_census_of_blank begun ?_ (pool ▸ known)
    rw [pool]
    simp [Census.start, inside]
  case report =>
    obtain ⟨c, found, counts⟩ :=
      (counts_start (f.step p .census) p events f.censuses.length).run begun (Nat.le_refl events.length)
    rw [after_length] at found
    exact ⟨c, found, counts.result?_eq_some_iff, pool ▸ counts.isSome_result?_iff⟩
  case beginsApart => exact f.beginCensus_apart
  case answersApart =>
    intro k number index a here
    rw [after_succ here]
    exact answerCensus_apart ..

end Faucet

namespace Pages

/-- What a link reads of a node's reply when it asks for the balance of an account. -/
def balanceReply (l : Link) (node : Call → Delivery) (account : Address) : Reply Word :=
  .ofExcept (heard "balance" Json.word? ((node (.balance account .latest)).within l.timeout))

/-- A page with a line for every signer, in the order of the pool, and what the link reads for it. -/
structure Surveyed (l : Link) (pool : Pool) (node : Call → Delivery) (lines : List SignerLine) :
    Prop where
  size : lines.length = pool.size
  line : ∀ index (line : SignerLine), lines[index]? = some line →
    line.Describes pool index (balanceReply l node line.address)

theorem map_some_filterMap {α β : Type} {f : α → Option β} {l : List α}
    (total : ∀ a ∈ l, f a ≠ none) : (l.filterMap f).map some = l.map f := by
  induction l with
  | nil => rfl
  | cons a rest ih =>
    obtain ⟨b, image⟩ := Option.ne_none_iff_exists'.mp (total a List.mem_cons_self)
    rw [List.filterMap_cons_some image, List.map_cons, List.map_cons, image,
      ih fun a' member => total a' (List.mem_cons_of_mem a member)]

theorem exists_surveyLine (l : Link) (node : Call → Delivery) {pool : Pool} {slot : Slot} {index : Nat}
    (there : pool.slots[index]? = some slot) : ∃ line,
    pool.line? index (balanceReply l node slot.signer.address) = some line ∧
      line.Describes pool index (balanceReply l node line.address) := by
  have known : pool.signerAt? index = some slot.signer := by simp [Pool.signerAt?, there]
  have sound : ∀ m, balanceReply l node slot.signer.address ≠ .crash m := by
    intro m
    unfold balanceReply
    cases heard "balance" Json.word? _ <;> simp [Reply.ofExcept]
  obtain ⟨line, entered, describes⟩ := Pool.exists_line known sound
  have address := describes.address
  rw [known] at address
  obtain same : slot.signer.address = line.address := Option.some.inj address
  exact ⟨line, entered, same ▸ describes⟩

theorem surveyed_survey (l : Link) (pool : Pool) (node : Call → Delivery) :
    Surveyed l pool node (survey l pool node) := by
  have total : ∀ place ∈ pool.slots.zipIdx,
      pool.line? place.2 (balanceReply l node place.1.signer.address) ≠ none := by
    rintro ⟨slot, index⟩ member
    obtain ⟨line, entered, -⟩ := exists_surveyLine l node (List.mem_zipIdx_iff_getElem?.mp member)
    exact Option.ne_none_iff_exists'.mpr ⟨line, entered⟩
  have entries : (survey l pool node).map some = pool.slots.zipIdx.map fun place =>
      pool.line? place.2 (balanceReply l node place.1.signer.address) := map_some_filterMap total
  have size : (survey l pool node).length = pool.size := by
    have lengths := congrArg List.length entries
    rwa [List.length_map, List.length_map, List.length_zipIdx] at lengths
  refine ⟨size, fun index line there => ?_⟩
  obtain ⟨inside, -⟩ := List.getElem?_eq_some_iff.mp there
  have place : pool.slots[index]? = some _ := List.getElem?_eq_getElem (Nat.lt_of_lt_of_eq inside size)
  obtain ⟨line', entered, describes⟩ := exists_surveyLine l node place
  have entry := congrArg (·[index]?) entries
  simp only [List.getElem?_map, there, List.getElem?_zipIdx, place, Option.map_some, Nat.zero_add,
    entered, Option.some.injEq] at entry
  rwa [entry]

end Pages

/--
A census asks for the balance of every signer.  Once all are answered for, in whatever order and with whatever
else going on, it comes to one line for each signer in the order of the pool, and each is right as of its own
answer.  No census touches requests, watches, leases, nonce floors or counters.
-/
theorem Faucet.census_faithful (f : Faucet) (p : Policy) (events : List Event) :
    f.TakesCensus p events ∧
      ∀ l pool node, Pages.Surveyed l pool node (Pages.survey l pool node) :=
  ⟨f.takesCensus p events, Pages.surveyed_survey⟩

end GasFaucet
