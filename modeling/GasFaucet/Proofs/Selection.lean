import GasFaucet.Proofs.Deadlines
import GasFaucet.Proofs.Moments
import GasFaucet.Proofs.Searches
import GasFaucet.Proofs.Trials

/-!
# Selection

Which signers a round tries, and how it ends.  A round leases no address twice, and it ends without a result
only when every signer whose address it has not leased is with somebody else.  As long as nobody else takes
or gives back a lease, it goes through the free signers in the order of their places, of each address the
first, up to the one that decides.
-/

namespace GasFaucet

namespace Pool

/-- A free signer whose address no free signer at a smaller place has. -/
structure Foremost (p : Pool) (lease : Lease) : Prop where
  known : p.signerAt? lease.index = some lease.signer
  free : p.isLeased lease.index = false
  first : ∀ {index signer}, p.signerAt? index = some signer → p.isLeased index = false →
    signer.address = lease.signer.address → lease.index ≤ index

/-- Foremost signers in the order of their places, without a gap. -/
structure InOrder (p : Pool) (leases : List Lease) : Prop where
  foremost : ∀ l ∈ leases, p.Foremost l
  sorted : leases.Pairwise (·.index < ·.index)
  whole : ∀ {lease l}, p.Foremost lease → l ∈ leases → lease.index ≤ l.index → lease ∈ leases

variable {p : Pool} {lease lease' : Lease} {leases : List Lease}

theorem Foremost.eq_of_index (h : p.Foremost lease) (h' : p.Foremost lease')
    (place : lease.index = lease'.index) : lease = lease' := by
  have known := h.known
  rw [place, h'.known] at known
  obtain ⟨index, signer⟩ := lease
  obtain ⟨index', signer'⟩ := lease'
  cases known
  cases place
  rfl

theorem Foremost.eq_of_address (h : p.Foremost lease) (h' : p.Foremost lease')
    (same : lease.signer.address = lease'.signer.address) : lease = lease' :=
  h.eq_of_index h' (Nat.le_antisymm (h.first h'.known h'.free same.symm) (h'.first h.known h.free same))

namespace InOrder

theorem nil (p : Pool) : p.InOrder [] where
  foremost := by simp
  sorted := .nil
  whole := by simp

theorem mem_of_address (h : p.InOrder leases) (foremost : p.Foremost lease)
    (member : lease.signer.address ∈ leases.map (·.signer.address)) : lease ∈ leases := by
  obtain ⟨l, there, same⟩ := List.mem_map.mp member
  rw [← (h.foremost l there).eq_of_address foremost same]
  exact there

/-- The first free signer of a new address comes after those before it, with none left out. -/
theorem append (h : p.InOrder leases) (known : p.signerAt? lease.index = some lease.signer)
    (free : p.isLeased lease.index = false)
    (untried : lease.signer.address ∉ leases.map (·.signer.address))
    (least : ∀ {index signer}, p.signerAt? index = some signer → p.isLeased index = false →
      signer.address ∉ leases.map (·.signer.address) → lease.index ≤ index) :
    p.InOrder (leases ++ [lease]) := by
  have foremost : p.Foremost lease := by
    refine ⟨known, free, ?_⟩
    intro index signer known' free' same
    exact least known' free' (by rwa [same])
  constructor
  case foremost =>
    intro l member
    rcases List.mem_append.mp member with earlier | last
    · exact h.foremost l earlier
    · rw [List.mem_singleton.mp last]
      exact foremost
  case sorted =>
    rw [List.pairwise_append]
    refine ⟨h.sorted, List.pairwise_singleton _ _, ?_⟩
    intro l earlier l' last
    rw [List.mem_singleton.mp last]
    by_contra after
    have member := h.whole foremost earlier (Nat.le_of_not_lt after)
    exact untried (List.mem_map_of_mem member)
  case whole =>
    intro lease' l foremost' member below
    rcases List.mem_append.mp member with earlier | last
    · exact List.mem_append_left _ (h.whole foremost' earlier below)
    · rw [List.mem_singleton.mp last] at below
      by_cases had : lease'.signer.address ∈ leases.map (·.signer.address)
      · exact List.mem_append_left _ (h.mem_of_address foremost' had)
      · have place := Nat.le_antisymm below (least foremost'.known foremost'.free had)
        rw [foremost'.eq_of_index foremost place]
        exact List.mem_append_right _ (List.mem_singleton_self _)

/-- A round that looks for another signer goes on in order, from where it has got to. -/
theorem of_picks {q after : Pool} {trials : List Trial} {since : Nat} {progress : Progress}
    (h : p.InOrder (trials.map Trial.lease)) (signer : ∀ index, q.signerAt? index = p.signerAt? index)
    (leased : ∀ index, q.isLeased index = p.isLeased index)
    (picks : q.Picks since (trials.map Trial.account).reverse after progress) :
    p.InOrder ((progress.onTrial trials after).map Trial.lease) ∧
      ∀ index, after.isLeased index = true ↔ p.isLeased index = true ∨
        ∃ lease, progress.keeps? (progress.onTrial trials after) = some lease ∧ lease.index = index := by
  have accounts : (trials.map Trial.lease).map (·.signer.address) = trials.map Trial.account := by
    rw [List.map_map]
    rfl
  cases picks with
  | @leases lease _ known free untried least taken =>
    rw [List.mem_reverse, ← accounts] at untried
    constructor
    · rw [Progress.onTrial, List.map_append]
      apply h.append ((signer _).symm.trans known) ((leased _).symm.trans free) untried
      intro index signer' known' free' new
      refine least ((signer _).trans known') ((leased _).trans free') ?_
      rwa [List.mem_reverse, ← accounts]
    · intro index
      rw [taken]
      change (q.setLeased lease.index true).isLeased index = true ↔ _
      rw [isLeased_setLeased known, leased]
      by_cases place : lease.index = index <;> simp [Progress.keeps?, place]
  | rests nobody | exhausts nobody =>
    refine ⟨h, ?_⟩
    intro index
    rw [leased]
    simp [Progress.keeps?]

end InOrder

end Pool

namespace Faucet

/-- An event by which a request begins a round; its wait counts from `since`. -/
inductive Opens (f : Faucet) (number : Nat) (r : Request) : Event → (since : Nat) → Prop
  | gate {b} : f.requests[number]? = some (r, .gate) → ¬r.cap < b → f.desk.stopped = false →
      Opens f number r (.answerRequest number (.number (.value b))) f.desk.now
  | rest {since wakeAt} : f.requests[number]? = some (r, .resting since wakeAt) →
      wakeAt ≤ f.desk.now → f.desk.stopped = false → Opens f number r (.wakeRequest number) since

/--
The round that a request begins at moment `k`: whom it has tried by a later moment, and how far the request
is then.  The round goes on as long as the request has a signer on lease.
-/
inductive Round (start : Faucet) (p : Policy) (s : Nat → Event) (number : Nat) (r : Request)
    (since k : Nat) : Nat → List Trial → Progress → Prop
  | opens {progress} : (start.along p s k).Opens number r (s k) since →
      (start.along p s (k + 1)).requests[number]? = some (r, progress) →
      Round start p s number r since k (k + 1)
        (progress.onTrial [] (start.along p s (k + 1)).desk.pool) progress
  | waits {j trials accounts lease stage} :
      Round start p s number r since k j trials (.trying since accounts lease stage) →
      (start.along p s j).Still (start.along p s (j + 1)) number (s j) →
      Round start p s number r since k (j + 1) trials (.trying since accounts lease stage)
  | hears {j done t accounts lease stage a out} :
      Round start p s number r since k j (done ++ [t]) (.trying since accounts lease stage) →
      s j = .answerRequest number a →
      start.Turns p s number r (.trying since accounts lease stage) j out →
      Round start p s number r since k (j + 1)
        (out.2.onTrial (done ++ [t.hear a]) (start.along p s (j + 1)).desk.pool) out.2
  | drops {j trials accounts lease stage out} :
      Round start p s number r since k j trials (.trying since accounts lease stage) →
      s j = .cancelRequest number →
      start.Turns p s number r (.trying since accounts lease stage) j out →
      Round start p s number r since k (j + 1) trials out.2

/-- Every signer that a round has not tried is on lease to somebody else. -/
def Elsewhere (f : Faucet) (number : Nat) (trials : List Trial) : Prop :=
  ∀ {index signer}, f.desk.pool.signerAt? index = some signer →
    signer.address ∉ trials.map Trial.account →
    ∃ who lease, f.Holds who lease ∧ lease.index = index ∧ who ≠ .request number

/-- How a round stands: everybody it has tried has declined, but for the last one where that decides. -/
inductive Stands (f : Faucet) (p : Policy) (number : Nat) (r : Request) (since : Nat) :
    List Trial → Progress → Prop
  | goesOn {trials done t stage} : trials = done ++ [t] → (∀ u ∈ done, u.Declined p r) →
      t.turnout? p r = some (.goesOn stage) → f.desk.pool.floor t.lease.index = t.floor →
      Stands f p number r since trials
        (.trying since (trials.map Trial.account).reverse t.lease stage)
  | rests {trials wakeAt} : (∀ u ∈ trials, u.Declined p r) → f.Elsewhere number trials →
      Stands f p number r since trials (.resting since wakeAt)
  | exhausts {trials secs} : (∀ u ∈ trials, u.Declined p r) → f.Elsewhere number trials →
      Stands f p number r since trials (.ended (.failed (.noSignerAvailable secs)))
  | pays {trials done t transfer hash watch} : trials = done ++ [t] → (∀ u ∈ done, u.Declined p r) →
      t.Pays p r transfer hash →
      Stands f p number r since trials (.ended (.inFlight
        ⟨transfer.value, transfer.transaction t.lease hash f.desk.now, watch⟩))
  | fails {trials done t failure} : trials = done ++ [t] → (∀ u ∈ done, u.Declined p r) →
      t.turnout? p r = some (.fails failure) →
      Stands f p number r since trials (.ended (.failed failure))
  | breaks {trials done t m} : trials = done ++ [t] → (∀ u ∈ done, u.Declined p r) →
      t.turnout? p r = some (.breaks m) →
      Stands f p number r since trials (.crashed m (some t.lease))
  | drops {trials done t stage} : trials = done ++ [t] → (∀ u ∈ done, u.Declined p r) →
      t.turnout? p r = some (.goesOn stage) → Stands f p number r since trials .cancelled

variable {f start : Faucet} {p : Policy} {s : Nat → Event} {number : Nat} {r : Request}
variable {since j k : Nat} {trials : List Trial} {progress : Progress} {out : Desk × Progress}

/-- An event that opens a round makes the request look for a signer. -/
theorem Opens.turns (opens : (start.along p s k).Opens number r (s k) since) :
    ∃ before out, start.Turns p s number r before k out ∧ before.lease? = none ∧
      ∃ d : Desk, d.pool = (start.along p s k).desk.pool ∧ d.now = (start.along p s k).desk.now ∧
        Desk.SameTurn out (d.tryNext p since []) := by
  generalize event : s k = e at opens
  cases opens with
  | @gate b found within running =>
    obtain ⟨out, turns⟩ := turns_of_answer found event rfl rfl
    refine ⟨.gate, out, turns, rfl, ?_⟩
    have passed (line : Entry) : ((start.along p s k).desk.write line).passGate p r (.value b) =
        ((start.along p s k).desk.write line).tryNext p (start.along p s k).desk.now [] := by
      simp only [Desk.passGate, within, if_false]
      exact Desk.beginRound_of_running (d := (start.along p s k).desk.write line) running p _
    have strides := turns.strides
    rw [event] at strides
    cases strides with
    | passes reply =>
      rw [passed]
      exact ⟨(start.along p s k).desk.write _, rfl, rfl, .refl _⟩
  | @rest _ wakeAt found due running =>
    obtain ⟨out, turns⟩ := turns_of_wake found event rfl due
    refine ⟨_, out, turns, rfl, (start.along p s k).desk, rfl, rfl, ?_⟩
    have strides := turns.strides
    rw [event] at strides
    cases strides with
    | wakes _ =>
      rw [Desk.beginRound_of_running running]
      exact .refl _

theorem elsewhere_of_nobody (lends : f.Lends) (found : f.requests[number]? = some (r, progress))
    (idle : progress.lease? = none)
    (nobody : ∀ {index signer}, f.desk.pool.signerAt? index = some signer →
      signer.address ∉ trials.map Trial.account → f.desk.pool.isLeased index = true) :
    f.Elsewhere number trials := by
  intro index signer known untried
  obtain ⟨who, lease, held, place⟩ := (lends.lent.leased_iff index).mp (nobody known untried)
  refine ⟨who, lease, holds_iff.mpr held, place, ?_⟩
  rintro rfl
  cases held.symm.trans ((leaseOf?_request found).trans idle)

theorem Stands.of_picks (lends : f.Lends) (found : f.requests[number]? = some (r, progress))
    {before : Pool} (picks : before.Picks since (trials.map Trial.account).reverse f.desk.pool progress)
    (declined : ∀ u ∈ trials, u.Declined p r) :
    f.Stands p number r since (progress.onTrial trials f.desk.pool) progress := by
  generalize reached : f.desk.pool = pool at picks
  cases picks with
  | @leases lease _ known free untried least leased =>
    let t : Trial := ⟨lease, pool.floor lease.index, []⟩
    have accounts : lease.signer.address :: (trials.map Trial.account).reverse =
        ((trials ++ [t]).map Trial.account).reverse := by
      simp [t, Trial.account]
    rw [accounts]
    exact .goesOn (t := t) rfl declined rfl (by rw [reached])
  | rests nobody =>
    refine .rests declined (elsewhere_of_nobody lends found rfl ?_)
    intro index signer known untried
    rw [reached] at known ⊢
    exact nobody known fun member => untried (List.mem_reverse.mp member)
  | exhausts nobody =>
    refine .exhausts declined (elsewhere_of_nobody lends found rfl ?_)
    intro index signer known untried
    rw [reached] at known ⊢
    exact nobody known fun member => untried (List.mem_reverse.mp member)

theorem Round.found (round : start.Round p s number r since k j trials progress) :
    (start.along p s j).requests[number]? = some (r, progress) := by
  induction round with
  | opens _ found => exact found
  | waits _ still ih => exact still.requests.trans ih
  | hears _ _ turns | drops _ _ turns => exact turns.found_after

theorem Trial.declined_append {done : List Trial} {t : Trial} (declined : ∀ u ∈ done, u.Declined p r)
    (last : t.Declined p r) : ∀ u ∈ done ++ [t], u.Declined p r := by
  intro u member
  rcases List.mem_append.mp member with earlier | same
  · exact declined u earlier
  · rw [List.mem_singleton.mp same]
    exact last

theorem Trial.map_account_hear (done : List Trial) (t : Trial) (a : Answer) :
    (done ++ [t.hear a]).map Trial.account = (done ++ [t]).map Trial.account := by
  simp [Trial.account, Trial.hear]

/-- How every round stands, whatever the others and the node do. -/
theorem Round.stands (initial : start.Initial)
    (round : start.Round p s number r since k j trials progress) :
    (start.along p s j).Stands p number r since trials progress := by
  induction round with
  | opens opening found =>
    obtain ⟨before, out, turns, -, d, -, -, same⟩ := opening.turns
    cases found.symm.trans turns.found_after
    have picks := same.picks
    rw [← turns.pool_after] at picks
    exact .of_picks (initial.lends_along p s _) found picks (by simp)
  | @waits j _ _ _ _ before still ih =>
    cases ih with
    | goesOn split declined going floor =>
      refine .goesOn split declined going ?_
      have stays := still.requests.trans before.found
      rw [← floor]
      exact floor_step_of_retains (initial.lends_along p s j) before.found stays
  | @hears j done t accounts lease stage a out before event turns ih =>
    cases ih with
    | goesOn split declined going floor =>
      obtain ⟨rfl, rfl⟩ := List.append_singleton_inj.mp split
      have heard := Trial.turnout?_hear going a
      rw [← floor] at heard
      have accounts := Trial.map_account_hear done t a
      have proceeds := turns.strides.proceeds
      rw [event] at proceeds
      cases proceeds with
      | looks d looks _ vacated same =>
        cases looks with
        | passes passed =>
          have picks := same.picks
          rw [← turns.pool_after, ← accounts] at picks
          have last : (t.hear a).Declined p r := ⟨_, heard.trans passed⟩
          exact .of_picks (initial.lends_along p s _) turns.found_after picks
            (Trial.declined_append declined last)
      | closes idle _ _ _ => cases idle
      | advances advanced pool reached =>
        have further := (Stage.advances_of_goesOn advanced).ne_balance
        rw [reached, Progress.onTrial_of_advanced further, ← accounts]
        refine .goesOn (t := t.hear a) rfl declined (heard.trans advanced) ?_
        rw [turns.pool_after, pool]
        exact floor
      | sends sent _ reached =>
        have now := turns.coeval.now
        have pays := Trial.turnout?_eq_sent_iff.mp (heard.trans sent)
        rw [reached, ← now]
        exact .pays (t := t.hear a) rfl declined pays
      | fails failed _ reached =>
        rw [reached]
        exact .fails rfl declined (heard.trans failed)
      | breaks broke _ reached =>
        rw [reached]
        exact .breaks (t := t.hear a) rfl declined (heard.trans broke)
  | @drops j trials accounts lease stage out before event turns ih =>
    cases ih with
    | goesOn split declined going floor =>
      have proceeds := turns.strides.proceeds
      rw [event] at proceeds
      cases proceeds with
      | looks _ looks _ _ _ => cases looks
      | closes idle _ _ _ => cases idle
      | drops _ reached =>
        rw [reached]
        exact .drops split declined going

theorem Round.drawn {accounts : List Address} (initial : start.Initial) (draws : start.Draws accounts)
    (round : start.Round p s number r since k j trials progress) :
    Drawn accounts (trials.map Trial.account).reverse := by
  have leased {j trials progress} (round : start.Round p s number r since k j trials progress)
      {since' : Nat} {accounts' : List Address} {lease : Lease} {stage : Stage}
      (trying : progress = .trying since' accounts' lease stage) :
      Drawn accounts (trials.map Trial.account).reverse := by
    subst trying
    have found := round.found
    cases round.stands initial with
    | goesOn _ _ _ _ => exact (draws.along p s j).drawn found
  induction round with
  | @opens progress opening found =>
    cases progress with
    | trying _ _ _ _ => exact leased (.opens opening found) rfl
    | gate | resting _ _ | ended _ | crashed _ _ | cancelled => exact .nil accounts
  | waits _ _ ih | drops _ _ _ ih => exact ih
  | @hears _ done t _ _ _ a out before event turns ih =>
    cases reached : out.2 with
    | trying _ _ _ _ =>
      rw [← reached]
      exact leased (.hears before event turns) reached
    | gate | resting _ _ | ended _ | crashed _ _ | cancelled =>
      rw [Progress.onTrial_of_idle rfl, Trial.map_account_hear]
      exact ih

theorem Stands.turned (stands : f.Stands p number r since trials progress) :
    ∀ t ∈ trials, ∃ turnout, t.turnout? p r = some turnout := by
  have all {done : List Trial} {t : Trial} {turnout : Turnout} (declined : ∀ u ∈ done, u.Declined p r)
      (last : t.turnout? p r = some turnout) :
      ∀ u ∈ done ++ [t], ∃ turnout, u.turnout? p r = some turnout := by
    intro u member
    rcases List.mem_append.mp member with earlier | same
    · obtain ⟨reason, passed⟩ := declined u earlier
      exact ⟨_, passed⟩
    · rw [List.mem_singleton.mp same]
      exact ⟨turnout, last⟩
  cases stands with
  | goesOn split declined last _ | fails split declined last | breaks split declined last
  | drops split declined last =>
    rw [split]
    exact all declined last
  | pays split declined pays =>
    rw [split]
    exact all declined (Trial.turnout?_eq_sent_iff.mpr pays)
  | rests declined _ | exhausts declined _ =>
    intro t member
    obtain ⟨reason, passed⟩ := declined t member
    exact ⟨_, passed⟩

/-- Nobody else takes or gives back a lease after an event up to a moment. -/
def Undisturbed (start : Faucet) (p : Policy) (s : Nat → Event) (number k j : Nat) : Prop :=
  ∀ m, k < m → m < j → (start.along p s m).mover? (s m) ≠ some number →
    ∀ index, (start.along p s (m + 1)).desk.pool.isLeased index =
      (start.along p s m).desk.pool.isLeased index

theorem signerAt?_along (start : Faucet) (p : Policy) (s : Nat → Event) (k index : Nat) :
    (start.along p s k).desk.pool.signerAt? index = start.desk.pool.signerAt? index := by
  rw [along_eq_run]
  exact signerAt?_run _ index

theorem Round.later (round : start.Round p s number r since k j trials progress) : k < j := by
  induction round with
  | opens _ _ => exact Nat.lt_succ_self k
  | waits _ _ ih | hears _ _ _ ih | drops _ _ _ ih => exact Nat.lt_succ_of_lt ih

theorem Undisturbed.upTo {i : Nat} (calm : start.Undisturbed p s number k j) (before : i ≤ j) :
    start.Undisturbed p s number k i :=
  fun m later earlier => calm m later (Nat.lt_of_lt_of_le earlier before)

theorem Pool.isLeased_release {before now : Pool} {lease : Lease} (foremost : before.Foremost lease)
    (signer : ∀ index, now.signerAt? index = before.signerAt? index)
    (leased : ∀ index, now.isLeased index = true ↔
      before.isLeased index = true ∨ ∃ l, some lease = some l ∧ l.index = index) (index : Nat) :
    (now.release lease).isLeased index = before.isLeased index := by
  change (now.setLeased lease.index false).isLeased index = _
  rw [Pool.isLeased_setLeased ((signer _).trans foremost.known)]
  split
  · rename_i place
    rw [← place, foremost.free]
  · rename_i apart
    have same : now.isLeased index = true ↔ before.isLeased index = true := by
      simpa [apart] using leased index
    exact Bool.eq_iff_iff.mpr same

/-- What an undisturbed round has leased, and what is still on lease, in terms of the pool as it began. -/
theorem Round.inOrder (initial : start.Initial)
    (round : start.Round p s number r since k j trials progress)
    (calm : start.Undisturbed p s number k j) :
    (start.along p s k).desk.pool.InOrder (trials.map Trial.lease) ∧
      ∀ index, (start.along p s j).desk.pool.isLeased index = true ↔
        (start.along p s k).desk.pool.isLeased index = true ∨
          ∃ lease, progress.keeps? trials = some lease ∧ lease.index = index := by
  have signer (m n index : Nat) : (start.along p s m).desk.pool.signerAt? index =
      (start.along p s n).desk.pool.signerAt? index := by
    rw [signerAt?_along, signerAt?_along]
  induction round with
  | opens opening found =>
    obtain ⟨before, out, turns, -, d, pool, -, same⟩ := opening.turns
    cases found.symm.trans turns.found_after
    have picks := same.picks
    rw [← turns.pool_after, pool] at picks
    have nobody : (start.along p s k).desk.pool.InOrder (([] : List Trial).map Trial.lease) := .nil _
    exact nobody.of_picks (fun _ => rfl) (fun _ => rfl) picks
  | @waits j _ _ _ _ before still ih =>
    obtain ⟨order, leased⟩ := ih (calm.upTo (Nat.le_succ j))
    refine ⟨order, ?_⟩
    intro index
    rw [← leased index]
    by_cases own : (start.along p s j).mover? (s j) = some number
    · rw [still.pool own]
    · rw [calm j before.later (Nat.lt_succ_self j) own index]
  | @hears j done t accounts lease stage a out before event turns ih =>
    obtain ⟨order, leased⟩ := ih (calm.upTo (Nat.le_succ j))
    have leases : (done ++ [t.hear a]).map Trial.lease = (done ++ [t]).map Trial.lease := by
      simp [Trial.hear]
    have proceeds := turns.strides.proceeds
    rw [event] at proceeds
    cases before.stands initial with
    | goesOn split declined going floor =>
      obtain ⟨rfl, rfl⟩ := List.append_singleton_inj.mp split
      have foremost := order.foremost t.lease (by simp)
      have given := Pool.isLeased_release foremost (signer j k) leased
      cases proceeds with
      | looks d looks _ vacated same =>
        cases looks with
        | passes passed =>
          have picks := same.picks
          rw [← turns.pool_after, vacated, ← Trial.map_account_hear] at picks
          rw [← leases] at order
          refine order.of_picks ?_ given picks
          intro index
          exact (Pool.signerAt?_setLeased _ _ _ _).trans (signer j k index)
      | closes idle _ _ _ => cases idle
      | advances advanced pool reached =>
        have further := (Stage.advances_of_goesOn advanced).ne_balance
        rw [reached, Progress.onTrial_of_advanced further, leases, turns.pool_after, pool]
        exact ⟨order, leased⟩
      | sends sent pool reached =>
        rw [reached, Progress.onTrial_of_idle rfl, leases, turns.pool_after, pool]
        refine ⟨order, ?_⟩
        intro index
        rw [Pool.isLeased_modifyFloor, leased index]
        simp [Progress.keeps?, Trial.hear]
      | fails failed pool reached =>
        rw [reached, Progress.onTrial_of_idle rfl, leases, turns.pool_after, pool]
        refine ⟨order, ?_⟩
        intro index
        rw [given]
        simp [Progress.keeps?]
      | breaks broke pool reached =>
        rw [reached, Progress.onTrial_of_idle rfl, leases, turns.pool_after, pool]
        refine ⟨order, ?_⟩
        intro index
        rw [given]
        simp [Progress.keeps?]
  | @drops j trials accounts lease stage out before event turns ih =>
    obtain ⟨order, leased⟩ := ih (calm.upTo (Nat.le_succ j))
    have proceeds := turns.strides.proceeds
    rw [event] at proceeds
    cases before.stands initial with
    | @goesOn done t _ split declined going floor =>
      have foremost := order.foremost t.lease (by simp [split])
      have given := Pool.isLeased_release foremost (signer j k) leased
      cases proceeds with
      | looks _ looks _ _ _ => cases looks
      | closes idle _ _ _ => cases idle
      | drops pool reached =>
        refine ⟨order, ?_⟩
        intro index
        rw [reached, turns.pool_after, pool, given]
        simp [Progress.keeps?]

section Turns

variable (initial : start.Initial) (turns : start.Turns p s number r progress j out)
variable (under : ∀ since accounts lease stage, progress = .trying since accounts lease stage →
  ∃ k trials, start.Round p s number r since k j trials progress)
include initial turns under

theorem Turns.round_of_answer {accounts : List Address} {lease : Lease} {stage : Stage} {a : Answer}
    (trying : progress = .trying since accounts lease stage) (event : s j = .answerRequest number a) :
    ∃ k trials, start.Round p s number r since k (j + 1) trials out.2 := by
  obtain ⟨k, trials, round⟩ := under since accounts lease stage trying
  subst trying
  cases round.stands initial with
  | goesOn split _ _ _ =>
    subst split
    exact ⟨k, _, .hears round event turns⟩

theorem Turns.round_of_looks {tried : List Address}
    (looks : (start.along p s j).desk.Looks p number r (s j) progress since tried) :
    ∃ k trials, start.Round p s number r since k (j + 1) trials out.2 := by
  generalize event : s j = e at looks
  cases looks with
  | opens within running =>
    have opening := Opens.gate turns.found within running
    rw [← event] at opening
    exact ⟨j, _, .opens opening turns.found_after⟩
  | renews due running =>
    have opening := Opens.rest turns.found due running
    rw [← event] at opening
    exact ⟨j, _, .opens opening turns.found_after⟩
  | passes _ => exact turns.round_of_answer initial under rfl event

/-- A request that strides on is over without a round, or in the midst or at the end of one. -/
theorem Turns.round :
    (∃ since k trials, start.Round p s number r since k (j + 1) trials out.2) ∨
      progress.lease? = none ∧ out.2.isOver = true := by
  have proceeds := turns.strides.proceeds
  generalize event : s j = e at proceeds
  cases proceeds with
  | looks _ looks _ _ _ =>
    rw [← event] at looks
    exact .inl ⟨_, turns.round_of_looks initial under looks⟩
  | closes idle _ finished _ => exact .inr ⟨idle, finished⟩
  | advances _ _ _ | sends _ _ _ | fails _ _ _ | breaks _ _ _ =>
    exact .inl ⟨_, turns.round_of_answer initial under rfl event⟩
  | drops _ _ =>
    obtain ⟨k, trials, round⟩ := under _ _ _ _ rfl
    exact .inl ⟨_, k, trials, .drops round event turns⟩

end Turns

theorem exists_round (initial : start.Initial) {accounts : List Address} {lease : Lease} {stage : Stage}
    (found : (start.along p s j).requests[number]? = some (r, .trying since accounts lease stage)) :
    ∃ k trials, start.Round p s number r since k j trials (.trying since accounts lease stage) := by
  induction j generalizing since accounts lease stage with
  | zero =>
    rw [along, initial.idle] at found
    cases found
  | succ j ih =>
    have changed := (start.along p s j).change_step p (s j)
    cases before : (start.along p s j).requests[number]? with
    | none =>
      rcases changed.request found with stays | begins | ⟨_, _, there, _, _⟩
      · cases before.symm.trans stays
      · cases begins
      · cases before.symm.trans there
    | some entry =>
      obtain ⟨r', progress⟩ := entry
      rcases changed.still_or_strides before with still | ⟨out, strides, result⟩
      · have stays := still.requests.symm.trans found
        obtain ⟨k, trials, round⟩ := ih stays
        exact ⟨k, trials, .waits round still⟩
      · have turns : start.Turns p s number r' progress j out := ⟨before, strides, result⟩
        obtain ⟨rfl, reached⟩ := Prod.mk.inj (Option.some.inj (turns.found_after.symm.trans found))
        have under : ∀ since accounts lease stage, progress = .trying since accounts lease stage →
            ∃ k trials, start.Round p s number r' since k j trials progress := by
          rintro since accounts lease stage rfl
          exact ih before
        rcases turns.round initial under with ⟨since', k, trials, round⟩ | ⟨-, finished⟩
        · rw [reached] at round
          cases round.stands initial with
          | goesOn _ _ _ _ => exact ⟨k, trials, round⟩
        · rw [reached] at finished
          cases finished

theorem Stands.mem_of_keeps (stands : f.Stands p number r since trials progress) {lease : Lease}
    (keeps : progress.keeps? trials = some lease) : ∃ t ∈ trials, t.lease = lease := by
  cases stands with
  | @goesOn done t _ split _ _ _ =>
    cases keeps
    exact ⟨t, by simp [split], rfl⟩
  | @pays done t _ _ _ split _ _ =>
    refine ⟨t, by simp [split], ?_⟩
    simpa [Progress.keeps?, split] using keeps
  | rests _ _ | exhausts _ _ | fails _ _ _ | breaks _ _ _ | drops _ _ _ => cases keeps

/-- Where everybody has declined, nobody is on lease, and everybody who has not been tried is elsewhere. -/
theorem Stands.elsewhere (stands : f.Stands p number r since trials progress)
    (declined : ∀ t ∈ trials, t.Declined p r) :
    progress.keeps? trials = none ∧ f.Elsewhere number trials := by
  have decided {done : List Trial} {t : Trial} {turnout : Turnout} (split : trials = done ++ [t])
      (last : t.turnout? p r = some turnout) : ∃ reason, turnout = .passedOver reason := by
    obtain ⟨reason, passed⟩ := declined t (by simp [split])
    exact ⟨reason, Option.some.inj (last.symm.trans passed)⟩
  cases stands with
  | rests _ elsewhere | exhausts _ elsewhere => exact ⟨rfl, elsewhere⟩
  | goesOn split _ last _ | fails split _ last | breaks split _ last | drops split _ last =>
    obtain ⟨reason, impossible⟩ := decided split last
    cases impossible
  | pays split _ pays =>
    obtain ⟨reason, impossible⟩ := decided split (Trial.turnout?_eq_sent_iff.mpr pays)
    cases impossible

/-- A signer that can pay, and whose transfer the node takes, ends its round. -/
theorem Stands.pays_of_mem (stands : f.Stands p number r since trials progress) {t : Trial}
    (member : t ∈ trials) {transfer : SignedTransfer} {hash : Digest} (pays : t.Pays p r transfer hash) :
    ∃ watch, progress = .ended (.inFlight
      ⟨transfer.value, transfer.transaction t.lease hash f.desk.now, watch⟩) := by
  have sent := Trial.turnout?_eq_sent_iff.mpr pays
  have last {done : List Trial} {u : Trial} (split : trials = done ++ [u])
      (declined : ∀ u ∈ done, u.Declined p r) : t = u := by
    rw [split] at member
    rcases List.mem_append.mp member with earlier | same
    · exact absurd pays ((declined t earlier).not_pays transfer hash)
    · exact List.mem_singleton.mp same
  cases stands with
  | rests declined _ | exhausts declined _ => exact absurd pays ((declined t member).not_pays transfer hash)
  | goesOn split declined turned _ | fails split declined turned | breaks split declined turned
  | drops split declined turned =>
    rw [← last split declined, sent] at turned
    cases turned
  | pays split declined pays' =>
    obtain rfl := last split declined
    cases sent.symm.trans (Trial.turnout?_eq_sent_iff.mpr pays')
    exact ⟨_, rfl⟩

/--
What an undisturbed round has tried, in terms of the pool as it was when the round began: of the free signers
the first of each address, in the order of their places and without a gap.
-/
structure Sweeps (before now : Pool) (p : Policy) (r : Request) (trials : List Trial)
    (progress : Progress) : Prop where
  foremost : ∀ t ∈ trials, before.Foremost t.lease
  sorted : trials.Pairwise fun t u => t.lease.index < u.lease.index
  whole : ∀ {lease t}, before.Foremost lease → t ∈ trials → lease.index ≤ t.lease.index →
    ∃ u ∈ trials, u.lease = lease
  exhausted : (∀ t ∈ trials, t.Declined p r) → ∀ {lease}, before.Foremost lease →
    ∃ t ∈ trials, t.lease = lease
  freed : ∀ t ∈ trials, progress.keeps? trials ≠ some t.lease → now.isLeased t.lease.index = false
  untouched : ∀ {index}, (∀ t ∈ trials, t.lease.index ≠ index) →
    now.isLeased index = before.isLeased index

theorem Round.sweeps (initial : start.Initial)
    (round : start.Round p s number r since k j trials progress)
    (calm : start.Undisturbed p s number k j) :
    Sweeps (start.along p s k).desk.pool (start.along p s j).desk.pool p r trials progress := by
  obtain ⟨order, leased⟩ := round.inOrder initial calm
  have stands := round.stands initial
  constructor
  case foremost =>
    intro t member
    exact order.foremost _ (List.mem_map_of_mem member)
  case sorted =>
    have sorted := order.sorted
    rwa [List.pairwise_map] at sorted
  case whole =>
    intro lease t foremost member below
    exact List.mem_map.mp (order.whole foremost (List.mem_map_of_mem member) below)
  case exhausted =>
    intro declined lease foremost
    obtain ⟨nothing, elsewhere⟩ := stands.elsewhere declined
    apply List.mem_map.mp
    apply order.mem_of_address foremost
    by_contra untried
    rw [List.map_map] at untried
    have known := foremost.known
    rw [signerAt?_along, ← signerAt?_along start p s j] at known
    obtain ⟨who, lease', held, place, -⟩ := elsewhere known untried
    have now := (initial.lends_along p s j).lent.isLeased (holds_iff.mp held)
    rw [place, leased, nothing, foremost.free] at now
    simp at now
  case freed =>
    intro t member other
    have foremost := order.foremost _ (List.mem_map_of_mem member)
    apply Bool.eq_false_iff.mpr
    intro still
    rcases (leased _).mp still with before | ⟨lease, keeps, place⟩
    · rw [foremost.free] at before
      cases before
    · obtain ⟨u, there, rfl⟩ := stands.mem_of_keeps keeps
      have same := (order.foremost _ (List.mem_map_of_mem there)).eq_of_index foremost place
      exact other (keeps.trans (congrArg some same))
  case untouched =>
    intro index others
    apply Bool.eq_iff_iff.mpr
    rw [leased index]
    constructor
    · rintro (before | ⟨lease, keeps, place⟩)
      · exact before
      · obtain ⟨u, there, rfl⟩ := stands.mem_of_keeps keeps
        exact absurd place (others u there)
    · exact .inl

/--
Every stride leaves a request in a round or over without one.  A round leases no address twice, and it stands
as its last trial decides; and if nobody disturbs it, it has gone through the free signers in order.
-/
theorem round_selects (signers : List Signer) (p : Policy) (s : Nat → Event) :
    let start := fresh (.ofSigners signers)
    (∀ {number r progress j out}, start.Turns p s number r progress j out →
      (∃ since k trials, start.Round p s number r since k (j + 1) trials out.2) ∨
        progress.lease? = none ∧ out.2.isOver = true) ∧
    ∀ {number r since k j trials progress}, start.Round p s number r since k j trials progress →
      (trials.map Trial.account).Nodup ∧ trials.length ≤ signers.length ∧
      (∀ t ∈ trials, t.answers.length ≤ 4) ∧
      (start.along p s j).Stands p number r since trials progress ∧
      (∀ t ∈ trials, ∀ transfer hash, t.Pays p r transfer hash → ∃ watch, progress = .ended (.inFlight
        ⟨transfer.value, transfer.transaction t.lease hash (start.along p s j).desk.now, watch⟩)) ∧
      (start.Undisturbed p s number k j →
        Sweeps (start.along p s k).desk.pool (start.along p s j).desk.pool p r trials progress) := by
  intro start
  have initial : start.Initial := initial_fresh signers
  constructor
  · intro number r progress j out turns
    have under : ∀ since accounts lease stage, progress = .trying since accounts lease stage →
        ∃ k trials, start.Round p s number r since k j trials progress := by
      rintro since accounts lease stage rfl
      exact exists_round initial turns.found
    exact turns.round initial under
  · intro number r since k j trials progress round
    have drawn := round.drawn initial (draws_fresh signers)
    have stands := round.stands initial
    refine ⟨(List.reverse_perm _).nodup_iff.mp drawn.once, ?_, ?_, stands,
      fun t member transfer hash => stands.pays_of_mem member, round.sweeps initial⟩
    · have few := drawn.length_le
      rwa [List.length_reverse, List.length_map, List.length_map] at few
    · intro t member
      obtain ⟨turnout, turned⟩ := stands.turned t member
      exact (Trial.length_answers_le turned).1

section Instances

theorem Round.hears_of_found {done : List Trial} {t : Trial} {accounts : List Address} {lease : Lease}
    {stage : Stage} {q : Query} {a : Answer}
    (round : start.Round p s number r since k j (done ++ [t]) (.trying since accounts lease stage))
    (event : s j = .answerRequest number a)
    (asking : (Progress.trying since accounts lease stage).query? r = some q) (admitted : q.admits a = true)
    (found : (start.along p s (j + 1)).requests[number]? = some (r, progress)) :
    start.Round p s number r since k (j + 1)
      (progress.onTrial (done ++ [t.hear a]) (start.along p s (j + 1)).desk.pool) progress := by
  obtain ⟨out, turns⟩ := turns_of_answer round.found event asking admitted
  cases found.symm.trans turns.found_after
  exact .hears round event turns

namespace Twins

def request : Request :=
  ⟨⟨0⟩, 5, 0⟩

def policy : Policy :=
  ⟨31337, ⟨none, 1⟩, ⟨5000, 5000, none, none, 7, transferGas⟩⟩

def schedule : Nat → Event
  | 0 => .request request
  | 1 | 2 => .answerRequest 0 (.number (.value 0))
  | _ => .pass 0

/-- A signer with enough is asked for its nonce at once, for the gas price is fixed. -/
def fixedPolicy : Policy :=
  ⟨31337, ⟨some 1, 1⟩, ⟨5000, 5000, none, none, 7, transferGas⟩⟩

def nonceSchedule : Nat → Event
  | 0 => .request request
  | 1 | 3 => .answerRequest 0 (.number (.value 0))
  | 2 => .answerRequest 0 (.number (.value 100))
  | _ => .pass 0

variable (signer other : Signer)

def faucet : Faucet :=
  fresh (.ofSigners [signer, signer])

/-- The first of two accounts has sent a transfer with the largest nonce. -/
def spentFaucet : Faucet :=
  fresh ((Pool.ofSigners [signer, other]).modifyFloor 0 (·.record (BitVec.allOnes 256)))

def trial (floor : NonceFloor) (answers : List Answer) : Trial :=
  ⟨⟨0, signer⟩, floor, answers⟩

theorem rests : ∃ wakeAt, (faucet signer).Round policy schedule 0 request 0 1 3
    [trial signer .clear [.number (.value 0)]] (.resting 0 wakeAt) := by
  have opening : ((faucet signer).along policy schedule 1).Opens 0 request (schedule 1) 0 :=
    .gate (b := 0) rfl (by decide) rfl
  have leased : (faucet signer).Round policy schedule 0 request 0 1 2 ([] ++ [trial signer .clear []])
      (.trying 0 [signer.address] ⟨0, signer⟩ .balance) := .opens opening rfl
  obtain ⟨out, turns⟩ := turns_of_answer leased.found (by rfl : schedule 2 = _) rfl rfl
  have rests : ∃ wakeAt, out.2 = .resting 0 wakeAt := by
    have leads := turns.strides.leads
    rw [show schedule 2 = .answerRequest 0 (.number (.value 0)) from rfl] at leads
    generalize out.2 = next at leads
    cases leads with
    | advances further =>
      cases further with
      | funded enough _ => exact absurd enough (by decide)
    | passes searched =>
      cases searched with
      | leases known untried =>
        have drawn := (draws_fresh [signer, signer]).along policy schedule 2
        have account := drawn.belong known
        simp_all
      | rests _ => exact ⟨_, rfl⟩
      | exhausts limited _ => cases limited
    | fails _ reported => rcases reported with impossible | impossible <;> cases impossible
    | breaks breaking => cases breaking
  obtain ⟨wakeAt, reached⟩ := rests
  have found := turns.found_after
  rw [reached] at found
  exact ⟨wakeAt, leased.hears_of_found rfl rfl rfl found⟩

theorem breaks : ∃ floor, (spentFaucet signer other).Round fixedPolicy nonceSchedule 0 request 0 1 4
    [trial signer floor [.number (.value 100), .number (.value 0)]]
    (.crashed overflowMessage (some ⟨0, signer⟩)) := by
  have opening : ((spentFaucet signer other).along fixedPolicy nonceSchedule 1).Opens 0 request
      (nonceSchedule 1) 0 := .gate (b := 0) rfl (by decide) rfl
  have leased : (spentFaucet signer other).Round fixedPolicy nonceSchedule 0 request 0 1 2
      ([] ++ [trial signer _ []]) (.trying 0 [signer.address] ⟨0, signer⟩ .balance) := .opens opening rfl
  have funded : (spentFaucet signer other).Round fixedPolicy nonceSchedule 0 request 0 1 3
      ([] ++ [trial signer _ [.number (.value 100)]])
      (.trying 0 [signer.address] ⟨0, signer⟩ (.nonce 1)) := leased.hears_of_found rfl rfl rfl rfl
  exact ⟨_, funded.hears_of_found rfl rfl rfl rfl⟩

end Twins

/--
Not every free signer is tried before a round rests: of two places with one account only the first is.  Nor
does a round always come to a signer that could pay, or fail: an earlier attempt may break down.
-/
theorem round_passes_over_free_signer :
    let signer : Signer := ⟨.ofKey ⟨1, by decide, by decide⟩, 31337⟩
    let other : Signer := ⟨.ofKey ⟨2, by decide, by decide⟩, 31337⟩
    (∃ trials wakeAt,
      (Twins.faucet signer).Round Twins.policy Twins.schedule 0 Twins.request 0 1 3 trials
        (.resting 0 wakeAt) ∧
      (Twins.faucet signer).Undisturbed Twins.policy Twins.schedule 0 1 3 ∧
      ((Twins.faucet signer).along Twins.policy Twins.schedule 1).desk.pool.signerAt? 1 = some signer ∧
      ((Twins.faucet signer).along Twins.policy Twins.schedule 1).desk.pool.isLeased 1 = false ∧
      ∀ t ∈ trials, t.lease.index ≠ 1) ∧
    ∃ trials m held,
      (Twins.spentFaucet signer other).Round Twins.fixedPolicy Twins.nonceSchedule 0 Twins.request 0 1 4
        trials (.crashed m held) ∧
      (Twins.spentFaucet signer other).Undisturbed Twins.fixedPolicy Twins.nonceSchedule 0 1 4 ∧
      ((Twins.spentFaucet signer other).along Twins.fixedPolicy Twins.nonceSchedule 1).desk.pool.isLeased 1 =
        false ∧
      ∀ t ∈ trials, t.lease.index ≠ 1 := by
  intro signer other
  obtain ⟨wakeAt, rests⟩ := Twins.rests signer
  obtain ⟨floor, breaks⟩ := Twins.breaks signer other
  refine ⟨⟨_, wakeAt, rests, ?_, rfl, rfl, ?_⟩, _, _, _, breaks, ?_, rfl, ?_⟩
  · intro m later earlier other
    obtain rfl : m = 2 := by omega
    exact absurd rfl other
  · intro t member
    rw [List.mem_singleton.mp member]
    exact Nat.zero_ne_one
  · intro m later earlier other
    rcases (by omega : m = 2 ∨ m = 3) with rfl | rfl <;> exact absurd rfl other
  · intro t member
    rw [List.mem_singleton.mp member]
    exact Nat.zero_ne_one

end Instances

end Faucet

end GasFaucet
