import GasFaucet.Proofs.Changes
import GasFaucet.Proofs.Lending

/-!
# Exclusive leases

Whatever the node answers and in which order everybody goes on, the pool is lent to those who hold its
leases, and the gauge shows how many they are.  A request or a watch changes nobody's holding but its
own, apart from the lease that a request leaves to the watch that it begins.
-/

namespace GasFaucet

/-- The pool is lent as the actors hold its leases, and the gauge agrees. -/
structure Desk.Lends (d : Desk) (owner : Actor → Option Lease) : Prop where
  lent : d.pool.Lent owner
  gauge : d.tally.signersLeased = d.pool.leasedCount

namespace Desk.Lends

variable {d e : Desk} {owner : Actor → Option Lease} {who : Actor} {lease : Lease}

theorem congr (h : d.Lends owner) (pool : e.pool = d.pool)
    (gauge : e.tally.signersLeased = d.tally.signersLeased) : e.Lends owner :=
  ⟨by rw [pool]; exact h.lent, by rw [gauge, pool]; exact h.gauge⟩

theorem stay (h : d.Lends owner) {holds : Option Lease} (held : owner who = holds) :
    d.Lends (Function.update owner who holds) := by
  rwa [← held, Function.update_eq_self]

theorem release (h : d.Lends owner) (held : owner who = some lease) :
    (d.release lease).Lends (Function.update owner who none) := by
  refine ⟨h.lent.release held, ?_⟩
  have counted := Pool.leasedCount_setLeased (h.lent.known held) false
  have before := h.gauge
  simp only [h.lent.isLeased held, Bool.toNat_true, Bool.toNat_false] at counted
  change d.tally.signersLeased - 1 = ((d.pool.setLeased lease.index false).leasedCount : Int)
  omega

theorem grant (h : d.Lends owner) (idle : owner who = none) {accepts : Lease → Bool}
    (granted : d.lease? accepts = some (lease, e)) :
    e.Lends (Function.update owner who (some lease)) ∧ e.watches = d.watches := by
  unfold Desk.lease? at granted
  cases found : d.pool.lease? accepts with
  | none => simp [found] at granted
  | some grant =>
    obtain ⟨lease', pool⟩ := grant
    simp only [found, Option.some.injEq, Prod.mk.injEq] at granted
    obtain ⟨rfl, rfl⟩ := granted
    refine ⟨⟨h.lent.grant idle found, ?_⟩, rfl⟩
    obtain ⟨known, free, -, rfl⟩ := Pool.lease?_eq_some found
    have counted := Pool.leasedCount_setLeased known true
    have before := h.gauge
    simp only [free, Bool.toNat_true, Bool.toNat_false] at counted
    change d.tally.signersLeased + 1 = ((d.pool.setLeased lease'.index true).leasedCount : Int)
    omega

end Desk.Lends

namespace Desk

variable {d : Desk} {owner : Actor → Option Lease} {who : Actor} {lease : Lease}
variable (p : Policy) (since : Nat) (tried : List Address)

theorem Lends.endRound (h : d.Lends owner) (idle : owner who = none) :
    (d.endRound p since).1.Lends (Function.update owner who (d.endRound p since).2.lease?) := by
  unfold Desk.endRound
  cases p.terms.maxLeaseWait with
  | none => exact (h.stay idle).congr rfl rfl
  | some limit =>
    dsimp only
    split <;> exact (h.stay idle).congr rfl rfl

theorem Lends.tryNext (h : d.Lends owner) (idle : owner who = none) :
    (d.tryNext p since tried).1.Lends
      (Function.update owner who (d.tryNext p since tried).2.lease?) := by
  unfold Desk.tryNext
  cases found : d.lease? fun l => !tried.contains l.signer.address with
  | none => exact h.endRound p since idle
  | some granted => exact (h.grant idle found).1

theorem Lends.beginRound (h : d.Lends owner) (idle : owner who = none) :
    (d.beginRound p since).1.Lends (Function.update owner who (d.beginRound p since).2.lease?) := by
  unfold Desk.beginRound
  split
  · exact (h.stay idle).congr rfl rfl
  · exact h.tryNext p since [] idle

theorem Lends.passGate (h : d.Lends owner) (idle : owner who = none) (r : Request)
    (reply : Reply Word) :
    (d.passGate p r reply).1.Lends (Function.update owner who (d.passGate p r reply).2.lease?) := by
  unfold Desk.passGate
  cases reply with
  | crash m => exact h.stay idle
  | failure f => exact (h.stay idle).congr rfl rfl
  | value balance =>
    dsimp only
    split
    · exact (h.stay idle).congr rfl rfl
    · exact h.beginRound p d.now idle

theorem Lends.cancel (h : d.Lends owner) {progress : Progress} (held : owner who = progress.lease?) :
    (d.cancel progress).1.Lends (Function.update owner who (d.cancel progress).2.lease?) := by
  unfold Desk.cancel
  split
  · exact h.stay held
  · cases leased : progress.lease? with
    | none => exact h.stay (held.trans leased)
    | some lease => exact h.release (held.trans leased)

/-- An attempt that does not end in a transfer leaves the request with what it then says to hold. -/
theorem Lends.enact (h : d.Lends owner) (held : owner who = some lease) (turnout : Turnout)
    (unsent : ∀ transfer hash, turnout ≠ .sent transfer hash) :
    (d.enact p since tried lease turnout).1.Lends
      (Function.update owner who (d.enact p since tried lease turnout).2.lease?) := by
  cases turnout with
  | goesOn stage => exact h.stay held
  | passedOver reason =>
    have skipped : (d.skip reason).Lends owner := h.congr rfl rfl
    have idle : Function.update owner who none who = none := by simp
    have after := (skipped.release held).tryNext p since tried idle
    rwa [Function.update_idem] at after
  | fails f => exact (h.release held).congr rfl rfl
  | breaks m => exact h.release held
  | sent transfer hash => exact absurd rfl (unsent transfer hash)

theorem Lends.modifyFloor (h : d.Lends owner) (index : Nat) (floor : NonceFloor → NonceFloor) :
    Desk.Lends { d with pool := d.pool.modifyFloor index floor } owner :=
  ⟨h.lent.modifyFloor index floor, by rw [Pool.leasedCount_modifyFloor]; exact h.gauge⟩

theorem Lends.concludeWatch (h : d.Lends owner) {w : Watch} (held : owner who = some w.lease)
    (number : Nat) (c : Conclusion) :
    (d.concludeWatch p number w c).Lends (Function.update owner who none) := by
  cases c with
  | confirmed | reverted =>
    exact ((h.congr rfl rfl : Desk.Lends { d with tally := _, journal := _ } owner).release held).congr
      rfl rfl
  | givenUp reason =>
    have cleared := h.modifyFloor w.lease.index fun _ => .clear
    exact (cleared.release held).congr rfl rfl

end Desk

section Holdings

variable {requests : List (Request × Progress)} {watches : List Watch} {number : Nat}

theorem holdings_set (there : number < requests.length) (r : Request) (progress : Progress) :
    holdings (requests.set number (r, progress)) watches =
      Function.update (holdings requests watches) (.request number) progress.lease? := by
  funext who
  by_cases same : who = .request number
  · subst same
    simp [holdings, there]
  · rw [Function.update_of_ne same]
    cases who with
    | request other =>
      have apart : number ≠ other := fun h => same (h ▸ rfl)
      simp [holdings, apart]
    | watch _ | census _ _ => rfl

theorem holdings_append_request (r : Request) :
    holdings (requests ++ [(r, .gate)]) watches = holdings requests watches := by
  funext who
  cases who with
  | request other =>
    by_cases last : other = requests.length
    · subst last
      simp [holdings, Progress.lease?]
    · simp only [holdings, getElem?_append_singleton_of_ne last]
  | watch _ | census _ _ => rfl

theorem holdings_append_watch (w : Watch) :
    holdings requests (watches ++ [w]) =
      Function.update (holdings requests watches) (.watch watches.length) w.lease? := by
  funext who
  by_cases same : who = .watch watches.length
  · subst same
    simp [holdings]
  · rw [Function.update_of_ne same]
    cases who with
    | watch other =>
      have apart : other ≠ watches.length := fun h => same (h ▸ rfl)
      simp only [holdings, getElem?_append_singleton_of_ne apart]
    | request _ | census _ _ => rfl

theorem holdings_modify {w : Watch} (found : watches[number]? = some w) (progress : WatchProgress) :
    holdings requests (watches.modify number fun w => { w with progress := progress }) =
      Function.update (holdings requests watches) (.watch number)
        (Watch.lease? { w with progress := progress }) := by
  funext who
  by_cases same : who = .watch number
  · subst same
    simp [holdings, found]
  · rw [Function.update_of_ne same]
    cases who with
    | watch other =>
      have apart : number ≠ other := fun h => same (h ▸ rfl)
      simp [holdings, apart]
    | request _ | census _ _ => rfl

end Holdings

theorem Watch.lease?_eq_some_iff {w : Watch} {lease : Lease} :
    w.lease? = some lease ↔ w.report? = none ∧ w.lease = lease := by
  unfold Watch.lease? Watch.report?
  cases w.progress <;> simp

def Pool.Distinct (p : Pool) : Prop :=
  ∀ {i j : Nat} {s s' : Signer}, p.signerAt? i = some s → p.signerAt? j = some s' →
    s.address = s'.address → i = j

theorem Pool.distinct_ofSigners {signers : List Signer}
    (distinct : (signers.map Signer.address).Nodup) : (Pool.ofSigners signers).Distinct := by
  intro i j s s' here there same
  rw [signerAt?_ofSigners] at here there
  obtain ⟨inside, -⟩ := List.getElem?_eq_some_iff.mp here
  apply (List.getElem?_inj (by simpa using inside) distinct).mp
  simp [here, there, same]

namespace Faucet

/-- The pool is lent to the requests and watches that hold its leases. -/
def Lends (f : Faucet) : Prop :=
  f.desk.Lends f.leaseOf?

variable {p : Policy} {f g : Faucet} {e : Event}

theorem lends_put {number : Nat} {r : Request} {out : Desk × Progress}
    (after : out.1.Lends (holdings (f.requests.set number (r, out.2)) out.1.watches)) :
    (f.put number r out).Lends := by
  unfold Lends leaseOf? Faucet.put
  rw [Desk.inquire_watches]
  exact after.congr (by simp) (by simp)

theorem lends_put_of_watches {number : Nat} {r : Request} {progress : Progress}
    (found : f.requests[number]? = some (r, progress)) {out : Desk × Progress}
    (watches : out.1.watches = f.desk.watches)
    (after : out.1.Lends (Function.update f.leaseOf? (.request number) out.2.lease?)) :
    (f.put number r out).Lends := by
  obtain ⟨there, -⟩ := List.getElem?_eq_some_iff.mp found
  apply lends_put
  rw [watches, holdings_set there]
  exact after

theorem lends_put_sent (h : f.Lends) {number : Nat} {r : Request} {since : Nat} {tried : List Address}
    {lease : Lease} {stage : Stage} {line : Entry} {transfer : SignedTransfer} {hash : Digest}
    {out : Desk × Progress} (found : f.requests[number]? = some (r, .trying since tried lease stage))
    (same : Desk.SameTurn out
      ((f.desk.write line).enact p since tried lease (.sent transfer hash))) :
    (f.put number r out).Lends := by
  obtain ⟨there, -⟩ := List.getElem?_eq_some_iff.mp found
  obtain ⟨desk, progress⟩ := out
  obtain ⟨alike, rfl⟩ := same
  have watches : desk.watches = f.desk.watches ++ [_] := alike.watches
  have pool : desk.pool = f.desk.pool.modifyFloor lease.index (·.record transfer.nonce) := alike.pool
  have holder : f.leaseOf? (.request number) = some lease := by
    simp [leaseOf?, holdings, found, Progress.lease?]
  have heir : f.leaseOf? (.watch f.desk.watches.length) = none := by
    simp [leaseOf?, holdings]
  apply lends_put
  rw [watches, holdings_append_watch, holdings_set there]
  refine ⟨?_, ?_⟩
  · rw [pool]
    exact (h.lent.handOver holder heir).modifyFloor _ _
  · rw [pool, Pool.leasedCount_modifyFloor, alike.tally]
    exact h.gauge

theorem leaseOf?_request {number : Nat} {r : Request} {progress : Progress}
    (found : f.requests[number]? = some (r, progress)) :
    f.leaseOf? (.request number) = progress.lease? := by
  simp [leaseOf?, holdings, found]

theorem Lends.strides (h : f.Lends) {number : Nat} {r : Request} {progress : Progress}
    {out : Desk × Progress} (found : f.requests[number]? = some (r, progress))
    (s : f.desk.Strides p number r e progress out) : (f.put number r out).Lends := by
  have held := leaseOf?_request found
  have heard (q : Query) (a : Answer) :
      (f.desk.write (.answered (.request number) q a)).Lends f.leaseOf? :=
    Desk.Lends.congr h rfl rfl
  cases s with
  | passes reply =>
    refine lends_put_of_watches found ?_ ((heard _ _).passGate p held r reply)
    exact (Desk.passGate_keeps _ p r reply).watches
  | wakes due =>
    refine lends_put_of_watches found ?_ (Desk.Lends.beginRound p _ h held)
    exact (f.desk.beginRound_keeps p _).watches
  | drops ongoing =>
    refine lends_put_of_watches found ?_ (Desk.Lends.cancel h held)
    exact (f.desk.cancel_keeps _).watches
  | @turns since tried lease stage q a turnout _ asking admitted decided same =>
    obtain ⟨desk, progress⟩ := out
    obtain ⟨alike, rfl⟩ := same
    obtain ⟨transfer, hash, rfl⟩ | unsent := turnout.sent_or_not
    · exact lends_put_sent h found ⟨alike, rfl⟩
    · apply lends_put_of_watches found
      · rw [alike.watches]
        exact (Desk.enact_keeps _ p since tried lease turnout unsent).watches
      · exact ((heard q a).enact p since tried held turnout unsent).congr alike.pool
          (by rw [alike.tally])

theorem lends_setWatch {number : Nat} {w : Watch} {d : Desk}
    (found : f.desk.watches[number]? = some w) (progress : WatchProgress)
    (watches : d.watches = (f.desk.setWatch number progress).watches)
    (after : d.Lends (Function.update f.leaseOf? (.watch number)
      (Watch.lease? { w with progress := progress }))) :
    Faucet.Lends { f with desk := d } := by
  unfold Lends leaseOf?
  dsimp only
  rw [watches]
  unfold Desk.setWatch
  rw [holdings_modify found]
  exact after

theorem Lends.tends (h : f.Lends) {number : Nat} {w : Watch} {d : Desk}
    (found : f.desk.watches[number]? = some w) (t : f.desk.Tends p number w e d) :
    Faucet.Lends { f with desk := d } := by
  have held : f.leaseOf? (.watch number) = w.lease? := by
    simp [leaseOf?, holdings, found]
  have keeps (live : w.lease? = some w.lease) :
      f.desk.Lends (Function.update f.leaseOf? (.watch number) (some w.lease)) :=
    Desk.Lends.stay h (held.trans live)
  have heard (reply : Reply Bool) : (f.desk.write (.answered (.watch number)
      (.receipt w.transaction.hash) (.mined reply))).Lends f.leaseOf? :=
    Desk.Lends.congr h rfl rfl
  cases t with
  | begins planned =>
    have live : w.lease? = some w.lease := by simp [Watch.lease?, planned]
    exact lends_setWatch found _ rfl ((keeps live).congr rfl rfl)
  | looks sleeping due =>
    have live : w.lease? = some w.lease := by simp [Watch.lease?, sleeping]
    exact lends_setWatch found (.asking _) rfl ((keeps live).congr rfl rfl)
  | @waits since _ _ asking alike =>
    have live : w.lease? = some w.lease := by simp [Watch.lease?, asking]
    apply lends_setWatch found (.sleeping since (f.desk.now + p.terms.pollInterval))
    · exact alike.watches
    · exact (keeps live).congr alike.pool (by rw [alike.tally]; rfl)
  | breaks m asking =>
    have live : w.lease? = some w.lease := by simp [Watch.lease?, asking]
    refine lends_setWatch found .crashed ?_ ?_
    · rfl
    · exact ((heard _).release (held.trans live)).congr rfl rfl
  | concludes c asking =>
    have live : w.lease? = some w.lease := by simp [Watch.lease?, asking]
    refine lends_setWatch found (.concluded c) ?_ ?_
    · cases c <;> rfl
    · exact (heard _).concludeWatch p (held.trans live) number c

theorem Lends.change (h : f.Lends) (c : Change p f e g) : g.Lends := by
  cases c with
  | apart a =>
    unfold Lends leaseOf?
    rw [a.requests, a.watches]
    exact Desk.Lends.congr h a.pool (by rw [a.tally])
  | accepts r =>
    rw [accept_eq]
    unfold Lends leaseOf?
    dsimp only
    rw [holdings_append_request]
    exact Desk.Lends.congr h rfl rfl
  | strides found s => exact h.strides found s
  | tends found t => exact h.tends found t

theorem lends_fresh (signers : List Signer) : (fresh (.ofSigners signers)).Lends := by
  have nobody : (fresh (.ofSigners signers)).leaseOf? = fun _ => none := by
    funext who
    cases who <;> rfl
  unfold Lends
  rw [nobody]
  refine ⟨Pool.Lent.ofSigners signers, ?_⟩
  change (0 : Int) = (Pool.ofSigners signers).leasedCount
  rw [Pool.leasedCount_ofSigners]
  rfl

theorem Lends.run (h : f.Lends) (p : Policy) (events : List Event) : (f.run p events).Lends :=
  run_induction p f h (fun lends c => lends.change c) events

theorem lends_run (p : Policy) (signers : List Signer) (events : List Event) :
    ((fresh (.ofSigners signers)).run p events).Lends :=
  (lends_fresh signers).run p events

/-- Who holds a lease: a request that asks the node on behalf of a signer, or a watch before its end. -/
inductive Holds (f : Faucet) : Actor → Lease → Prop
  | request {number r since tried lease stage} :
      f.requests[number]? = some (r, .trying since tried lease stage) →
      Holds f (.request number) lease
  | watch {number w} : f.desk.watches[number]? = some w → w.report? = none →
      Holds f (.watch number) w.lease

theorem holds_iff {who : Actor} {lease : Lease} : f.Holds who lease ↔ f.leaseOf? who = some lease := by
  constructor
  · intro held
    cases held with
    | request found => simp [leaseOf?, holdings, found, Progress.lease?]
    | watch found unreported =>
      simp [leaseOf?, holdings, found, Watch.lease?_eq_some_iff.mpr ⟨unreported, rfl⟩]
  · intro held
    cases who with
    | request number =>
      obtain ⟨⟨r, progress⟩, found, owns⟩ := Option.bind_eq_some_iff.mp held
      cases progress with
      | trying since tried lease' stage =>
        obtain rfl : lease' = lease := by simpa [Progress.lease?] using owns
        exact .request found
      | gate | resting _ _ | ended _ | crashed _ _ | cancelled => cases owns
    | watch number =>
      obtain ⟨w, found, owns⟩ := Option.bind_eq_some_iff.mp held
      obtain ⟨unreported, rfl⟩ := Watch.lease?_eq_some_iff.mp owns
      exact .watch found unreported
    | census _ _ => cases held

/-- Every signer on lease has one holder, no holder has two, and all counts agree with that. -/
structure Accounted (f : Faucet) : Prop where
  exclusive : ∀ {who other lease lease'}, f.Holds who lease → f.Holds other lease' →
    lease.index = lease'.index → who = other
  single : ∀ {who lease lease'}, f.Holds who lease → f.Holds who lease' → lease = lease'
  known : ∀ {who lease}, f.Holds who lease → f.desk.pool.signerAt? lease.index = some lease.signer
  leased_iff : ∀ index,
    f.desk.pool.isLeased index = true ↔ ∃ who lease, f.Holds who lease ∧ lease.index = index
  balanced : f.desk.pool.totalLeases = f.desk.pool.totalReleases + f.desk.pool.leasedCount
  gauge : f.desk.tally.signersLeased = f.desk.pool.leasedCount
  resting : ∀ {number r since wakeAt lease},
    f.requests[number]? = some (r, .resting since wakeAt) → ¬f.Holds (.request number) lease
  done : ∀ {number r progress lease}, f.requests[number]? = some (r, progress) →
    progress.isOver = true → ¬f.Holds (.request number) lease
  quiet : (∀ entry ∈ f.requests, entry.2.isOver = true) →
    (∀ w ∈ f.desk.watches, w.report?.isSome = true) →
    (∀ index, f.desk.pool.isLeased index = false) ∧
      f.desk.pool.totalLeases = f.desk.pool.totalReleases

theorem Lends.nobody_holds (h : f.Lends) (idle : ∀ who lease, ¬f.Holds who lease) :
    (∀ index, f.desk.pool.isLeased index = false) ∧
      f.desk.pool.totalLeases = f.desk.pool.totalReleases := by
  have free : ∀ index, f.desk.pool.isLeased index = false := by
    intro index
    apply Bool.eq_false_iff.mpr
    intro leased
    obtain ⟨who, lease, held, -⟩ := (h.lent.leased_iff index).mp leased
    exact idle who lease (holds_iff.mpr held)
  refine ⟨free, ?_⟩
  rw [h.lent.balanced, Pool.leasedCount_eq_zero free]
  rfl

/-- Leases are exclusive and accounted for after every run. -/
theorem run_accounted (signers : List Signer) (p : Policy) (events : List Event) :
    ((fresh (.ofSigners signers)).run p events).Accounted := by
  have h := lends_run p signers events
  generalize (fresh (.ofSigners signers)).run p events = f at h
  constructor
  case exclusive =>
    intro who other lease lease' held held' same
    exact h.lent.exclusive (holds_iff.mp held) (holds_iff.mp held') same
  case single =>
    intro who lease lease' held held'
    exact Option.some.inj ((holds_iff.mp held).symm.trans (holds_iff.mp held'))
  case known =>
    intro who lease held
    exact h.lent.known (holds_iff.mp held)
  case leased_iff =>
    intro index
    simp only [holds_iff]
    exact h.lent.leased_iff index
  case balanced => exact h.lent.balanced
  case gauge => exact h.gauge
  case resting =>
    intro number r since wakeAt lease found held
    cases held with
    | request found' => cases found.symm.trans found'
  case done =>
    intro number r progress lease found finished held
    cases held with
    | request found' =>
      cases found.symm.trans found'
      cases finished
  case quiet =>
    intro requests watches
    apply h.nobody_holds
    intro who lease held
    cases held with
    | request found => cases requests _ (List.mem_of_getElem? found)
    | watch found unreported =>
      have reported := watches _ (List.mem_of_getElem? found)
      rw [unreported] at reported
      cases reported

/-- The account that a transfer leaves belongs to nobody else who holds a lease. -/
theorem sender_ne (lends : f.Lends) (distinct : f.desk.pool.Distinct) {who other : Actor}
    {lease lease' : Lease} (held : f.leaseOf? who = some lease)
    (held' : f.leaseOf? other = some lease') (apart : other ≠ who) :
    lease.signer.address ≠ lease'.signer.address := by
  intro same
  have place := distinct (lends.lent.known held) (lends.lent.known held') same
  exact apart (lends.lent.exclusive held held' place).symm

end Faucet

end GasFaucet
