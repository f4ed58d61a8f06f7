import GasFaucet.Proofs.Schedules

/-!
# Searches

A request looks for a signer when it passes its gate, when it wakes from a rest, and when the signer that it
has on lease is passed over.  It then picks the first free signer whose address its round has not leased yet;
where there is none, it rests or gives up.  Whatever else an event makes of a request looks for nobody.
-/

namespace GasFaucet

namespace Pool

/-- Whom a round picks from a pool, what the pool is afterwards, and how far the request then is. -/
inductive Picks (p : Pool) (since : Nat) (tried : List Address) : Pool → Progress → Prop
  | leases {lease : Lease} {q : Pool} : p.signerAt? lease.index = some lease.signer →
      p.isLeased lease.index = false → lease.signer.address ∉ tried →
      (∀ {index signer}, p.signerAt? index = some signer → p.isLeased index = false →
        signer.address ∉ tried → lease.index ≤ index) →
      q = { p.setLeased lease.index true with totalLeases := p.totalLeases + 1 } →
      Picks p since tried q (.trying since (lease.signer.address :: tried) lease .balance)
  | rests {wakeAt : Nat} : (∀ {index signer}, p.signerAt? index = some signer → signer.address ∉ tried →
      p.isLeased index = true) → Picks p since tried p (.resting since wakeAt)
  | exhausts {secs : Nat} : (∀ {index signer}, p.signerAt? index = some signer →
      signer.address ∉ tried → p.isLeased index = true) →
      Picks p since tried p (.ended (.failed (.noSignerAvailable secs)))

end Pool

namespace Desk

variable {d : Desk} {p : Policy} {number : Nat} {r : Request} {e : Event} {progress : Progress}
variable {out : Desk × Progress}

theorem endRound_lease? (d : Desk) (p : Policy) (since : Nat) :
    (d.endRound p since).2.lease? = none := by
  rcases (d.endRound_retires p since).rests_or_exhausts with ⟨wakeAt, rests⟩ | ⟨exhausts, -⟩
  · rw [rests]
    rfl
  · rw [exhausts]
    rfl

theorem tryNext_least {since since' : Nat} {tried tried' : List Address} {lease : Lease} {stage : Stage}
    (picked : (d.tryNext p since tried).2 = .trying since' tried' lease stage) {index : Nat}
    {signer : Signer} (known : d.pool.signerAt? index = some signer)
    (free : d.pool.isLeased index = false) (untried : signer.address ∉ tried) : lease.index ≤ index := by
  unfold tryNext Desk.lease? at picked
  cases found : d.pool.lease? fun l => !tried.contains l.signer.address with
  | some granted =>
    rw [found] at picked
    cases picked
    exact Pool.lease?_least found known free (by simpa using untried)
  | none =>
    rw [found] at picked
    have idle := d.endRound_lease? p since
    rw [show (d.endRound p since).2 = _ from picked] at idle
    cases idle

theorem tryNext_picks (d : Desk) (p : Policy) (since : Nat) (tried : List Address) :
    d.pool.Picks since tried (d.tryNext p since tried).1.pool (d.tryNext p since tried).2 := by
  have seeks := d.tryNext_seeks p since tried
  generalize reached : d.tryNext p since tried = out at seeks
  cases seeks with
  | leases known free untried pool =>
    exact .leases known free untried (tryNext_least (congrArg Prod.snd reached)) pool
  | rests pool nobody =>
    rw [pool]
    exact .rests (nobody _ _)
  | exhausts pool nobody =>
    rw [pool]
    exact .exhausts (nobody _ _)

/-- How a request comes to look for a signer: past its gate, out of a rest, or passing a signer over. -/
inductive Looks (p : Policy) (number : Nat) (r : Request) (d : Desk) :
    Event → Progress → (since : Nat) → (tried : List Address) → Prop
  | opens {b} : ¬r.cap < b → d.stopped = false →
      Looks p number r d (.answerRequest number (.number (.value b))) .gate d.now []
  | renews {since wakeAt} : wakeAt ≤ d.now → d.stopped = false →
      Looks p number r d (.wakeRequest number) (.resting since wakeAt) since []
  | passes {since tried lease stage a reason} :
      stage.turnout? p r lease.signer (d.pool.floor lease.index) a = some (.passedOver reason) →
      Looks p number r d (.answerRequest number a) (.trying since tried lease stage) since tried

/-- What an event makes of a request, with its effect on the pool. -/
inductive Proceeds (p : Policy) (number : Nat) (r : Request) (d : Desk) :
    Event → Progress → Desk × Progress → Prop
  | looks {e : Event} {progress : Progress} {since tried} {out : Desk × Progress} (d' : Desk) :
      d.Looks p number r e progress since tried →
      d'.now = d.now → d'.pool = d.vacated progress → SameTurn out (d'.tryNext p since tried) →
      Proceeds p number r d e progress out
  | closes {e : Event} {progress : Progress} {out : Desk × Progress} : progress.lease? = none →
      out.1.pool = d.pool → out.2.isOver = true →
      (∀ secs, out.2 = .ended (.failed (.noSignerAvailable secs)) →
        e = .answerRequest number (.number (.failure (.noSignerAvailable secs)))) →
      Proceeds p number r d e progress out
  | advances {since tried lease stage a next} {out : Desk × Progress} :
      stage.turnout? p r lease.signer (d.pool.floor lease.index) a = some (.goesOn next) →
      out.1.pool = d.pool → out.2 = .trying since tried lease next →
      Proceeds p number r d (.answerRequest number a) (.trying since tried lease stage) out
  | sends {since tried lease stage a transfer hash} {out : Desk × Progress} :
      stage.turnout? p r lease.signer (d.pool.floor lease.index) a = some (.sent transfer hash) →
      out.1.pool = d.pool.modifyFloor lease.index (·.record transfer.nonce) →
      out.2 = .ended (.inFlight
        ⟨transfer.value, transfer.transaction lease hash d.now, d.watches.length⟩) →
      Proceeds p number r d (.answerRequest number a) (.trying since tried lease stage) out
  | fails {since tried lease stage a failure} {out : Desk × Progress} :
      stage.turnout? p r lease.signer (d.pool.floor lease.index) a = some (.fails failure) →
      out.1.pool = d.pool.release lease → out.2 = .ended (.failed failure) →
      Proceeds p number r d (.answerRequest number a) (.trying since tried lease stage) out
  | breaks {since tried lease stage a m} {out : Desk × Progress} :
      stage.turnout? p r lease.signer (d.pool.floor lease.index) a = some (.breaks m) →
      out.1.pool = d.pool.release lease → out.2 = .crashed m (some lease) →
      Proceeds p number r d (.answerRequest number a) (.trying since tried lease stage) out
  | drops {since tried lease stage} {out : Desk × Progress} :
      out.1.pool = d.pool.release lease → out.2 = .cancelled →
      Proceeds p number r d (.cancelRequest number) (.trying since tried lease stage) out

theorem beginRound_of_running (running : d.stopped = false) (p : Policy) (since : Nat) :
    d.beginRound p since = d.tryNext p since [] := by
  unfold beginRound
  rw [running]
  rfl

theorem passGate_proceeds (d : Desk) (p : Policy) (number : Nat) (r : Request) (line : Entry)
    (reply : Reply Word) :
    Proceeds p number r d (.answerRequest number (.number reply)) .gate
      ((d.write line).passGate p r reply) := by
  cases reply with
  | crash m => exact .closes rfl rfl rfl fun _ => Progress.noConfusion
  | failure f =>
    refine .closes rfl rfl rfl ?_
    intro secs ended
    cases ended
    rfl
  | value b =>
    by_cases exceeds : r.cap < b
    · simp only [passGate, exceeds, if_true]
      refine .closes rfl rfl rfl ?_
      intro secs ended
      cases ended
    · simp only [passGate, exceeds, if_false]
      cases stopping : d.stopped with
      | true =>
        simp only [beginRound, write, stopping, if_true]
        refine .closes rfl rfl rfl ?_
        intro secs ended
        cases ended
      | false =>
        rw [beginRound_of_running (d := d.write line) stopping]
        exact .looks (d.write line) (.opens exceeds stopping) rfl rfl (.refl _)

theorem Strides.proceeds (s : d.Strides p number r e progress out) :
    d.Proceeds p number r e progress out := by
  cases s with
  | passes reply => exact d.passGate_proceeds p number r _ reply
  | @wakes since wakeAt due =>
    cases stopping : d.stopped with
    | true =>
      simp only [beginRound, stopping, if_true]
      refine .closes rfl rfl rfl ?_
      intro secs ended
      cases ended
    | false =>
      rw [beginRound_of_running stopping]
      exact .looks d (.renews due stopping) rfl rfl (.refl _)
  | drops ongoing =>
    have dropped := d.cancel_progress ongoing
    cases progress with
    | trying since tried lease stage => exact .drops rfl dropped
    | gate | resting _ _ =>
      refine .closes rfl rfl (by rw [dropped]; rfl) ?_
      intro secs ended
      cases dropped.symm.trans ended
    | ended _ | crashed _ _ | cancelled => cases ongoing
  | @turns since tried lease stage q a turnout _ asking admitted decided same =>
    have pool := same.desk.pool
    have turned := same.progress
    cases turnout with
    | goesOn next => exact .advances decided pool turned
    | passedOver reason =>
      let heard := d.write (.answered (.request number) q a)
      exact .looks ((heard.skip reason).release lease) (.passes decided) rfl rfl same
    | fails f => exact .fails decided pool turned
    | breaks m => exact .breaks decided pool turned
    | sent t hash => exact .sends decided pool turned

theorem SameTurn.picks {since : Nat} {tried : List Address}
    (same : SameTurn out (d.tryNext p since tried)) : d.pool.Picks since tried out.1.pool out.2 := by
  rw [same.desk.pool, same.progress]
  exact d.tryNext_picks p since tried

end Desk

end GasFaucet
