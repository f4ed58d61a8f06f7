import GasFaucet.Proofs.Moments
import GasFaucet.Proofs.Startup

/-!
# Groundwork

What accepted settings lay down for everything that runs on them.  Their network is in the table, their
amounts and times are positive, and there is a key.  So a link made from them fails only over its node,
a pool only over a key that cannot be read, rests and lookups take time, and no request broadcasts a
transfer of nothing or one that may use no gas.
-/

namespace GasFaucet

theorem Settings.check_of_ofText {env : String → Option String} {text : String} {s : Settings}
    (accepted : ofText env text = .ok s) : s.check = .ok () := by
  unfold ofText at accepted
  split at accepted
  · cases accepted
  · rename_i read _
    cases checked : read.check with
    | error e => simp [checked] at accepted
    | ok _ =>
      rw [checked] at accepted
      cases accepted
      exact checked

/-- Everything that a section on the network has to say before it is accepted. -/
structure NetworkSettings.Sound (s : NetworkSettings) (network : Network) (amount : Word) : Prop where
  named : Network.byName? s.name = some network
  timeout : s.timeoutSecs ≠ 0
  gasLimit : s.gasLimit ≠ some 0
  readable : s.amountOn network = .ok amount
  positive : amount ≠ 0

theorem Settings.sound_of_checkNetwork {s : NetworkSettings} (accepted : checkNetwork s = .ok ()) :
    ∃ network amount, s.Sound network amount := by
  unfold checkNetwork at accepted
  cases named : Network.byName? s.name with
  | none => simp [named] at accepted
  | some network =>
    simp only [named] at accepted
    split_ifs at accepted with unreachable instant gasless
    cases readable : s.amountOn network with
    | error cause => simp [readable] at accepted
    | ok amount =>
      rw [readable] at accepted
      dsimp only at accepted
      split_ifs at accepted with nothing
      exact ⟨network, amount, named, instant, gasless, readable, nothing⟩

theorem Word.pos_of_ne_zero {w : Word} (h : w ≠ 0) : 0 < w := by
  rw [BitVec.lt_def]
  apply Nat.pos_of_ne_zero
  intro nothing
  apply h
  apply BitVec.eq_of_toNat_eq
  simpa using nothing

/-- A link that has something to send, lets it use gas, and gives its calls time. -/
structure Link.Usable (l : Link) : Prop where
  defaultAmount : 0 < l.defaultAmount
  gasLimit : 0 < l.gasLimit
  timeout : 0 < l.timeout

namespace Link

theorem gasLimit_pos {configured : Option UInt64} (given : configured ≠ some 0) :
    0 < (configured.map fun g => BitVec.ofNat 256 g.toNat).getD transferGas := by
  apply Word.pos_of_ne_zero
  intro nothing
  rcases configured with _ | g
  · exact absurd nothing (by decide)
  · simp only [Option.map_some, Option.getD_some] at nothing
    apply given
    congr 1
    apply UInt64.toNat_inj.mp
    have small := g.toNat_lt
    have same := congrArg BitVec.toNat nothing
    rw [BitVec.toNat_ofNat, Nat.mod_eq_of_lt (by omega)] at same
    exact same

variable {s : NetworkSettings} {network : Network} {amount : Word}

theorem usable_of_plan (sound : s.Sound network amount) :
    ∃ link, plan s = .ok link ∧ link.Usable := by
  have ticks : 0 < s.timeoutSecs.toNat := by
    apply Nat.pos_of_ne_zero
    intro instant
    exact sound.timeout (UInt64.toNat_inj.mp instant)
  unfold plan
  rw [sound.named]
  dsimp only
  rw [sound.readable]
  refine ⟨_, rfl, Word.pos_of_ne_zero sound.positive, gasLimit_pos sound.gasLimit, ?_⟩
  exact Nat.mul_pos ticks (by decide)

/-- Why a link could not be made: over its connection, or over the chain that its node serves. -/
theorem verify_eq_error {l : Link} {secs : UInt64} {o : Option Outcome} {f : Failure}
    (refused : l.verify secs o = .error f) :
    (∃ message, f = .connect l.endpoint message) ∨
      ∃ reported, f = .networkMismatch l.network.name l.network.chainId.toNat reported := by
  rcases o with _ | ⟨j⟩ | ⟨message⟩
  · exact .inl ⟨_, (Except.error.inj refused).symm⟩
  · unfold verify at refused
    dsimp only at refused
    cases decoded : j.word? with
    | none =>
      rw [decoded] at refused
      exact .inl ⟨_, (Except.error.inj refused).symm⟩
    | some reported =>
      rw [decoded] at refused
      dsimp only at refused
      unfold Network.checkChainId at refused
      split_ifs at refused
      exact .inr ⟨reported, (Except.error.inj refused).symm⟩
  · exact .inl ⟨_, (Except.error.inj refused).symm⟩

theorem establish_of_plan {link : Link} (planned : plan s = .ok link) (w : Wire) :
    (establish s w).1 = .ok link ∨
      ∃ f, (establish s w).1 = .error f ∧
        link.verify s.timeoutSecs (w.exchange link.timeout .chainId).1 = .error f := by
  unfold establish
  rw [planned]
  dsimp only
  cases verified : link.verify s.timeoutSecs (w.exchange link.timeout .chainId).1 with
  | error f => exact .inr ⟨f, rfl, rfl⟩
  | ok _ => exact .inl rfl

end Link

theorem Pool.signersFrom_eq_error {chainId : UInt64} {index : Nat} {keys : List String} {f : Failure}
    (unread : signersFrom chainId index keys = .error f) :
    ∃ place message, f = .invalidKey place message := by
  induction keys generalizing index with
  | nil => cases unread
  | cons text rest ih =>
    unfold signersFrom Signer.ofText at unread
    cases read : parseKey text with
    | error e =>
      rw [read] at unread
      exact ⟨index, _, (Except.error.inj unread).symm⟩
    | ok key =>
      rw [read] at unread
      dsimp only at unread
      cases others : signersFrom chainId (index + 1) rest with
      | error e =>
        rw [others] at unread
        cases unread
        exact ih others
      | ok signers => simp [others] at unread

/-- A pool of at least one key fails only over a key that cannot be read. -/
theorem Pool.ofKeys_eq_error {chainId : UInt64} {keys : List String} (filled : keys ≠ []) {f : Failure}
    (unmade : ofKeys keys chainId = .error f) : ∃ place message, f = .invalidKey place message := by
  unfold ofKeys at unmade
  cases made : signersFrom chainId 0 keys with
  | error e =>
    rw [made] at unmade
    cases unmade
    exact signersFrom_eq_error made
  | ok signers =>
    rw [made] at unmade
    rcases signers with _ | ⟨first, rest⟩
    · cases signersFrom_eq_ok_iff.mp made
      exact absurd rfl filled
    · cases unmade

theorem Terms.intervals_pos {s : FundingSettings} (accepted : Settings.checkFaucet s = .ok ())
    (amount gasLimit : Word) :
    0 < (ofSettings s amount gasLimit).retryInterval ∧ 0 < (ofSettings s amount gasLimit).pollInterval := by
  unfold Settings.checkFaucet at accepted
  split_ifs at accepted with idle
  rw [not_or] at idle
  constructor
  · apply Nat.pos_of_ne_zero
    intro never
    exact idle.1 (UInt64.toNat_inj.mp never)
  · apply Nat.pos_of_ne_zero
    intro never
    exact idle.2 (UInt64.toNat_inj.mp never)

theorem Request.effectiveAmount_pos (r : Request) {terms : Terms} (positive : 0 < terms.defaultAmount) :
    0 < r.effectiveAmount terms := by
  unfold effectiveAmount
  split_ifs with unnamed
  · exact positive
  · rw [BitVec.lt_def]
    exact Nat.pos_of_ne_zero unnamed

/-- Every transfer that waits to be taken moves what its request asks for, with the gas of the terms. -/
theorem Faucet.transfer_of_broadcast {start : Faucet} {p : Policy} (idle : start.requests = [])
    {events : List Event} {who : Actor} {t : SignedTransfer}
    (asking : (start.run p events).query? who = some (.broadcast t)) :
    ∃ r : Request, t.value = r.effectiveAmount p.terms ∧ t.gasLimit = p.terms.gasLimit := by
  obtain ⟨number, r, since, tried, lease, -, found⟩ := query?_eq_broadcast asking
  rw [← after_length] at found
  obtain ⟨k, -, before, a, -, -, advances, -⟩ :=
    last_advance idle (Nat.le_refl _) found Stage.noConfusion
  obtain ⟨price, reported, nonce, -, -, -, signing⟩ := advances.signs
  obtain ⟨said, -⟩ := Transfer.sign_eq_ok signing
  exact ⟨r, by rw [said], by rw [said]⟩

/-- What holds of all that is made from settings. -/
structure Settings.Grounded (s : Settings) : Prop where
  network : ∃ network amount, Network.byName? s.network.name = some network ∧
    s.network.amountOn network = .ok amount ∧ 0 < amount
  unlinked : ∀ w f, (Link.establish s.network w).1 = .error f →
    (∃ endpoint message, f = .connect endpoint message) ∨
      ∃ name expected reported, f = .networkMismatch name expected reported
  linked : ∀ w link, (Link.establish s.network w).1 = .ok link → link.Usable
  unpooled : ∀ chainId f, Pool.ofKeys s.signers.privateKeys chainId = .error f →
    ∃ place message, f = .invalidKey place message
  intervals : ∀ amount gasLimit, 0 < (Terms.ofSettings s.faucet amount gasLimit).retryInterval ∧
    0 < (Terms.ofSettings s.faucet amount gasLimit).pollInterval
  limits : ∀ amount gasLimit,
    ((Terms.ofSettings s.faucet amount gasLimit).maxLeaseWait = none ↔ s.faucet.maxLeaseWaitSecs = 0) ∧
    ((Terms.ofSettings s.faucet amount gasLimit).confirmationTimeout = none ↔
      s.faucet.confirmationTimeoutSecs = 0)
  transfers : ∀ w link pool events who t, (Link.establish s.network w).1 = .ok link →
    Pool.ofKeys s.signers.privateKeys link.network.chainId = .ok pool →
    ((Faucet.fresh pool).run (Installation.policy ⟨s, link, pool⟩) events).query? who =
      some (.broadcast t) →
    0 < t.value ∧ 0 < t.gasLimit

namespace Settings

/-- Whatever is made from settings that a text lays down, and that were accepted, can rely on them. -/
theorem ofText_grounded {env : String → Option String} {text : String} {s : Settings}
    (accepted : ofText env text = .ok s) : s.Grounded := by
  have checked := check_of_ofText accepted
  obtain ⟨checkedNetwork, checkedFaucet, -⟩ := check_eq_ok_iff.mp checked
  obtain ⟨network, amount, sound⟩ := sound_of_checkNetwork checkedNetwork
  obtain ⟨link, planned, usable⟩ := Link.usable_of_plan sound
  have linked : ∀ w link', (Link.establish s.network w).1 = .ok link' → link'.Usable := by
    intro w link' established
    rcases Link.establish_of_plan planned w with same | ⟨f, failed, -⟩
    · cases established.symm.trans same
      exact usable
    · cases established.symm.trans failed
  constructor
  case network => exact ⟨network, amount, sound.named, sound.readable, Word.pos_of_ne_zero sound.positive⟩
  case unlinked =>
    intro w f failed
    rcases Link.establish_of_plan planned w with established | ⟨f', failed', refused⟩
    · cases failed.symm.trans established
    · cases failed.symm.trans failed'
      rcases Link.verify_eq_error refused with ⟨message, rfl⟩ | ⟨reported, rfl⟩
      · exact .inl ⟨_, _, rfl⟩
      · exact .inr ⟨_, _, _, rfl⟩
  case linked => exact linked
  case unpooled =>
    intro chainId f unmade
    exact Pool.ofKeys_eq_error (keys_of_check checked).1 unmade
  case intervals => exact Terms.intervals_pos checkedFaucet
  case limits =>
    intro amount gasLimit
    exact ⟨Terms.limitOfSecs_eq_none_iff, Terms.limitOfSecs_eq_none_iff⟩
  case transfers =>
    intro w link pool events who t established made asking
    have usable := linked w link established
    obtain ⟨r, value, gasLimit⟩ := Faucet.transfer_of_broadcast rfl asking
    constructor
    · rw [value]
      exact r.effectiveAmount_pos usable.defaultAmount
    · rw [gasLimit]
      exact usable.gasLimit

/-- Settings that wait for a signer without end, with their only key in the environment. -/
theorem ofText_grounded_patient :
    let text := "[network]\nname = \"goerli\"\nendpoint = \"http://localhost:8545\"\n" ++
      "[signers]\nprivate_keys = [\"$\x7bKEY\x7d\"]\n[faucet]\nmax_lease_wait_secs = 0\n"
    let key := "0x0000000000000000000000000000000000000000000000000000000000000001"
    let s := { Launch.soleSigner with faucet := { maxLeaseWaitSecs := 0 } }
    ofText (fun name => if name = "KEY" then some key else none) text = .ok s ∧ s.Grounded := by
  intro text key s
  have accepted : ofText (fun name => if name = "KEY" then some key else none) text = .ok s := by
    decide +kernel
  exact ⟨accepted, ofText_grounded accepted⟩

end Settings

end GasFaucet
