import GasFaucet.Faucet
import GasFaucet.Proofs.Attempt
import Mathlib.Logic.Function.Basic

/-!
# Lending

Who holds which lease is a function of the actors.  A pool is lent to such a function when its leases
are exactly those that actors hold, no signer is lent twice, and the leases and releases so far differ
by the signers that are out.  Leasing, releasing and handing a lease over each change the function at
the actors concerned.
-/

namespace GasFaucet

@[simp]
theorem Pool.leasedCount_ofSigners (signers : List Signer) :
    (Pool.ofSigners signers).leasedCount = 0 := by
  simp [leasedCount, ofSigners, List.countP_map, Function.comp_def]

/-- The pool's signers are lent exactly as the actors hold them. -/
structure Pool.Lent (p : Pool) (owner : Actor → Option Lease) : Prop where
  known : ∀ {who lease}, owner who = some lease → p.signerAt? lease.index = some lease.signer
  leased_iff : ∀ index,
    p.isLeased index = true ↔ ∃ who lease, owner who = some lease ∧ lease.index = index
  exclusive : ∀ {who other lease lease'}, owner who = some lease → owner other = some lease' →
    lease.index = lease'.index → who = other
  balanced : p.totalLeases = p.totalReleases + p.leasedCount

namespace Pool.Lent

variable {p : Pool} {owner : Actor → Option Lease} {who : Actor} {lease : Lease}

theorem ofSigners (signers : List Signer) : (Pool.ofSigners signers).Lent fun _ => none where
  known := by simp
  leased_iff index := by
    rw [Pool.isLeased_ofSigners]
    simp
  exclusive := by simp
  balanced := by
    rw [leasedCount_ofSigners]
    rfl

theorem isLeased (h : p.Lent owner) (held : owner who = some lease) : p.isLeased lease.index = true :=
  (h.leased_iff _).mpr ⟨who, lease, held, rfl⟩

theorem grant (h : p.Lent owner) (idle : owner who = none) {accepts : Lease → Bool} {q : Pool}
    (granted : p.lease? accepts = some (lease, q)) : q.Lent (Function.update owner who (some lease)) := by
  obtain ⟨known, free, -, rfl⟩ := lease?_eq_some granted
  have fresh {other lease'} (held : owner other = some lease') : lease'.index ≠ lease.index := by
    intro same
    have := h.isLeased held
    rw [same, free] at this
    cases this
  constructor
  case known =>
    intro other lease' held
    change (p.setLeased lease.index true).signerAt? lease'.index = _
    by_cases same : other = who
    · subst same
      obtain rfl : lease = lease' := by simpa using held
      simpa using known
    · rw [Function.update_of_ne same] at held
      simpa using h.known held
  case leased_iff =>
    intro index
    change (p.setLeased lease.index true).isLeased index = true ↔ _
    rw [isLeased_setLeased known]
    constructor
    · intro leased
      by_cases same : lease.index = index
      · exact ⟨who, lease, by simp, same⟩
      · rw [if_neg same] at leased
        obtain ⟨other, lease', held, place⟩ := (h.leased_iff index).mp leased
        have differs : other ≠ who := by
          rintro rfl
          rw [idle] at held
          cases held
        exact ⟨other, lease', by rwa [Function.update_of_ne differs], place⟩
    · rintro ⟨other, lease', held, rfl⟩
      by_cases same : other = who
      · subst same
        obtain rfl : lease = lease' := by simpa using held
        simp
      · rw [Function.update_of_ne same] at held
        rw [if_neg (fresh held).symm]
        exact h.isLeased held
  case exclusive =>
    intro one other lease₁ lease₂ held₁ held₂ same
    by_cases first : one = who <;> by_cases second : other = who
    · rw [first, second]
    · subst first
      obtain rfl : lease = lease₁ := by simpa using held₁
      rw [Function.update_of_ne second] at held₂
      exact absurd same.symm (fresh held₂)
    · subst second
      obtain rfl : lease = lease₂ := by simpa using held₂
      rw [Function.update_of_ne first] at held₁
      exact absurd same (fresh held₁)
    · rw [Function.update_of_ne first] at held₁
      rw [Function.update_of_ne second] at held₂
      exact h.exclusive held₁ held₂ same
  case balanced =>
    have counted := leasedCount_setLeased known true
    have before := h.balanced
    simp only [free, Bool.toNat_false, Bool.toNat_true] at counted
    change p.totalLeases + 1 = p.totalReleases + (p.setLeased lease.index true).leasedCount
    omega

theorem release (h : p.Lent owner) (held : owner who = some lease) :
    (p.release lease).Lent (Function.update owner who none) := by
  have known := h.known held
  have others {other lease'} (still : Function.update owner who none other = some lease') :
      other ≠ who ∧ owner other = some lease' := by
    by_cases same : other = who
    · subst same
      simp at still
    · exact ⟨same, by rwa [Function.update_of_ne same] at still⟩
  constructor
  case known =>
    intro other lease' still
    change (p.setLeased lease.index false).signerAt? lease'.index = _
    simpa using h.known (others still).2
  case leased_iff =>
    intro index
    change (p.setLeased lease.index false).isLeased index = true ↔ _
    rw [isLeased_setLeased known]
    constructor
    · intro leased
      by_cases same : lease.index = index
      · simp [same] at leased
      · rw [if_neg same] at leased
        obtain ⟨other, lease', held', place⟩ := (h.leased_iff index).mp leased
        have differs : other ≠ who := by
          rintro rfl
          rw [held] at held'
          cases held'
          exact same place
        exact ⟨other, lease', by rwa [Function.update_of_ne differs], place⟩
    · rintro ⟨other, lease', still, rfl⟩
      obtain ⟨differs, held'⟩ := others still
      rw [if_neg fun same => differs (h.exclusive held' held same.symm)]
      exact h.isLeased held'
  case exclusive =>
    intro one other lease₁ lease₂ still₁ still₂ same
    exact h.exclusive (others still₁).2 (others still₂).2 same
  case balanced =>
    have counted := leasedCount_setLeased known false
    have before := h.balanced
    simp only [h.isLeased held, Bool.toNat_false, Bool.toNat_true] at counted
    change p.totalLeases = p.totalReleases + 1 + (p.setLeased lease.index false).leasedCount
    omega

theorem handOver (h : p.Lent owner) (held : owner who = some lease) {heir : Actor}
    (idle : owner heir = none) :
    p.Lent (Function.update (Function.update owner who none) heir (some lease)) := by
  have apart : who ≠ heir := by
    rintro rfl
    rw [held] at idle
    cases idle
  -- Whoever holds a lease afterwards held it before, if `who` is put in the heir's place.
  have before {other lease'}
      (now : Function.update (Function.update owner who none) heir (some lease) other = some lease') :
      (other = heir ∧ lease' = lease) ∨ (other ≠ who ∧ owner other = some lease') := by
    by_cases same : other = heir
    · subst same
      exact .inl ⟨rfl, by simpa using now.symm⟩
    · rw [Function.update_of_ne same] at now
      by_cases gone : other = who
      · subst gone
        simp at now
      · exact .inr ⟨gone, by rwa [Function.update_of_ne gone] at now⟩
  constructor
  case known =>
    intro other lease' now
    obtain ⟨-, rfl⟩ | ⟨-, was⟩ := before now
    · exact h.known held
    · exact h.known was
  case leased_iff =>
    intro index
    rw [h.leased_iff]
    constructor
    · rintro ⟨other, lease', was, place⟩
      by_cases same : other = who
      · subst same
        rw [held] at was
        cases was
        exact ⟨heir, lease, by simp, place⟩
      · have differs : other ≠ heir := by
          rintro rfl
          rw [idle] at was
          cases was
        exact ⟨other, lease', by rwa [Function.update_of_ne differs, Function.update_of_ne same], place⟩
    · rintro ⟨other, lease', now, place⟩
      obtain ⟨-, rfl⟩ | ⟨-, was⟩ := before now
      · exact ⟨who, lease', held, place⟩
      · exact ⟨other, lease', was, place⟩
  case exclusive =>
    intro one other lease₁ lease₂ now₁ now₂ same
    obtain ⟨rfl, rfl⟩ | ⟨stays₁, was₁⟩ := before now₁ <;>
      obtain ⟨rfl, rfl⟩ | ⟨stays₂, was₂⟩ := before now₂
    · rfl
    · exact absurd (h.exclusive was₂ held same.symm) stays₂
    · exact absurd (h.exclusive was₁ held same) stays₁
    · exact h.exclusive was₁ was₂ same
  case balanced => exact h.balanced

theorem modifyFloor (h : p.Lent owner) (index : Nat) (f : NonceFloor → NonceFloor) :
    (p.modifyFloor index f).Lent owner where
  known held := by simpa using h.known held
  leased_iff place := by simpa using h.leased_iff place
  exclusive := h.exclusive
  balanced := by
    change p.totalLeases = p.totalReleases + (p.modifyFloor index f).leasedCount
    rw [Pool.leasedCount_modifyFloor]
    exact h.balanced

end Pool.Lent

end GasFaucet
