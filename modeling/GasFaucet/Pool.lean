import GasFaucet.Signer
import GasFaucet.Signer.NonceFloor

/-!
# The pool of signers

Each signer is free or on lease.  A lease goes to the free signer with the least index among those
that the caller accepts, and lasts until it is released.

Leases and releases are counted without a bound, where a counter of 64 bits would start again at zero
after the largest number of leases it can hold.
-/

namespace GasFaucet

/-- A place in the pool: its signer, whether it is on lease, and its nonce floor. -/
structure Slot where
  signer : Signer
  leased : Bool
  floor : NonceFloor

/-- Signers in the order of their keys, with the number of leases and releases so far. -/
structure Pool where
  slots : List Slot
  totalLeases : Nat
  totalReleases : Nat

structure Lease where
  index : Nat
  signer : Signer

structure PoolStats where
  size : Nat
  leased : Nat
  totalLeases : Nat
  totalReleases : Nat
  deriving DecidableEq

namespace Pool

/-- The signers of a list of keys, whose first key stands at place `index`. -/
def signersFrom (chainId : UInt64) : (index : Nat) → List String → Except Failure (List Signer)
  | _, [] => .ok []
  | index, key :: keys =>
      match Signer.ofText index key chainId with
      | .error e => .error e
      | .ok signer =>
          match signersFrom chainId (index + 1) keys with
          | .error e => .error e
          | .ok signers => .ok (signer :: signers)

def ofSigners (signers : List Signer) : Pool where
  slots := signers.map fun s => ⟨s, false, .clear⟩
  totalLeases := 0
  totalReleases := 0

/-- The pool of a list of keys; the first key that cannot be read decides, and there has to be one. -/
def ofKeys (keys : List String) (chainId : UInt64) : Except Failure Pool :=
  match signersFrom chainId 0 keys with
  | .error e => .error e
  | .ok [] => .error (.config "Signer pool needs at least one signer")
  | .ok signers => .ok (ofSigners signers)

def size (p : Pool) : Nat :=
  p.slots.length

def isLeased (p : Pool) (index : Nat) : Bool :=
  (p.slots[index]?.map (·.leased)).getD false

def floor (p : Pool) (index : Nat) : NonceFloor :=
  (p.slots[index]?.map (·.floor)).getD .clear

def signerAt? (p : Pool) (index : Nat) : Option Signer :=
  p.slots[index]?.map (·.signer)

@[simp]
theorem signerAt?_ofSigners (signers : List Signer) (index : Nat) :
    (ofSigners signers).signerAt? index = signers[index]? := by
  simp only [signerAt?, ofSigners, List.getElem?_map]
  cases signers[index]? <;> rfl

@[simp]
theorem isLeased_ofSigners (signers : List Signer) (index : Nat) :
    (ofSigners signers).isLeased index = false := by
  simp only [isLeased, ofSigners, List.getElem?_map]
  cases signers[index]? <;> rfl

def leasedCount (p : Pool) : Nat :=
  p.slots.countP (·.leased)

def stats (p : Pool) : PoolStats :=
  ⟨p.size, p.leasedCount, p.totalLeases, p.totalReleases⟩

/-- The first free signer that is accepted, among slots of which the first stands at place `index`. -/
def firstFree? (accepts : Lease → Bool) : (index : Nat) → List Slot → Option Lease
  | _, [] => none
  | index, slot :: rest =>
      if !slot.leased && accepts ⟨index, slot.signer⟩ then some ⟨index, slot.signer⟩
      else firstFree? accepts (index + 1) rest

def setLeased (p : Pool) (index : Nat) (leased : Bool) : Pool :=
  { p with slots := p.slots.modify index fun s => { s with leased := leased } }

def modifyFloor (p : Pool) (index : Nat) (f : NonceFloor → NonceFloor) : Pool :=
  { p with slots := p.slots.modify index fun s => { s with floor := f s.floor } }

section Lookup

variable (p : Pool) (index other : Nat) (leased : Bool) (change : NonceFloor → NonceFloor)

@[simp]
theorem signerAt?_setLeased : (p.setLeased index leased).signerAt? other = p.signerAt? other := by
  simp only [signerAt?, setLeased, List.getElem?_modify]
  cases p.slots[other]? <;> by_cases h : index = other <;> simp [h]

@[simp]
theorem floor_setLeased : (p.setLeased index leased).floor other = p.floor other := by
  simp only [floor, setLeased, List.getElem?_modify]
  cases p.slots[other]? <;> by_cases h : index = other <;> simp [h]

@[simp]
theorem signerAt?_modifyFloor : (p.modifyFloor index change).signerAt? other = p.signerAt? other := by
  simp only [signerAt?, modifyFloor, List.getElem?_modify]
  cases p.slots[other]? <;> by_cases h : index = other <;> simp [h]

@[simp]
theorem isLeased_modifyFloor : (p.modifyFloor index change).isLeased other = p.isLeased other := by
  simp only [isLeased, modifyFloor, List.getElem?_modify]
  cases p.slots[other]? <;> by_cases h : index = other <;> simp [h]

end Lookup

theorem isLeased_setLeased {p : Pool} {index : Nat} {signer : Signer}
    (known : p.signerAt? index = some signer) (leased : Bool) (other : Nat) :
    (p.setLeased index leased).isLeased other = if index = other then leased else p.isLeased other := by
  obtain ⟨slot, found, -⟩ := Option.map_eq_some_iff.mp known
  simp only [isLeased, setLeased, List.getElem?_modify]
  by_cases h : index = other
  · subst h
    simp [found]
  · simp [h]

theorem floor_modifyFloor {p : Pool} {index : Nat} {signer : Signer}
    (known : p.signerAt? index = some signer) (change : NonceFloor → NonceFloor) (other : Nat) :
    (p.modifyFloor index change).floor other =
      if index = other then change (p.floor other) else p.floor other := by
  obtain ⟨slot, found, -⟩ := Option.map_eq_some_iff.mp known
  simp only [floor, modifyFloor, List.getElem?_modify]
  by_cases h : index = other
  · subst h
    simp [found]
  · simp [h]

/-- Changing one element changes a count by what that element counts before and after. -/
theorem countP_modify {α : Type} (counts : α → Bool) (change : α → α) {l : List α} {i : Nat} {a : α}
    (found : l[i]? = some a) :
    (l.modify i change).countP counts + (counts a).toNat =
      l.countP counts + (counts (change a)).toNat := by
  induction l generalizing i with
  | nil => simp at found
  | cons head rest ih =>
    cases i with
    | zero =>
      obtain rfl : head = a := by simpa using found
      simp only [List.modify_zero_cons, List.countP_cons]
      cases counts head <;> cases counts (change head) <;> simp
    | succ i =>
      have := ih (i := i) (by simpa using found)
      simp only [List.modify_succ_cons, List.countP_cons]
      omega

theorem leasedCount_setLeased {p : Pool} {index : Nat} {signer : Signer}
    (known : p.signerAt? index = some signer) (leased : Bool) :
    (p.setLeased index leased).leasedCount + (p.isLeased index).toNat =
      p.leasedCount + leased.toNat := by
  obtain ⟨slot, found, -⟩ := Option.map_eq_some_iff.mp known
  have counted := countP_modify (·.leased) (fun s : Slot => { s with leased := leased }) found
  simpa [leasedCount, setLeased, isLeased, found] using counted

@[simp]
theorem leasedCount_modifyFloor (p : Pool) (index : Nat) (change : NonceFloor → NonceFloor) :
    (p.modifyFloor index change).leasedCount = p.leasedCount := by
  cases found : p.slots[index]? with
  | none => simp [leasedCount, modifyFloor, List.modify_eq_self (List.getElem?_eq_none_iff.mp found)]
  | some slot =>
    have counted := countP_modify (·.leased) (fun s : Slot => { s with floor := change s.floor }) found
    simpa [leasedCount, modifyFloor] using counted

theorem leasedCount_eq_zero {p : Pool} (free : ∀ index, p.isLeased index = false) :
    p.leasedCount = 0 := by
  unfold leasedCount
  rw [List.countP_eq_zero]
  intro slot member
  obtain ⟨index, there⟩ := List.getElem?_of_mem member
  have := free index
  simp only [isLeased, there, Option.map_some, Option.getD_some] at this
  simp [this]

def lease? (p : Pool) (accepts : Lease → Bool) : Option (Lease × Pool) :=
  match firstFree? accepts 0 p.slots with
  | none => none
  | some lease => some (lease, { p.setLeased lease.index true with totalLeases := p.totalLeases + 1 })

theorem firstFree?_eq_some {accepts : Lease → Bool} {index : Nat} {slots : List Slot} {lease : Lease}
    (found : firstFree? accepts index slots = some lease) :
    ∃ k slot, lease.index = index + k ∧ slots[k]? = some slot ∧ slot.signer = lease.signer ∧
      slot.leased = false ∧ accepts lease = true := by
  induction slots generalizing index with
  | nil => cases found
  | cons slot rest ih =>
    unfold firstFree? at found
    split at found
    · obtain rfl := Option.some.inj found
      simp_all
    · obtain ⟨k, slot', place, there, facts⟩ := ih found
      exact ⟨k + 1, slot', by omega, there, facts⟩

theorem lease?_eq_some {p q : Pool} {accepts : Lease → Bool} {lease : Lease}
    (granted : p.lease? accepts = some (lease, q)) :
    p.signerAt? lease.index = some lease.signer ∧ p.isLeased lease.index = false ∧
      accepts lease = true ∧
      q = { p.setLeased lease.index true with totalLeases := p.totalLeases + 1 } := by
  unfold lease? at granted
  split at granted
  · cases granted
  · rename_i lease' found
    obtain ⟨rfl, rfl⟩ := Prod.mk.inj (Option.some.inj granted)
    obtain ⟨k, slot, place, there, same, free, accepted⟩ := firstFree?_eq_some found
    obtain rfl : lease'.index = k := by omega
    exact ⟨by simp [signerAt?, there, same], by simp [isLeased, there, free], accepted, rfl⟩

theorem firstFree?_eq_none {accepts : Lease → Bool} {index : Nat} {slots : List Slot}
    (nobody : firstFree? accepts index slots = none) {k : Nat} {slot : Slot}
    (there : slots[k]? = some slot) (free : slot.leased = false) :
    accepts ⟨index + k, slot.signer⟩ = false := by
  induction slots generalizing index k with
  | nil => simp at there
  | cons head rest ih =>
    unfold firstFree? at nobody
    split at nobody
    · cases nobody
    rename_i passed
    cases k with
    | zero =>
      obtain rfl : head = slot := by simpa using there
      simpa [free] using passed
    | succ k =>
      have later := ih nobody (k := k) (by simpa using there)
      rwa [show index + 1 + k = index + (k + 1) by omega] at later

theorem lease?_eq_none {p : Pool} {accepts : Lease → Bool} (nobody : p.lease? accepts = none)
    {index : Nat} {signer : Signer} (known : p.signerAt? index = some signer)
    (accepted : accepts ⟨index, signer⟩ = true) : p.isLeased index = true := by
  obtain ⟨slot, there, rfl⟩ := Option.map_eq_some_iff.mp known
  unfold lease? at nobody
  split at nobody
  · rename_i missing
    cases leased : slot.leased with
    | true => simp [isLeased, there, leased]
    | false =>
      have refused := firstFree?_eq_none missing there leased
      rw [Nat.zero_add, accepted] at refused
      cases refused
  · cases nobody

theorem firstFree?_least {accepts : Lease → Bool} {index : Nat} {slots : List Slot} {lease : Lease}
    (found : firstFree? accepts index slots = some lease) {k : Nat} {slot : Slot}
    (there : slots[k]? = some slot) (free : slot.leased = false)
    (accepted : accepts ⟨index + k, slot.signer⟩ = true) : lease.index ≤ index + k := by
  induction slots generalizing index k with
  | nil => cases found
  | cons head rest ih =>
    unfold firstFree? at found
    split at found
    · obtain rfl := Option.some.inj found
      exact Nat.le_add_right _ _
    · rename_i passed
      cases k with
      | zero =>
        obtain rfl : head = slot := by simpa using there
        rw [Nat.add_zero] at accepted
        simp [free, accepted] at passed
      | succ k =>
        have place : index + 1 + k = index + (k + 1) := by omega
        have later := ih found (k := k) (by simpa using there) (by rwa [place])
        omega

theorem lease?_least {p q : Pool} {accepts : Lease → Bool} {lease : Lease}
    (granted : p.lease? accepts = some (lease, q)) {index : Nat} {signer : Signer}
    (known : p.signerAt? index = some signer) (free : p.isLeased index = false)
    (accepted : accepts ⟨index, signer⟩ = true) : lease.index ≤ index := by
  obtain ⟨slot, there, rfl⟩ := Option.map_eq_some_iff.mp known
  have unleased : slot.leased = false := by simpa [isLeased, there] using free
  unfold lease? at granted
  split at granted
  · cases granted
  · rename_i lease' found
    obtain ⟨rfl, -⟩ := Prod.mk.inj (Option.some.inj granted)
    have least := firstFree?_least found there unleased (by rwa [Nat.zero_add])
    omega

def release (p : Pool) (lease : Lease) : Pool :=
  { p.setLeased lease.index false with totalReleases := p.totalReleases + 1 }

def inspect (p : Pool) : List String :=
  p.slots.zipIdx.map fun (s, i) => s.signer.inspect i s.leased

end Pool

end GasFaucet
