import GasFaucet.Pool
import Mathlib.Data.Finset.Card
import Mathlib.Order.Bounds.Basic

/-!
# Custody

A pool in the hands of somebody who leases signers and gives them back in any order.  A set of indices says
all that there is to see of it: a lease adds the least index that is accepted and not held, and a lease that
is given back takes its index out.
-/

namespace GasFaucet

/-- How a lease is given back: by handing it to the pool, or by dropping it. -/
inductive Parting
  | release
  | drop

/-- What is done with a pool: a signer is leased, or a lease that is live is given back. -/
inductive Dealing
  | lease (accepts : Lease → Bool)
  | giveBack (parting : Parting) (index : Nat)

/-- What comes of a dealing; `absent` says that no lease of that signer is live. -/
inductive Dealing.Outcome
  | leased (lease : Lease)
  | refused
  | returned
  | absent

/-- A pool, with those leases of its signers that are live. -/
structure Custody where
  pool : Pool
  live : List Lease

namespace Custody

def ofPool (p : Pool) : Custody := ⟨p, []⟩

def indices (c : Custody) : List Nat :=
  c.live.map (·.index)

def lease (c : Custody) (accepts : Lease → Bool) : Dealing.Outcome × Custody :=
  match c.pool.lease? accepts with
  | none => (.refused, c)
  | some (lease, pool) => (.leased lease, ⟨pool, lease :: c.live⟩)

def drop (c : Custody) (index : Nat) : Dealing.Outcome × Custody :=
  match c.live.find? (·.index == index) with
  | none => (.absent, c)
  | some lease => (.returned, ⟨c.pool.release lease, c.live.eraseP (·.index == index)⟩)

/-- Hands the live lease of the signer at a place to the pool, which drops it. -/
def release (c : Custody) (index : Nat) : Dealing.Outcome × Custody :=
  c.drop index

/-- What comes of a dealing, and how pool and leases stand after it. -/
def deal (c : Custody) : Dealing → Dealing.Outcome × Custody
  | .lease accepts => c.lease accepts
  | .giveBack .release index => c.release index
  | .giveBack .drop index => c.drop index

def dealAll : Custody → List Dealing → List Dealing.Outcome × Custody
  | c, [] => ([], c)
  | c, d :: dealings =>
      let (outcome, c) := c.deal d
      let (outcomes, c) := c.dealAll dealings
      (outcome :: outcomes, c)

end Custody

/-- The indices that are held, with the numbers of leases granted and given back so far. -/
structure Holding where
  held : Finset Nat
  granted : Nat
  returned : Nat

namespace Holding

def empty : Holding := ⟨∅, 0, 0⟩

def accepted (p : Pool) (accepts : Lease → Bool) : Set Nat :=
  {index | ∃ signer, p.signerAt? index = some signer ∧ accepts ⟨index, signer⟩ = true}

/-- What comes of a dealing where these indices are held, and which are held after it. -/
inductive Deals (p : Pool) (h : Holding) : Dealing → Dealing.Outcome → Holding → Prop
  | leases {accepts lease} : p.signerAt? lease.index = some lease.signer →
      IsLeast {index | index ∈ accepted p accepts ∧ index ∉ h.held} lease.index →
      Deals p h (.lease accepts) (.leased lease) ⟨insert lease.index h.held, h.granted + 1, h.returned⟩
  | refuses {accepts} : (∀ index ∈ accepted p accepts, index ∈ h.held) →
      Deals p h (.lease accepts) .refused h
  | gives {parting index} : index ∈ h.held →
      Deals p h (.giveBack parting index) .returned ⟨h.held.erase index, h.granted, h.returned + 1⟩
  | misses {parting index} : index ∉ h.held → Deals p h (.giveBack parting index) .absent h

/-- What comes of dealings one after the other. -/
inductive DealsAll (p : Pool) : Holding → List Dealing → List Dealing.Outcome → Holding → Prop
  | nil {h} : DealsAll p h [] [] h
  | cons {h h' h'' d dealings outcome outcomes} : Deals p h d outcome h' →
      DealsAll p h' dealings outcomes h'' → DealsAll p h (d :: dealings) (outcome :: outcomes) h''

section Unique

variable {p : Pool} {h h' h'' : Holding} {d : Dealing} {dealings : List Dealing}
variable {outcome outcome' : Dealing.Outcome} {outcomes outcomes' : List Dealing.Outcome}

theorem Deals.unique (one : Deals p h d outcome h') (other : Deals p h d outcome' h'') :
    outcome' = outcome ∧ h'' = h' := by
  cases one with
  | @leases accepts lease known least =>
    cases other with
    | @leases _ lease' known' least' =>
      obtain ⟨index, signer⟩ := lease
      obtain ⟨index', signer'⟩ := lease'
      obtain rfl : index' = index := least'.unique least
      cases known'.symm.trans known
      exact ⟨rfl, rfl⟩
    | refuses all => exact absurd (all _ least.1.1) least.1.2
  | refuses all =>
    cases other with
    | leases _ least => exact absurd (all _ least.1.1) least.1.2
    | refuses _ => exact ⟨rfl, rfl⟩
  | gives there =>
    cases other with
    | gives _ => exact ⟨rfl, rfl⟩
    | misses gone => exact absurd there gone
  | misses gone =>
    cases other with
    | gives there => exact absurd there gone
    | misses _ => exact ⟨rfl, rfl⟩

theorem DealsAll.unique (one : DealsAll p h dealings outcomes h')
    (other : DealsAll p h dealings outcomes' h'') : outcomes' = outcomes ∧ h'' = h' := by
  induction one generalizing outcomes' with
  | nil =>
    cases other
    exact ⟨rfl, rfl⟩
  | cons first _ ih =>
    cases other with
    | cons first' rest' =>
      obtain ⟨rfl, rfl⟩ := first.unique first'
      obtain ⟨rfl, rfl⟩ := ih rest'
      exact ⟨rfl, rfl⟩

end Unique

end Holding

namespace Custody

/-- What there is to see of a pool that started as `p`, where these indices are held. -/
structure Shows (c : Custody) (p : Pool) (h : Holding) : Prop where
  isLeased_iff : ∀ index, c.pool.isLeased index = true ↔ index ∈ h.held
  stats : c.pool.stats = ⟨p.size, h.held.card, p.totalLeases + h.granted, p.totalReleases + h.returned⟩
  live : ∀ index, index ∈ c.indices ↔ index ∈ h.held
  exclusive : c.indices.Nodup
  known : ∀ lease ∈ c.live, p.signerAt? lease.index = some lease.signer
  signer : ∀ index, c.pool.signerAt? index = p.signerAt? index
  floor : ∀ index, c.pool.floor index = p.floor index

variable {c : Custody} {p : Pool} {h : Holding}

theorem Shows.stats_iff {q : Pool} {k : Holding} (shows : c.Shows p h) :
    q.stats = ⟨p.size, k.held.card, p.totalLeases + k.granted, p.totalReleases + k.returned⟩ ↔
      q.size = c.pool.size ∧ q.leasedCount + h.held.card = c.pool.leasedCount + k.held.card ∧
        q.totalLeases + h.granted = c.pool.totalLeases + k.granted ∧
        q.totalReleases + h.returned = c.pool.totalReleases + k.returned := by
  have before := shows.stats
  simp only [Pool.stats, PoolStats.mk.injEq] at before ⊢
  omega

theorem shows_ofPool (free : ∀ index, p.isLeased index = false) : (ofPool p).Shows p .empty where
  isLeased_iff index := by simp [ofPool, free, Holding.empty]
  stats := by
    have idle : p.leasedCount = 0 := Pool.leasedCount_eq_zero free
    simp [ofPool, Holding.empty, Pool.stats, idle]
  live := by simp [indices, ofPool, Holding.empty]
  exclusive := List.nodup_nil
  known := by simp [ofPool]
  signer _ := rfl
  floor _ := rfl

theorem Shows.granted (shows : c.Shows p h) {accepts : Lease → Bool} {lease : Lease} {q : Pool}
    (granted : c.pool.lease? accepts = some (lease, q)) :
    Holding.Deals p h (.lease accepts) (.leased lease)
        ⟨insert lease.index h.held, h.granted + 1, h.returned⟩ ∧
      Shows ⟨q, lease :: c.live⟩ p ⟨insert lease.index h.held, h.granted + 1, h.returned⟩ := by
  obtain ⟨known, free, accepted, rfl⟩ := Pool.lease?_eq_some granted
  have unheld : lease.index ∉ h.held := by
    rw [← shows.isLeased_iff, free]
    exact Bool.false_ne_true
  have there := (shows.signer _).symm.trans known
  constructor
  · refine .leases there ⟨⟨⟨lease.signer, there, accepted⟩, unheld⟩, ?_⟩
    rintro index ⟨⟨signer, there, accepted⟩, unheld⟩
    rw [← shows.isLeased_iff, Bool.not_eq_true] at unheld
    exact Pool.lease?_least granted ((shows.signer index).trans there) unheld accepted
  · constructor
    case isLeased_iff =>
      intro index
      change (c.pool.setLeased lease.index true).isLeased index = true ↔ _
      rw [Pool.isLeased_setLeased known, Finset.mem_insert, ← shows.isLeased_iff]
      by_cases same : lease.index = index
      · simp [same]
      · simp [same, Ne.symm same]
    case stats =>
      have counted := Pool.leasedCount_setLeased known true
      rw [free] at counted
      refine shows.stats_iff.mpr ⟨List.length_modify .., ?_, ?_, rfl⟩
      · change (c.pool.setLeased lease.index true).leasedCount + _ = _ + (insert _ _ : Finset Nat).card
        rw [Finset.card_insert_of_notMem unheld]
        simp only [Bool.toNat_true, Bool.toNat_false] at counted
        omega
      · change c.pool.totalLeases + 1 + _ = _ + (h.granted + 1)
        omega
    case live =>
      intro index
      simp [indices, ← shows.live]
    case exclusive =>
      exact List.nodup_cons.mpr ⟨fun held => unheld ((shows.live _).mp held), shows.exclusive⟩
    case known =>
      intro other live
      rcases List.mem_cons.mp live with rfl | live
      · exact there
      · exact shows.known other live
    case signer =>
      intro index
      change (c.pool.setLeased lease.index true).signerAt? index = _
      rw [Pool.signerAt?_setLeased, shows.signer]
    case floor =>
      intro index
      change (c.pool.setLeased lease.index true).floor index = _
      rw [Pool.floor_setLeased, shows.floor]

theorem lease_of_refused {accepts : Lease → Bool} (refused : (c.lease accepts).1 = .refused) :
    (c.lease accepts).2 = c := by
  unfold Custody.lease at refused ⊢
  cases sought : c.pool.lease? accepts with
  | none => rfl
  | some granted =>
    rw [sought] at refused
    cases refused

theorem Shows.refused (shows : c.Shows p h) {accepts : Lease → Bool}
    (nobody : c.pool.lease? accepts = none) : Holding.Deals p h (.lease accepts) .refused h := by
  refine .refuses ?_
  rintro index ⟨signer, there, accepted⟩
  exact (shows.isLeased_iff index).mp (Pool.lease?_eq_none nobody ((shows.signer index).trans there) accepted)

theorem indices_eraseP (c : Custody) (index : Nat) :
    (c.live.eraseP (·.index == index)).map (·.index) = c.indices.erase index := by
  rw [indices, List.erase_eq_eraseP', List.eraseP_map]
  rfl

/-- A lease that is given back takes its index out of those that are held. -/
theorem Shows.returned (shows : c.Shows p h) {index : Nat} {lease : Lease}
    (found : c.live.find? (·.index == index) = some lease) :
    index ∈ h.held ∧
      Shows ⟨c.pool.release lease, c.live.eraseP (·.index == index)⟩ p
        ⟨h.held.erase index, h.granted, h.returned + 1⟩ := by
  have live := List.mem_of_find?_eq_some found
  obtain rfl : lease.index = index := by simpa using List.find?_some found
  have held : lease.index ∈ h.held := (shows.live _).mp (List.mem_map_of_mem live)
  have known := (shows.signer _).trans (shows.known lease live)
  have leased := (shows.isLeased_iff lease.index).mpr held
  refine ⟨held, ?_⟩
  constructor
  case isLeased_iff =>
    intro index
    change (c.pool.setLeased lease.index false).isLeased index = true ↔ _
    rw [Pool.isLeased_setLeased known, Finset.mem_erase, ← shows.isLeased_iff]
    by_cases same : lease.index = index
    · simp [same]
    · simp [same, Ne.symm same]
  case stats =>
    have counted := Pool.leasedCount_setLeased known false
    have some := Finset.card_pos.mpr ⟨_, held⟩
    rw [leased] at counted
    refine shows.stats_iff.mpr ⟨List.length_modify .., ?_, rfl, ?_⟩
    · change (c.pool.setLeased lease.index false).leasedCount + _ = _ + (Finset.erase _ _).card
      rw [Finset.card_erase_of_mem held]
      simp only [Bool.toNat_true, Bool.toNat_false] at counted
      omega
    · change c.pool.totalReleases + 1 + _ = _ + (h.returned + 1)
      omega
  case live =>
    intro index
    change index ∈ (c.live.eraseP _).map _ ↔ _
    rw [indices_eraseP, shows.exclusive.mem_erase_iff, shows.live, Finset.mem_erase]
  case exclusive =>
    change ((c.live.eraseP _).map _).Nodup
    rw [indices_eraseP]
    exact shows.exclusive.erase _
  case known =>
    intro other there
    exact shows.known other (List.mem_of_mem_eraseP there)
  case signer =>
    intro index
    change (c.pool.setLeased lease.index false).signerAt? index = _
    rw [Pool.signerAt?_setLeased, shows.signer]
  case floor =>
    intro index
    change (c.pool.setLeased lease.index false).floor index = _
    rw [Pool.floor_setLeased, shows.floor]

theorem Shows.lease (shows : c.Shows p h) (accepts : Lease → Bool) :
    ∃ h', Holding.Deals p h (.lease accepts) (c.lease accepts).1 h' ∧ (c.lease accepts).2.Shows p h' := by
  unfold Custody.lease
  cases sought : c.pool.lease? accepts with
  | none => exact ⟨h, shows.refused sought, shows⟩
  | some granted => exact ⟨_, shows.granted sought⟩

theorem Shows.drop (shows : c.Shows p h) (parting : Parting) (index : Nat) :
    ∃ h', Holding.Deals p h (.giveBack parting index) (c.drop index).1 h' ∧ (c.drop index).2.Shows p h' := by
  unfold Custody.drop
  cases found : c.live.find? (·.index == index) with
  | none =>
    have gone : index ∉ h.held := by
      rw [← shows.live]
      simpa [indices] using List.find?_eq_none.mp found
    exact ⟨h, .misses gone, shows⟩
  | some lease =>
    obtain ⟨held, after⟩ := shows.returned found
    exact ⟨_, .gives held, after⟩

theorem Shows.deal (shows : c.Shows p h) (d : Dealing) :
    ∃ h', Holding.Deals p h d (c.deal d).1 h' ∧ (c.deal d).2.Shows p h' := by
  cases d with
  | lease accepts => exact shows.lease accepts
  | giveBack parting index =>
    cases parting with
    | release => exact shows.drop .release index
    | drop => exact shows.drop .drop index

theorem Shows.dealAll (shows : c.Shows p h) (dealings : List Dealing) :
    ∃ h', Holding.DealsAll p h dealings (c.dealAll dealings).1 h' ∧ (c.dealAll dealings).2.Shows p h' := by
  induction dealings generalizing c h with
  | nil => exact ⟨h, .nil, shows⟩
  | cons d dealings ih =>
    obtain ⟨h', first, shows⟩ := shows.deal d
    obtain ⟨h'', rest, shows⟩ := ih shows
    exact ⟨h'', .cons first rest, shows⟩

/--
How a pool that started as `p` stands after these dealings.  What came of them is what the held indices
say and nothing else; a lease that is refused changes nothing at all; and it does not matter how a lease is
given back.
-/
structure Refines (c : Custody) (p : Pool) (dealings : List Dealing) (outcomes : List Dealing.Outcome)
    (h : Holding) : Prop where
  deals : Holding.DealsAll p .empty dealings outcomes h
  determined : ∀ {outcomes' h'}, Holding.DealsAll p .empty dealings outcomes' h' →
    outcomes' = outcomes ∧ h' = h
  shows : c.Shows p h
  refusal : ∀ accepts, (c.deal (.lease accepts)).1 = .refused → (c.deal (.lease accepts)).2 = c
  partings : ∀ index, c.deal (.giveBack .release index) = c.deal (.giveBack .drop index)

/-- A pool from which nothing is leased deals as a set of held indices does. -/
theorem dealAll_refines {p : Pool} (free : ∀ index, p.isLeased index = false) (dealings : List Dealing) :
    ∃ h, ((ofPool p).dealAll dealings).2.Refines p dealings ((ofPool p).dealAll dealings).1 h := by
  obtain ⟨h, deals, shows⟩ := (shows_ofPool free).dealAll dealings
  exact ⟨h, deals, fun other => deals.unique other, shows, fun _ => lease_of_refused, fun _ => rfl⟩

/-- Two signers, of which the second is leased first; nobody is left for the third lease until one is dropped. -/
theorem dealAll_refines_two_signers :
    let first : Signer := ⟨.ofKey ⟨1, by decide, by decide⟩, 1⟩
    let second : Signer := ⟨.ofKey ⟨2, by decide, by decide⟩, 1⟩
    let p := Pool.ofSigners [first, second]
    let dealings : List Dealing := [.lease fun lease => lease.index ≠ 0, .lease fun _ => true,
      .lease fun _ => true, .giveBack .drop 1, .lease fun _ => true]
    let outcomes : List Dealing.Outcome :=
      [.leased ⟨1, second⟩, .leased ⟨0, first⟩, .refused, .returned, .leased ⟨1, second⟩]
    (∀ index, p.isLeased index = false) ∧ ((ofPool p).dealAll dealings).1 = outcomes ∧
      ∃ h, ((ofPool p).dealAll dealings).2.Refines p dealings outcomes h := by
  intro first second p dealings outcomes
  have free : ∀ index, p.isLeased index = false := Pool.isLeased_ofSigners _
  have came : ((ofPool p).dealAll dealings).1 = outcomes := rfl
  obtain ⟨h, refines⟩ := dealAll_refines free dealings
  exact ⟨free, came, h, came ▸ refines⟩

end Custody

end GasFaucet
