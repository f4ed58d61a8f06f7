import GasFaucet.Word

/-!
# Tallies

What the faucet counts: funding requests by outcome, signers passed over, signers on lease, transfers
sent and how their tracking ended, and health checks.  A counter has one count for each list of label
values; `total_bump` says that counting adds one to its total.

Counts are whole numbers without a bound; counters held as floating-point numbers would stand still
from 2 ^ 53 on.
-/

namespace GasFaucet

abbrev Counter := List (List String × Nat)

namespace Counter

def bump : Counter → List String → Counter
  | [], labels => [(labels, 1)]
  | (l, n) :: rest, labels => if l = labels then (l, n + 1) :: rest else (l, n) :: bump rest labels

def count : Counter → List String → Nat
  | [], _ => 0
  | (l, n) :: rest, labels => if l = labels then n else count rest labels

def total : Counter → Nat
  | [] => 0
  | (_, n) :: rest => n + total rest

@[simp]
theorem total_bump (c : Counter) (labels : List String) : (c.bump labels).total = c.total + 1 := by
  induction c with
  | nil => rfl
  | cons head rest ih =>
    obtain ⟨l, n⟩ := head
    unfold bump
    split
    · simp only [total]
      omega
    · simp only [total] at ih ⊢
      omega

@[simp]
theorem count_bump_self (c : Counter) (labels : List String) :
    (c.bump labels).count labels = c.count labels + 1 := by
  induction c with
  | nil => simp [bump, count]
  | cons head rest ih =>
    obtain ⟨l, n⟩ := head
    unfold bump
    split
    · simp_all [count]
    · simp_all [count]

theorem count_bump_of_ne {c : Counter} {labels other : List String} (h : other ≠ labels) :
    (c.bump labels).count other = c.count other := by
  induction c with
  | nil => simp [bump, count, Ne.symm h]
  | cons head rest ih =>
    obtain ⟨l, n⟩ := head
    unfold bump
    split
    · rename_i e
      subst e
      simp [count, Ne.symm h]
    · simp [count, ih]

end Counter

/--
All counts of a running faucet.  Latencies are in milliseconds, in the order of observation.  The
number of signers on lease is shown from the first lease on, or from the start where `showsLeases`
says so.
-/
structure Tally where
  fundRequests : Counter
  signerSkips : Counter
  signersLeased : Int
  showsLeases : Bool
  submitted : Counter
  confirmations : Counter
  latencies : List (String × List Nat)
  healthChecks : Counter

namespace Tally

def empty : Tally where
  fundRequests := []
  signerSkips := []
  signersLeased := 0
  showsLeases := true
  submitted := []
  confirmations := []
  latencies := []
  healthChecks := []

def fundRequest (t : Tally) (chainId : UInt64) (outcome : String) : Tally :=
  { t with fundRequests := t.fundRequests.bump [toString chainId.toNat, outcome] }

def signerSkip (t : Tally) (reason : String) : Tally :=
  { t with signerSkips := t.signerSkips.bump [reason] }

def signerLeased (t : Tally) : Tally :=
  { t with signersLeased := t.signersLeased + 1, showsLeases := true }

def signerReleased (t : Tally) : Tally :=
  { t with signersLeased := t.signersLeased - 1, showsLeases := true }

def transferSubmitted (t : Tally) (chainId : UInt64) : Tally :=
  { t with submitted := t.submitted.bump [toString chainId.toNat] }

def observe : List (String × List Nat) → String → Nat → List (String × List Nat)
  | [], chain, ms => [(chain, [ms])]
  | (c, seen) :: rest, chain, ms =>
      if c = chain then (c, seen ++ [ms]) :: rest else (c, seen) :: observe rest chain ms

/-- The tracking of a transfer ended so many milliseconds after it was sent. -/
def confirmation (t : Tally) (chainId : UInt64) (outcome : String) (ms : Nat) : Tally :=
  { t with
    confirmations := t.confirmations.bump [toString chainId.toNat, outcome]
    latencies := observe t.latencies (toString chainId.toNat) ms }

/-- The node was asked whether it is alive. -/
def healthCheck (t : Tally) (healthy : Bool) : Tally :=
  { t with healthChecks := t.healthChecks.bump [if healthy then "ok" else "failed"] }

def observations : List (String × List Nat) → Nat
  | [] => 0
  | (_, seen) :: rest => seen.length + observations rest

theorem observations_observe (l : List (String × List Nat)) (chain : String) (ms : Nat) :
    observations (observe l chain ms) = observations l + 1 := by
  induction l with
  | nil => rfl
  | cons head rest ih =>
    obtain ⟨c, seen⟩ := head
    unfold observe
    split
    · simp only [observations, List.length_append, List.length_singleton]
      omega
    · simp only [observations] at ih ⊢
      omega

end Tally

end GasFaucet
