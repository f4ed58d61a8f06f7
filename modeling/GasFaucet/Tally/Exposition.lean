import GasFaucet.Tally
import GasFaucet.Text.Shortest
import GasFaucet.Time

/-!
# Text of the tallies

The tallies as families of lines in the exposition format of Prometheus: families by name, samples by
their label values.
-/

namespace GasFaucet.Tally

/-- One line of a family: a name, labels with their values, and the value. -/
structure Sample where
  name : String
  labels : List (String × String)
  value : String

structure Family where
  name : String
  help : String
  kind : String
  samples : List Sample

/-- A label value between quotes; the backslash, the newline and the quote are escaped. -/
def labelText (value : String) : String :=
  let escape : Char → List Char := fun c =>
    if c = '\\' then ['\\', '\\'] else if c = '\n' then ['\\', 'n'] else if c = '"' then ['\\', '"'] else [c]
  String.ofList ('"' :: value.toList.flatMap escape ++ ['"'])

def Sample.line (s : Sample) : String :=
  let labels := s.labels.map fun (k, v) => k ++ "=" ++ labelText v
  let braced := if labels.isEmpty then "" else "\x7b" ++ ",".intercalate labels ++ "\x7d"
  s.name ++ braced ++ " " ++ s.value

def Family.sampleLines (f : Family) : List String :=
  f.samples.map Sample.line

def Family.lines (f : Family) : List String :=
  ("# HELP " ++ f.name ++ " " ++ f.help) :: ("# TYPE " ++ f.name ++ " " ++ f.kind) :: f.sampleLines

def labelsLe : List String → List String → Bool
  | [], _ => true
  | _ :: _, [] => false
  | a :: as, b :: bs => if a = b then labelsLe as bs else decide (a < b)

def counterFamily (name help : String) (labels : List String) (c : Counter) : Family where
  name := name
  help := help
  kind := "counter"
  samples := (c.mergeSort fun a b => labelsLe a.1 b.1).map fun (values, n) =>
    ⟨name, labels.zip values, toString n⟩

def latencyBounds : List Nat :=
  [1, 5, 10, 30, 60, 120, 300, 600]

/-- The lines of one chain's latencies: counts up to each bound, their sum and their number. -/
def latencySamples (name chain : String) (observed : List Nat) : List Sample :=
  let label := ("chain_id", chain)
  let bucket := fun (bound : String) (count : Nat) =>
    Sample.mk (name ++ "_bucket") [label, ("le", bound)] (toString count)
  latencyBounds.map (fun b => bucket (toString b) (observed.countP (· ≤ b * 1000))) ++
    [bucket "+Inf" observed.length,
     ⟨name ++ "_sum", [label], Text.shortest (observed.foldl (fun s ms => s + Time.seconds ms) 0)⟩,
     ⟨name ++ "_count", [label], toString observed.length⟩]

def families (t : Tally) : List Family :=
  let latency := "faucet_transaction_latency_seconds"
  [counterFamily "faucet_fund_requests_total" "Funding requests by outcome"
     ["chain_id", "outcome"] t.fundRequests,
   counterFamily "faucet_health_checks_total" "Node health checks by result" ["result"] t.healthChecks,
   counterFamily "faucet_signer_skips_total" "Leased signers passed over during a funding attempt"
     ["reason"] t.signerSkips,
   ⟨"faucet_signers_leased", "Signers currently leased", "gauge",
     if t.showsLeases then [⟨"faucet_signers_leased", [], toString t.signersLeased⟩] else []⟩,
   counterFamily "faucet_transaction_confirmations_total"
     "Tracked funding transactions by terminal state" ["chain_id", "outcome"] t.confirmations,
   ⟨latency, "Time from broadcast to terminal state", "histogram",
     (t.latencies.mergeSort fun a b => labelsLe [a.1] [b.1]).flatMap fun (chain, observed) =>
       latencySamples latency chain observed⟩,
   counterFamily "faucet_transactions_submitted_total" "Funding transactions broadcast"
     ["chain_id"] t.submitted].filter fun f => !f.samples.isEmpty

def sampleLines (t : Tally) : List String :=
  t.families.flatMap Family.sampleLines

def lines (t : Tally) : List String :=
  t.families.flatMap Family.lines

end GasFaucet.Tally
