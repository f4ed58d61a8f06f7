import GasFaucet.Proofs.Absorption
import GasFaucet.Proofs.Authorisation
import GasFaucet.Proofs.Operations

/-!
# Gas prices

There is always a gas price.  What the settings name comes first, then what is fixed on the network, and
neither needs the node.  Else the node is asked once, and whatever keeps its suggestion from being a price (it
is late, is refused, cannot be read or is zero) makes room for the network's fallback.  Hence no transfer has a
gas price of zero unless the settings name zero.
-/

namespace GasFaucet

/-- A reply that suggests a gas price: it comes in time, can be read and is not zero. -/
structure Delivery.Suggests (d : Delivery) (timeout : Nat) (price : Word) : Prop where
  inTime : d.delay ≤ timeout
  read : ∃ j, d.outcome = .result j ∧ j.word? = some price
  nonzero : price.toNat ≠ 0

/-- The gas price on a network, from the price in gwei that is configured and the node's reply. -/
inductive Network.Prices (n : Network) (configured : Option UInt64) (timeout : Nat) (d : Delivery) :
    Word → Prop
  | configured {amount price} : configured = some amount →
      price.toNat = amount.toNat * 1000000000 → Prices n configured timeout d price
  | fixed {amount price} : configured = none → n.fixedGwei = some amount →
      price.toNat = amount.toNat * 1000000000 → Prices n configured timeout d price
  | suggested {price} : configured = none → n.fixedGwei = none →
      d.Suggests timeout price → Prices n configured timeout d price
  | fallback {price} : configured = none → n.fixedGwei = none →
      (∀ suggestion, ¬d.Suggests timeout suggestion) →
      price.toNat = n.fallbackGwei.toNat * 1000000000 → Prices n configured timeout d price

section Suggestions

variable {n : Network} {configured : Option UInt64} {timeout : Nat} {d : Delivery} {price other : Word}

theorem Delivery.Suggests.unique (first : d.Suggests timeout price) (second : d.Suggests timeout other) :
    other = price := by
  obtain ⟨j, outcome, read⟩ := first.read
  obtain ⟨j', outcome', read'⟩ := second.read
  cases outcome.symm.trans outcome'
  exact Option.some.inj (read'.symm.trans read)

theorem Network.Prices.unique (first : n.Prices configured timeout d price)
    (second : n.Prices configured timeout d other) : other = price := by
  cases first with
  | configured some value =>
    cases second with
    | configured some' value' =>
      cases some.symm.trans some'
      exact BitVec.eq_of_toNat_eq (value'.trans value.symm)
    | fixed none _ _ | suggested none _ _ | fallback none _ _ _ => cases some.symm.trans none
  | fixed none fixed value =>
    cases second with
    | configured some _ => cases none.symm.trans some
    | fixed _ fixed' value' =>
      cases fixed.symm.trans fixed'
      exact BitVec.eq_of_toNat_eq (value'.trans value.symm)
    | suggested _ unfixed _ | fallback _ unfixed _ _ => cases fixed.symm.trans unfixed
  | suggested none unfixed suggests =>
    cases second with
    | configured some _ => cases none.symm.trans some
    | fixed _ fixed _ => cases unfixed.symm.trans fixed
    | suggested _ _ suggests' => exact suggests.unique suggests'
    | fallback _ _ nothing _ => exact absurd suggests (nothing _)
  | fallback none unfixed nothing value =>
    cases second with
    | configured some _ => cases none.symm.trans some
    | fixed _ fixed _ => cases unfixed.symm.trans fixed
    | suggested _ _ suggests => exact absurd suggests (nothing _)
    | fallback _ _ _ value' => exact BitVec.eq_of_toNat_eq (value'.trans value.symm)

theorem mul?_gwei (amount : UInt64) :
    Word.mul? (BitVec.ofNat 256 amount.toNat) (BitVec.ofNat 256 1000000000) = some (gwei amount) := by
  have small := amount.toNat_lt
  rw [Word.mul?_eq_some_iff, toNat_gwei, BitVec.toNat_ofNat, BitVec.toNat_ofNat,
    Nat.mod_eq_of_lt (by omega), Nat.mod_eq_of_lt (by omega)]

theorem Network.gwei_ne_zero (known : n ∈ table) : n.fixedGwei ≠ some 0 ∧ n.fallbackGwei ≠ 0 := by
  have all : ∀ n ∈ table, n.fixedGwei ≠ some 0 ∧ n.fallbackGwei ≠ 0 := by decide
  exact all n known

theorem eq_zero_of_gwei {amount : UInt64} (nothing : (gwei amount).toNat = 0) : amount = 0 := by
  rw [toNat_gwei] at nothing
  exact UInt64.toNat_inj.mp (show amount.toNat = 0 by omega)

end Suggestions

namespace GasPricing

variable {n : Network} {configured : Option UInt64} {timeout : Nat} {d : Delivery} {g : GasPricing}
variable {price : Word} {suggestion : Except Failure Word}

theorem fixed_ofNetwork (n : Network) (configured : Option UInt64) :
    (ofNetwork n configured).fixed = (configured.or n.fixedGwei).map gwei := by
  cases configured <;> rfl

theorem fixed_ofNetwork_eq_none_iff :
    (ofNetwork n configured).fixed = none ↔ configured = none ∧ n.fixedGwei = none := by
  rw [fixed_ofNetwork, Option.map_eq_none_iff, Option.or_eq_none_iff]

/-- A price that needs no node is what the settings name, or else what is fixed on the network. -/
theorem exists_amount_of_fixed (fixed : (ofNetwork n configured).fixed = some price) :
    ∃ amount, price = gwei amount ∧
      (configured = some amount ∨ configured = none ∧ n.fixedGwei = some amount) := by
  rw [fixed_ofNetwork] at fixed
  obtain ⟨amount, first, rfl⟩ := Option.map_eq_some_iff.mp fixed
  exact ⟨amount, rfl, Option.or_eq_some_iff.mp first⟩

theorem prices_of_fixed (fixed : (ofNetwork n configured).fixed = some price) :
    n.Prices configured timeout d price := by
  obtain ⟨amount, rfl, named | ⟨none, named⟩⟩ := exists_amount_of_fixed fixed
  · exact .configured named (toNat_gwei amount)
  · exact .fixed none named (toNat_gwei amount)

theorem settle_eq (g : GasPricing) (suggestion : Except Failure Word) :
    (∃ price, suggestion = .ok price ∧ price.toNat ≠ 0 ∧ (g.settle suggestion).1 = price) ∨
      ((∀ price, suggestion = .ok price → price.toNat = 0) ∧ (g.settle suggestion).1 = g.fallback) := by
  cases suggestion with
  | error f => exact .inr ⟨fun _ impossible => (nomatch impossible), rfl⟩
  | ok price =>
    unfold settle
    dsimp only
    split
    · rename_i zero
      refine .inr ⟨fun price' same => ?_, rfl⟩
      rwa [← Except.ok.inj same]
    · exact .inl ⟨price, rfl, ‹_›, rfl⟩

theorem prices_of_reply (unfixed : (ofNetwork n configured).fixed = none) (timeout : Nat) (d : Delivery) :
    n.Prices configured timeout d
      ((ofNetwork n configured).settle (heard "gas price" Json.word? (d.within timeout))).1 := by
  obtain ⟨none, unfixed⟩ := fixed_ofNetwork_eq_none_iff.mp unfixed
  have reading := reading_heard "gas price" Json.word? timeout d
  have settled := (ofNetwork n configured).settle_eq (heard "gas price" Json.word? (d.within timeout))
  generalize ((ofNetwork n configured).settle (heard "gas price" Json.word? (d.within timeout))).1 = made
    at settled
  generalize heard "gas price" Json.word? (d.within timeout) = result at reading settled
  obtain ⟨price, rfl, nonzero, rfl⟩ | ⟨unusable, rfl⟩ := settled
  · cases reading with
    | read inTime outcome read =>
      exact .suggested none unfixed ⟨inTime, ⟨_, outcome, by simpa using read⟩, nonzero⟩
  · refine .fallback none unfixed (fun suggestion suggests => ?_) (toNat_gwei _)
    obtain ⟨j, outcome, read⟩ := suggests.read
    have said : Reading "gas price" (.query "gas price") (fun j => (Json.word? j).map .ok) timeout d
        (.ok suggestion) := .read suggests.inTime outcome (by rw [read]; rfl)
    exact suggests.nonzero (unusable suggestion (reading.unique said).symm)

theorem eq_zero_of_fixed (known : n ∈ Network.table)
    (fixed : (ofNetwork n configured).fixed = some price) (nothing : price.toNat = 0) :
    configured = some 0 := by
  obtain ⟨amount, rfl, named⟩ := exists_amount_of_fixed fixed
  obtain rfl := eq_zero_of_gwei nothing
  rcases named with named | ⟨-, named⟩
  · exact named
  · exact absurd named (Network.gwei_ne_zero known).1

theorem settle_ne_zero (known : n ∈ Network.table) (suggestion : Except Failure Word) :
    ((ofNetwork n configured).settle suggestion).1.toNat ≠ 0 := by
  obtain ⟨price, -, nonzero, made⟩ | ⟨-, made⟩ := (ofNetwork n configured).settle_eq suggestion
  · rwa [made]
  · rw [made]
    intro nothing
    exact (Network.gwei_ne_zero known).2 (eq_zero_of_gwei nothing)

end GasPricing

theorem Reply.ofExcept_inj {α : Type} {result other : Except Failure α}
    (same : Reply.ofExcept result = .ofExcept other) : result = other := by
  cases result with
  | ok a =>
    cases other with
    | ok b => rw [Reply.value.inj same]
    | error f => cases same
  | error f =>
    cases other with
    | ok b => cases same
    | error f' => rw [Reply.failure.inj same]

namespace Link

variable {n : Network} {configured : Option UInt64} {l : Link} {w : Wire} {g : GasPricing} {price : Word}

/--
How a link finds a gas price: the price is the one on the network, and the node is asked for it, once, only
where none is configured or fixed.
-/
structure FindsPrice (l : Link) (n : Network) (configured : Option UInt64) (w : Wire) : Prop where
  price : n.Prices configured l.timeout w.next (l.gasPrice (.ofNetwork n configured) w).1
  sole : ∀ other, n.Prices configured l.timeout w.next other →
    other = (l.gasPrice (.ofNetwork n configured) w).1
  asked : configured = none → n.fixedGwei = none →
    (l.gasPrice (.ofNetwork n configured) w).2.calls = w.calls ++ [(w.now, .gasPrice)] ∧
      (l.gasPrice (.ofNetwork n configured) w).2.script = w.script.tail
  unasked : configured ≠ none ∨ n.fixedGwei ≠ none → (l.gasPrice (.ofNetwork n configured) w).2 = w
  positive : (l.gasPrice (.ofNetwork n configured) w).1.toNat = 0 → configured = some 0

theorem gasPrice_of_fixed (fixed : g.fixed = some price) : l.gasPrice g w = (price, w) := by
  unfold gasPrice
  rw [fixed]

theorem gasPrice_of_unfixed (unfixed : g.fixed = none) :
    (l.gasPrice g w).1 = (g.settle (l.suggestGasPrice w).1).1 ∧
      (l.gasPrice g w).2.calls = w.calls ++ [(w.now, .gasPrice)] ∧
      (l.gasPrice g w).2.script = w.script.tail := by
  unfold gasPrice
  rw [unfixed]
  exact ⟨rfl, rfl, rfl⟩

theorem finds_price (known : n ∈ Network.table) (configured : Option UInt64) (l : Link) (w : Wire) :
    l.FindsPrice n configured w := by
  cases fixed : (GasPricing.ofNetwork n configured).fixed with
  | some price =>
    have found : l.gasPrice (.ofNetwork n configured) w = (price, w) := gasPrice_of_fixed fixed
    have prices : n.Prices configured l.timeout w.next price := GasPricing.prices_of_fixed fixed
    constructor
    case price => rwa [found]
    case sole => exact fun other => found ▸ prices.unique
    case asked =>
      intro none unfixed
      rw [GasPricing.fixed_ofNetwork_eq_none_iff.mpr ⟨none, unfixed⟩] at fixed
      cases fixed
    case unasked => exact fun _ => by rw [found]
    case positive => exact found ▸ GasPricing.eq_zero_of_fixed known fixed
  | none =>
    obtain ⟨made, calls, script⟩ := gasPrice_of_unfixed (l := l) (w := w) fixed
    have prices := GasPricing.prices_of_reply fixed l.timeout w.next
    change n.Prices configured l.timeout w.next
      ((GasPricing.ofNetwork n configured).settle (l.suggestGasPrice w).1).1 at prices
    rw [← made] at prices
    constructor
    case price => exact prices
    case sole => exact fun other => prices.unique
    case asked => exact fun _ _ => ⟨calls, script⟩
    case unasked =>
      intro named
      obtain ⟨none, unfixed⟩ := GasPricing.fixed_ofNetwork_eq_none_iff.mp fixed
      rcases named with configured | fixed
      · exact absurd none configured
      · exact absurd unfixed fixed
    case positive =>
      rw [made]
      exact fun nothing => absurd nothing (GasPricing.settle_ne_zero known _)

end Link

namespace Faucet

variable {start : Faucet} {p : Policy} {events : List Event} {l : Link} {who : Actor} {t : SignedTransfer}

theorem Via.event (via : start.Via l p events) {k : Nat} {e : Event} (here : events[k]? = some e) :
    e.Via l (start.after p events k) := by
  induction events generalizing start k with
  | nil => cases here
  | cons first rest ih =>
    cases k with
    | zero =>
      cases here
      exact via.1
    | succ k => exact ih via.2 here

theorem exists_priced_of_broadcast (initial : start.Initial)
    (asking : (start.run p events).query? who = some (.broadcast t)) :
    ∃ number funded counted, start.Priced p events number t.gasPrice funded counted := by
  obtain ⟨number, _, _, _, _, -, found⟩ := query?_eq_broadcast asking
  obtain ⟨_, funded, counted, clearance⟩ := exists_clearance initial found
  exact ⟨number, funded, counted, clearance.price⟩

/-- The gas price of a transfer is one on the network, and zero only if zero is configured. -/
theorem gasPrice_of_broadcast {n : Network} {configured : Option UInt64} (known : n ∈ Network.table)
    (initial : start.Initial) (pricing : p.pricing = .ofNetwork n configured)
    (asking : (start.run p events).query? who = some (.broadcast t)) :
    (t.gasPrice.toNat = 0 → configured = some 0) ∧
      (start.Via l p events → ∃ d, n.Prices configured l.timeout d t.gasPrice) := by
  obtain ⟨number, _, _, priced⟩ := exists_priced_of_broadcast initial asking
  unfold Priced at priced
  rw [pricing] at priced
  obtain fixed | ⟨unfixed, k, suggestion, -, -, hears, made⟩ := priced
  · exact ⟨GasPricing.eq_zero_of_fixed known fixed,
      fun _ => ⟨(Wire.fresh []).next, GasPricing.prices_of_fixed fixed⟩⟩
  · rw [made]
    refine ⟨fun nothing => absurd nothing (GasPricing.settle_ne_zero known suggestion), fun via => ?_⟩
    obtain ⟨w, told⟩ := via.event hears.told (.request number) _ _ rfl hears.asks
    rw [Reply.ofExcept_inj (Answer.number.inj told)]
    exact ⟨w.next, GasPricing.prices_of_reply unfixed l.timeout w.next⟩

end Faucet

/--
On every network of the table there is a gas price for every configured one and every reply of the node: wei
from gwei are words, a link finds the price as the network has it, and every transfer goes out with such a
price.
-/
theorem Network.gasPrice_found {n : Network} (known : n ∈ table) (configured : Option UInt64) (l : Link) :
    (∀ amount : UInt64, Word.mul? (BitVec.ofNat 256 amount.toNat) (BitVec.ofNat 256 1000000000) =
      some (gwei amount)) ∧
    (∀ w, l.FindsPrice n configured w) ∧
    ∀ signers (p : Policy) events who t, p.pricing = .ofNetwork n configured →
      ((Faucet.fresh (.ofSigners signers)).run p events).query? who = some (.broadcast t) →
      (t.gasPrice.toNat = 0 → configured = some 0) ∧
        ((Faucet.fresh (.ofSigners signers)).Via l p events →
          ∃ d, n.Prices configured l.timeout d t.gasPrice) := by
  refine ⟨mul?_gwei, l.finds_price known configured, ?_⟩
  intro signers p events who t pricing asking
  exact Faucet.gasPrice_of_broadcast known (Faucet.initial_fresh signers) pricing asking

/-- A node is asked once; what it suggests at the last moment is used, and the fallback instead of zero. -/
theorem Network.gasPrice_found_mainnet :
    let n : Network := ⟨"mainnet", 1, 30, none, 10000000⟩
    let l : Link := ⟨n, "http://localhost:8545", 1000, transferGas, 7⟩
    let usable := Wire.fresh [⟨1000, .result (.string "0x77359400")⟩]
    let zero := Wire.fresh [⟨1000, .result (.string "0x0")⟩]
    let found := l.gasPrice (.ofNetwork n none) usable
    let fallen := l.gasPrice (.ofNetwork n none) zero
    n ∈ table ∧ found.1.toNat = 2000000000 ∧ found.2.calls = [(0, .gasPrice)] ∧
      fallen.1.toNat = 30000000000 ∧ fallen.2.calls = [(0, .gasPrice)] := by
  intro n l usable zero found fallen
  have known : n ∈ table := List.mem_cons_self
  obtain ⟨-, finds, -⟩ := gasPrice_found known none l
  have suggests : usable.next.Suggests l.timeout 2000000000 :=
    ⟨Nat.le_refl _, ⟨_, rfl, by decide⟩, by decide⟩
  have nothing : ∀ suggestion, ¬zero.next.Suggests l.timeout suggestion := by
    intro suggestion suggests
    obtain ⟨j, outcome, read⟩ := suggests.read
    cases outcome
    cases (by decide : Json.word? (.string "0x0") = some 0).symm.trans read
    exact suggests.nonzero rfl
  have price := (finds usable).sole 2000000000 (.suggested rfl rfl suggests)
  have fallback := (finds zero).sole (gwei 30) (.fallback rfl rfl nothing (toNat_gwei 30))
  obtain ⟨asked, -⟩ := (finds usable).asked rfl rfl
  obtain ⟨asked', -⟩ := (finds zero).asked rfl rfl
  refine ⟨known, ?_, asked, ?_, asked'⟩
  · rw [← price]
    rfl
  · rw [← fallback, toNat_gwei]
    rfl

end GasFaucet
