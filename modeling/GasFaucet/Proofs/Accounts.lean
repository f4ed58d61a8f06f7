import GasFaucet.Pool
import GasFaucet.Proofs.Spellings
import Mathlib.Data.List.Forall2

/-!
# Accounts

Which accounts a pool holds.  The keys of accepted settings look different to the check, and every signer
stands for the key text at its place.  So an account is in the pool twice only where its key is spelled
behind different marks, which the check does not see through.
-/

namespace GasFaucet

namespace Settings

theorem checkKeys_eq_ok_iff {index : Nat} {seen : List (List Char)} {keys : List String} :
    checkKeys index seen keys = .ok () ↔
      (∀ key ∈ keys, normalizedKey key ≠ [] ∧ normalizedKey key ∉ seen) ∧
        (keys.map normalizedKey).Nodup := by
  induction keys generalizing index seen with
  | nil => simp [checkKeys]
  | cons key rest ih =>
    unfold checkKeys
    dsimp only
    split
    · rename_i blank
      simp [blank]
    split
    · rename_i known
      simp [known]
    · rename_i filled unseen
      rw [ih, List.map_cons, List.nodup_cons, List.forall_mem_cons]
      constructor
      · rintro ⟨others, apart⟩
        refine ⟨⟨⟨filled, unseen⟩, ?_⟩, ?_, apart⟩
        · intro k member
          obtain ⟨full, fresh⟩ := others k member
          exact ⟨full, fun known => fresh (List.mem_cons_of_mem _ known)⟩
        · intro repeated
          obtain ⟨k, member, same⟩ := List.mem_map.mp repeated
          exact (others k member).2 (List.mem_cons.mpr (.inl same))
      · rintro ⟨⟨-, others⟩, elsewhere, apart⟩
        refine ⟨?_, apart⟩
        intro k member
        obtain ⟨full, fresh⟩ := others k member
        refine ⟨full, fun known => ?_⟩
        rcases List.mem_cons.mp known with same | before
        · exact elsewhere (List.mem_map.mpr ⟨k, member, same⟩)
        · exact fresh before

theorem check_eq_ok_iff {s : Settings} : s.check = .ok () ↔
    checkNetwork s.network = .ok () ∧ checkFaucet s.faucet = .ok () ∧ checkSigners s.signers = .ok () := by
  unfold check
  cases checkNetwork s.network with
  | error e => simp
  | ok _ =>
    cases checkFaucet s.faucet with
    | error e => simp
    | ok _ => simp

/-- Accepted settings name at least one key, and no two of them look the same. -/
theorem keys_of_check {s : Settings} (accepted : s.check = .ok ()) :
    s.signers.privateKeys ≠ [] ∧ (s.signers.privateKeys.map normalizedKey).Nodup := by
  obtain ⟨-, -, signers⟩ := check_eq_ok_iff.mp accepted
  unfold checkSigners at signers
  split at signers
  · cases signers
  · rename_i filled
    exact ⟨by simpa using filled, (checkKeys_eq_ok_iff.mp signers).2⟩

end Settings

def Signer.IsSpelled (chainId : UInt64) (text : String) (s : Signer) : Prop :=
  ∃ key, parseKey text = .ok key ∧ s = ⟨.ofKey key, chainId⟩

namespace Pool

theorem signersFrom_eq_ok_iff {chainId : UInt64} {index : Nat} {keys : List String}
    {signers : List Signer} :
    signersFrom chainId index keys = .ok signers ↔
      List.Forall₂ (Signer.IsSpelled chainId) keys signers := by
  induction keys generalizing index signers with
  | nil => simp [signersFrom, eq_comm]
  | cons text rest ih =>
    unfold signersFrom Signer.ofText
    cases read : parseKey text with
    | error e =>
      constructor
      · intro impossible
        cases impossible
      · rintro (_ | ⟨⟨key, read', -⟩, -⟩)
        cases read.symm.trans read'
    | ok key =>
      dsimp only
      cases others : signersFrom chainId (index + 1) rest with
      | error e =>
        constructor
        · intro impossible
          cases impossible
        · rintro (_ | ⟨-, tail⟩)
          cases others.symm.trans (ih.mpr tail)
      | ok tail =>
        constructor
        · intro made
          obtain rfl := Except.ok.inj made
          exact .cons ⟨key, read, rfl⟩ (ih.mp others)
        · rintro (_ | ⟨⟨key', read', rfl⟩, spelled⟩)
          cases read.symm.trans read'
          cases others.symm.trans (ih.mpr spelled)
          rfl

theorem ofKeys_eq_ok_iff {chainId : UInt64} {keys : List String} {pool : Pool} :
    ofKeys keys chainId = .ok pool ↔
      keys ≠ [] ∧ ∃ signers, List.Forall₂ (Signer.IsSpelled chainId) keys signers ∧
        pool = ofSigners signers := by
  unfold ofKeys
  cases made : signersFrom chainId 0 keys with
  | error e =>
    constructor
    · intro impossible
      cases impossible
    · rintro ⟨-, signers, spelled, -⟩
      cases made.symm.trans (signersFrom_eq_ok_iff.mpr spelled)
  | ok signers =>
    have spelled := signersFrom_eq_ok_iff.mp made
    cases signers with
    | nil =>
      cases spelled
      simp
    | cons first rest =>
      cases spelled with
      | cons head tail =>
        constructor
        · intro built
          obtain rfl := Except.ok.inj built
          exact ⟨by simp, first :: rest, .cons head tail, rfl⟩
        · rintro ⟨-, others, spelled', rfl⟩
          cases made.symm.trans (signersFrom_eq_ok_iff.mpr spelled')
          rfl

theorem isSpelled_of_ofKeys {chainId : UInt64} {keys : List String} {pool : Pool}
    (made : ofKeys keys chainId = .ok pool) {index : Nat} {signer : Signer}
    (here : pool.signerAt? index = some signer) :
    ∃ text, keys[index]? = some text ∧ signer.IsSpelled chainId text := by
  obtain ⟨-, signers, spelled, rfl⟩ := ofKeys_eq_ok_iff.mp made
  rw [signerAt?_ofSigners] at here
  obtain ⟨inside, there⟩ := List.getElem?_eq_some_iff.mp here
  have place : index < keys.length := by rw [spelled.length_eq]; exact inside
  refine ⟨keys[index], List.getElem?_eq_getElem place, ?_⟩
  rw [← there]
  exact spelled.get place inside

end Pool

namespace Settings

/-- The check tells the texts of one key apart by nothing but the marks that they keep. -/
theorem marks_differ {s : Settings} (accepted : s.check = .ok ()) {chainId : UInt64} {pool : Pool}
    (made : Pool.ofKeys s.signers.privateKeys chainId = .ok pool) {i j : Nat} {a b : Signer}
    (here : pool.signerAt? i = some a) (there : pool.signerAt? j = some b) (elsewhere : i ≠ j)
    (same : a.account.key = b.account.key) :
    ∃ x y, s.signers.privateKeys[i]? = some x ∧ s.signers.privateKeys[j]? = some y ∧
      keptMarks x ≤ 2 ∧ keptMarks y ≤ 2 ∧ keptMarks x ≠ keptMarks y := by
  obtain ⟨-, apart⟩ := keys_of_check accepted
  obtain ⟨x, atI, key, readX, rfl⟩ := Pool.isSpelled_of_ofKeys made here
  obtain ⟨y, atJ, key', readY, rfl⟩ := Pool.isSpelled_of_ofKeys made there
  refine ⟨x, y, atI, atJ, (normalizedKey_of_parseKey readX).1, (normalizedKey_of_parseKey readY).1, ?_⟩
  intro marks
  have alike : normalizedKey x = normalizedKey y :=
    (normalizedKey_eq_iff readX readY).mpr ⟨marks, same⟩
  obtain ⟨inside, -⟩ := List.getElem?_eq_some_iff.mp atI
  apply elsewhere
  apply (List.getElem?_inj (by simpa using inside) apart).mp
  simp [atI, atJ, alike]

/--
In a pool made by accepted settings two places hold one account only if the texts of its key keep different
numbers of marks, of which none has more than two; so all accounts differ if no bare key begins with `0X`.
-/
theorem accounts_differ_but_for_marks {s : Settings} (accepted : s.check = .ok ()) {chainId : UInt64}
    {pool : Pool} (made : Pool.ofKeys s.signers.privateKeys chainId = .ok pool) :
    (∀ (i j : Nat) a b, pool.signerAt? i = some a → pool.signerAt? j = some b → i ≠ j →
      a.account.key = b.account.key →
      ∃ x y, s.signers.privateKeys[i]? = some x ∧ s.signers.privateKeys[j]? = some y ∧
        keptMarks x ≤ 2 ∧ keptMarks y ≤ 2 ∧ keptMarks x ≠ keptMarks y) ∧
    ((∀ text ∈ s.signers.privateKeys, ∀ rest, bareKey text ≠ '0' :: 'X' :: rest) →
      ∀ (i j : Nat) a b, pool.signerAt? i = some a → pool.signerAt? j = some b → i ≠ j →
      a.account.key ≠ b.account.key) := by
  have differ := fun (i j : Nat) a b => marks_differ accepted made (i := i) (j := j) (a := a) (b := b)
  refine ⟨differ, ?_⟩
  intro plain i j a b here there elsewhere same
  obtain ⟨x, y, atI, atJ, -, -, marks⟩ := differ i j a b here there elsewhere same
  rw [keptMarks_eq_zero (plain x (List.mem_of_getElem? atI)),
    keptMarks_eq_zero (plain y (List.mem_of_getElem? atJ))] at marks
  exact marks rfl

/-- Settings with the texts of one key, of which the first keeps a mark. -/
def spelledTwice : Settings where
  faucet := {}
  network := { name := "goerli", endpoint := "http://localhost:8545" }
  signers := ⟨["0X4c0883a69102937d6231471b5dbb6204fe5129617082792ae468d01a3f362318",
    "4c0883a69102937d6231471b5dbb6204fe5129617082792ae468d01a3f362318"]⟩
  api := {}
  metrics := {}
  logging := {}

def spelledKey : Secp256k1.PrivateKey where
  scalar := 0x4c0883a69102937d6231471b5dbb6204fe5129617082792ae468d01a3f362318
  pos := by decide
  lt := by decide

theorem check_spelledTwice : spelledTwice.check = .ok () := by
  decide

theorem parseKey_marked :
    parseKey "0X4c0883a69102937d6231471b5dbb6204fe5129617082792ae468d01a3f362318" = .ok spelledKey := by
  decide

theorem parseKey_bare :
    parseKey "4c0883a69102937d6231471b5dbb6204fe5129617082792ae468d01a3f362318" = .ok spelledKey := by
  decide

theorem ofKeys_spelledTwice (chainId : UInt64) :
    Pool.ofKeys spelledTwice.signers.privateKeys chainId =
      .ok (.ofSigners [⟨.ofKey spelledKey, chainId⟩, ⟨.ofKey spelledKey, chainId⟩]) := by
  rw [Pool.ofKeys_eq_ok_iff]
  exact ⟨List.cons_ne_nil _ _, _,
    .cons ⟨_, parseKey_marked, rfl⟩ (.cons ⟨_, parseKey_bare, rfl⟩ .nil), rfl⟩

theorem marks_differ_in_spelledTwice :
    ∃ x y, spelledTwice.signers.privateKeys[0]? = some x ∧
      spelledTwice.signers.privateKeys[1]? = some y ∧
      keptMarks x ≤ 2 ∧ keptMarks y ≤ 2 ∧ keptMarks x ≠ keptMarks y :=
  (accounts_differ_but_for_marks check_spelledTwice (ofKeys_spelledTwice 5)).1 0 1
    ⟨.ofKey spelledKey, 5⟩ ⟨.ofKey spelledKey, 5⟩ rfl rfl (by decide) rfl

/-- The check accepts an account that is named twice, and it is in the pool twice. -/
theorem account_twice_in_spelledTwice :
    ∃ pool, spelledTwice.check = .ok () ∧ Pool.ofKeys spelledTwice.signers.privateKeys 5 = .ok pool ∧
      ∃ a b, pool.signerAt? 0 = some a ∧ pool.signerAt? 1 = some b ∧ a.account.key = b.account.key :=
  ⟨_, check_spelledTwice, ofKeys_spelledTwice 5, ⟨.ofKey spelledKey, 5⟩, ⟨.ofKey spelledKey, 5⟩,
    rfl, rfl, rfl⟩

end Settings

end GasFaucet
