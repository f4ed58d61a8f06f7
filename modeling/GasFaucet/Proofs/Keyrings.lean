import GasFaucet.Proofs.Accounts

/-!
# Keyrings

Which lists of key texts make a pool, and which check.  A key text is compared with what it spells: 64 hex
digits behind marks, between white space.  A pool holds the keys in the order of their texts, and the first
text that spells no admissible key is named when there is no pool.  The check of the settings does not
stand in the way of keys that differ.
-/

namespace GasFaucet

section Spelling

variable {digits : List Char} {n : Nat}

def hexMarks (count : Nat) : List Char :=
  (List.replicate count ['0', 'x']).flatten

theorem hexMarks_succ (count : Nat) : hexMarks (count + 1) = '0' :: 'x' :: hexMarks count := by
  simp [hexMarks, List.replicate_succ]

theorem dropHexMarks_hexMarks_append (count : Nat) (rest : List Char) :
    dropHexMarks (hexMarks count ++ rest) = dropHexMarks rest := by
  induction count with
  | zero => rfl
  | succ count ih =>
    rw [hexMarks_succ]
    exact ih

theorem exists_hexMarks (s : List Char) : ∃ count, s = hexMarks count ++ dropHexMarks s := by
  fun_induction dropHexMarks s with
  | case1 rest ih =>
    obtain ⟨count, whole⟩ := ih
    refine ⟨count + 1, ?_⟩
    rw [hexMarks_succ, List.cons_append, List.cons_append, ← whole]
  | case2 s unmarked => exact ⟨0, rfl⟩

theorem unmarked_of_hexNumber? (read : Bytes.hexNumber? digits = some n) (rest : List Char) :
    digits ≠ '0' :: 'x' :: rest ∧ digits ≠ '0' :: 'X' :: rest := by
  obtain ⟨all, -⟩ := Bytes.hexNumber?_eq_some_iff.mp read
  constructor
  · rintro rfl
    cases all 'x' (by simp)
  · rintro rfl
    cases all 'X' (by simp)

theorem dropHexMarks_digits (read : Bytes.hexNumber? digits = some n) : dropHexMarks digits = digits :=
  dropHexMarks.eq_2 _ fun rest => (unmarked_of_hexNumber? read rest).1

theorem dropUpperMark_digits (read : Bytes.hexNumber? digits = some n) : dropUpperMark digits = digits :=
  dropUpperMark.eq_2 _ fun rest => (unmarked_of_hexNumber? read rest).2

theorem dropEitherMark_digits (read : Bytes.hexNumber? digits = some n) : dropEitherMark digits = digits :=
  dropEitherMark.eq_3 _ (fun rest => (unmarked_of_hexNumber? read rest).1)
    fun rest => (unmarked_of_hexNumber? read rest).2

/-- Marks in the order in which they are dropped leave the digits behind them. -/
theorem dropMarks_append (read : Bytes.hexNumber? digits = some n) (count : Nat) {upper either : List Char}
    (isUpper : upper ∈ [[], ['0', 'X']]) (isEither : either ∈ [[], ['0', 'x'], ['0', 'X']]) :
    dropEitherMark (dropUpperMark (dropHexMarks (hexMarks count ++ upper ++ either ++ digits))) =
      digits := by
  have kept := dropEitherMark_digits read
  have bare : dropEitherMark (dropUpperMark (dropHexMarks digits)) = digits := by
    rw [dropHexMarks_digits read, dropUpperMark_digits read, kept]
  rw [List.append_assoc, List.append_assoc, dropHexMarks_hexMarks_append]
  simp only [List.mem_cons, List.not_mem_nil, or_false] at isUpper isEither
  rcases isUpper with rfl | rfl
  · rcases isEither with rfl | rfl | rfl
    · exact bare
    · exact bare
    · exact kept
  · rcases isEither with rfl | rfl | rfl
    · exact kept
    · rfl
    · rfl

theorem exists_upper_either {marks : List Char} (listed : marks ∈ markSpellings) :
    ∃ upper ∈ [[], ['0', 'X']], ∃ either ∈ [[], ['0', 'x'], ['0', 'X']], marks = upper ++ either := by
  simp only [markSpellings, List.mem_cons, List.not_mem_nil, or_false] at listed
  rcases listed with rfl | rfl | rfl | rfl
  · exact ⟨[], by simp, [], by simp, rfl⟩
  · exact ⟨['0', 'X'], by simp, [], by simp, rfl⟩
  · exact ⟨['0', 'X'], by simp, ['0', 'x'], by simp, rfl⟩
  · exact ⟨['0', 'X'], by simp, ['0', 'X'], by simp, rfl⟩

/--
Whether a text spells a number as a key: between white space stand any number of `0x`, after them at most
one `0X`, after it at most one mark in either case, and 64 hex digits of the number.
-/
def SpellsKey (text : String) (n : Nat) : Prop :=
  ∃ count, ∃ upper ∈ [[], ['0', 'X']], ∃ either ∈ [[], ['0', 'x'], ['0', 'X']], ∃ digits,
    Text.Trimmed text.toList (hexMarks count ++ upper ++ either ++ digits) ∧
      digits.length = 64 ∧ Bytes.hexNumber? digits = some n

theorem spellsKey_iff {text : String} :
    SpellsKey text n ↔ (keyDigits text).length = 64 ∧ Bytes.hexNumber? (keyDigits text) = some n := by
  constructor
  · rintro ⟨count, upper, isUpper, either, isEither, digits, trimmed, length, read⟩
    have whole : keyDigits text = digits := by
      unfold keyDigits
      rw [Text.trim_eq_iff.mpr trimmed]
      exact dropMarks_append read count isUpper isEither
    rw [whole]
    exact ⟨length, read⟩
  · rintro ⟨length, read⟩
    obtain ⟨count, marked⟩ := exists_hexMarks (Text.trim text.toList)
    obtain ⟨marks, listed, bare⟩ := exists_markSpelling (dropHexMarks_ne (Text.trim text.toList))
    obtain ⟨upper, isUpper, either, isEither, rfl⟩ := exists_upper_either listed
    refine ⟨count, upper, isUpper, either, isEither, keyDigits text, ?_, length, read⟩
    apply Text.trim_eq_iff.mp
    rw [marked, bare, List.append_assoc, List.append_assoc, List.append_assoc]
    rfl

end Spelling

theorem SpellsKey.unique {text : String} {n m : Nat} (spelled : SpellsKey text n)
    (spelled' : SpellsKey text m) : n = m := by
  have number := (spellsKey_iff.mp spelled).2
  have number' := (spellsKey_iff.mp spelled').2
  exact Option.some.inj (number.symm.trans number')

def AdmissibleKey (text : String) : Prop :=
  ∃ n, SpellsKey text n ∧ 1 ≤ n ∧ n ≤ Secp256k1.order - 1

theorem parseKey_eq_ok_iff_spellsKey {text : String} {key : Secp256k1.PrivateKey} :
    parseKey text = .ok key ↔ SpellsKey text key.scalar := by
  rw [parseKey_eq_ok_iff, spellsKey_iff]

theorem admissibleKey_iff {text : String} : AdmissibleKey text ↔ ∃ key, parseKey text = .ok key := by
  constructor
  · rintro ⟨n, spelled, pos, bound⟩
    have room : 0 < Secp256k1.order := by decide
    exact ⟨⟨n, pos, by omega⟩, parseKey_eq_ok_iff_spellsKey.mpr spelled⟩
  · rintro ⟨key, read⟩
    have bound := key.lt
    exact ⟨key.scalar, parseKey_eq_ok_iff_spellsKey.mp read, key.pos, by omega⟩

theorem not_admissibleKey_of_parseKey {text : String} {e : KeyError} (unread : parseKey text = .error e) :
    ¬AdmissibleKey text := by
  intro admissible
  obtain ⟨key, read⟩ := admissibleKey_iff.mp admissible
  cases unread.symm.trans read

namespace Pool

variable {chainId : UInt64} {keys : List String} {signers : List Signer}

theorem exists_signer_at (spelled : List.Forall₂ (Signer.IsSpelled chainId) keys signers) {i : Nat}
    {text : String} (here : keys[i]? = some text) :
    ∃ s, signers[i]? = some s ∧ s.IsSpelled chainId text := by
  obtain ⟨inside, rfl⟩ := List.getElem?_eq_some_iff.mp here
  have there : i < signers.length := spelled.length_eq ▸ inside
  exact ⟨signers[i], List.getElem?_eq_getElem there, spelled.get inside there⟩

theorem exists_signersFrom_iff (chainId : UInt64) (index : Nat) :
    (∃ signers, signersFrom chainId index keys = .ok signers) ↔ ∀ text ∈ keys, AdmissibleKey text := by
  constructor
  · rintro ⟨signers, made⟩ text member
    obtain ⟨i, here⟩ := List.mem_iff_getElem?.mp member
    obtain ⟨s, -, key, read, -⟩ := exists_signer_at (signersFrom_eq_ok_iff.mp made) here
    exact admissibleKey_iff.mpr ⟨key, read⟩
  · intro admissible
    simp only [signersFrom_eq_ok_iff]
    induction keys with
    | nil => exact ⟨[], .nil⟩
    | cons text rest ih =>
      obtain ⟨first, others⟩ := List.forall_mem_cons.mp admissible
      obtain ⟨key, read⟩ := admissibleKey_iff.mp first
      obtain ⟨signers, spelled⟩ := ih others
      exact ⟨_ :: signers, .cons ⟨key, read, rfl⟩ spelled⟩

/-- Whether the text at a place is the first that spells no admissible key, and why it does not. -/
structure FirstFault (keys : List String) (i : Nat) (e : KeyError) : Prop where
  here : ∃ text, keys[i]? = some text ∧ ¬AdmissibleKey text ∧ parseKey text = .error e
  before : ∀ j < i, ∀ text, keys[j]? = some text → AdmissibleKey text

section FirstFault

variable {text : String} {rest : List String} {i : Nat} {e : KeyError}

theorem firstFault_cons_zero : FirstFault (text :: rest) 0 e ↔ parseKey text = .error e := by
  constructor
  · rintro ⟨⟨_, there, -, unread⟩, -⟩
    obtain rfl : text = _ := by simpa using there
    exact unread
  · intro unread
    exact ⟨⟨text, rfl, not_admissibleKey_of_parseKey unread, unread⟩, by simp⟩

theorem firstFault_cons_succ (first : AdmissibleKey text) :
    FirstFault (text :: rest) (i + 1) e ↔ FirstFault rest i e := by
  constructor
  · rintro ⟨here, before⟩
    refine ⟨by simpa using here, ?_⟩
    intro j earlier other there
    exact before (j + 1) (by omega) other (by simpa using there)
  · rintro ⟨here, before⟩
    refine ⟨by simpa using here, ?_⟩
    intro j earlier other there
    cases j with
    | zero =>
      obtain rfl : text = other := by simpa using there
      exact first
    | succ j => exact before j (by omega) other (by simpa using there)

end FirstFault

theorem signersFrom_eq_error_iff {index : Nat} {f : Failure} :
    signersFrom chainId index keys = .error f ↔
      ∃ i e, FirstFault keys i e ∧ f = .invalidKey (index + i) e.message := by
  induction keys generalizing index with
  | nil =>
    constructor
    · intro failed
      cases failed
    · rintro ⟨i, e, ⟨⟨text, there, -⟩, -⟩, -⟩
      simp at there
  | cons text rest ih =>
    cases read : parseKey text with
    | error e =>
      have failed : signersFrom chainId index (text :: rest) = .error (.invalidKey index e.message) := by
        simp only [signersFrom, Signer.ofText, read]
      rw [failed]
      constructor
      · intro same
        exact ⟨0, e, firstFault_cons_zero.mpr read, (Except.error.inj same).symm⟩
      · rintro ⟨i, e', fault, rfl⟩
        cases i with
        | zero =>
          cases read.symm.trans (firstFault_cons_zero.mp fault)
          rfl
        | succ i =>
          have first := fault.before 0 (by omega) text rfl
          exact absurd first (not_admissibleKey_of_parseKey read)
    | ok key =>
      have first : AdmissibleKey text := admissibleKey_iff.mpr ⟨key, read⟩
      have passed : signersFrom chainId index (text :: rest) = .error f ↔
          signersFrom chainId (index + 1) rest = .error f := by
        simp only [signersFrom, Signer.ofText, read]
        cases signersFrom chainId (index + 1) rest <;> simp
      rw [passed, ih]
      constructor
      · rintro ⟨i, e, fault, rfl⟩
        exact ⟨i + 1, e, (firstFault_cons_succ first).mpr fault, by rw [Nat.add_right_comm, Nat.add_assoc]⟩
      · rintro ⟨i, e, fault, rfl⟩
        cases i with
        | zero => cases read.symm.trans (firstFault_cons_zero.mp fault)
        | succ i =>
          exact ⟨i, e, (firstFault_cons_succ first).mp fault, by rw [Nat.add_right_comm, Nat.add_assoc]⟩

theorem ofKeys_eq_error_iff {f : Failure} :
    ofKeys keys chainId = .error f ↔
      keys = [] ∧ f = .config "Signer pool needs at least one signer" ∨
        ∃ i e, FirstFault keys i e ∧ f = .invalidKey i e.message := by
  unfold ofKeys
  cases made : signersFrom chainId 0 keys with
  | error e =>
    have filled : keys ≠ [] := by
      rintro rfl
      cases made
    have decided : signersFrom chainId 0 keys = .error f ↔ _ := signersFrom_eq_error_iff
    simp only [made, Except.error.injEq, Nat.zero_add] at decided
    simp only [Except.error.injEq, filled, false_and, false_or, decided]
  | ok signers =>
    have faultless (i : Nat) (e : KeyError) : ¬FirstFault keys i e := by
      intro fault
      cases made.symm.trans (signersFrom_eq_error_iff.mpr ⟨i, e, fault, rfl⟩)
    cases signersFrom_eq_ok_iff.mp made with
    | nil =>
      constructor
      · intro failed
        exact .inl ⟨rfl, (Except.error.inj failed).symm⟩
      · rintro (⟨-, rfl⟩ | ⟨i, e, fault, -⟩)
        · rfl
        · exact absurd fault (faultless i e)
    | cons head tail =>
      constructor
      · intro impossible
        cases impossible
      · rintro (⟨empty, -⟩ | ⟨i, e, fault, -⟩)
        · cases empty
        · exact absurd fault (faultless i e)

/--
Whether a pool is made of the keys that texts spell: its signers stand in the order of the texts, each holds
the number that the text at its place spells, and they are free, without a nonce floor.
-/
structure HoldsKeys (chainId : UInt64) (keys : List String) (pool : Pool) : Prop where
  stats : pool.stats = ⟨keys.length, 0, 0, 0⟩
  slot : ∀ (i : Nat) text n, keys[i]? = some text → SpellsKey text n →
    ∃ key, key.scalar = n ∧ pool.slots[i]? = some ⟨⟨.ofKey key, chainId⟩, false, .clear⟩
  shown : ∀ (i : Nat) slot, pool.slots[i]? = some slot →
    pool.inspect[i]? = some (slot.signer.inspect i slot.leased)

theorem HoldsKeys.of_ofKeys {pool : Pool} (made : ofKeys keys chainId = .ok pool) :
    HoldsKeys chainId keys pool := by
  obtain ⟨-, signers, spelled, rfl⟩ := ofKeys_eq_ok_iff.mp made
  constructor
  · have nobody : (ofSigners signers).leasedCount = 0 := by
      simp [leasedCount, ofSigners, List.countP_map, Function.comp_def]
    rw [Pool.stats, nobody, spelled.length_eq]
    simp [size, ofSigners]
  · intro i text n here spells
    obtain ⟨s, there, key, read, rfl⟩ := exists_signer_at spelled here
    refine ⟨key, (parseKey_eq_ok_iff_spellsKey.mp read).unique spells, ?_⟩
    simp [ofSigners, there]
  · intro i slot there
    simp [inspect, there]

end Pool

/-- Texts that spell one admissible number make one signer, at whatever places they stand. -/
theorem Signer.ofText_eq {x y : String} {n : Nat} (chainId : UInt64) (spellsX : SpellsKey x n)
    (spellsY : SpellsKey y n) (pos : 1 ≤ n) (bound : n ≤ Secp256k1.order - 1) :
    ∃ signer, ∀ i j, ofText i x chainId = .ok signer ∧ ofText j y chainId = .ok signer := by
  have room : 0 < Secp256k1.order := by decide
  let key : Secp256k1.PrivateKey := ⟨n, pos, by omega⟩
  have readX : parseKey x = .ok key := parseKey_eq_ok_iff_spellsKey.mpr spellsX
  have readY : parseKey y = .ok key := parseKey_eq_ok_iff_spellsKey.mpr spellsY
  refine ⟨⟨.ofKey key, chainId⟩, fun i j => ?_⟩
  simp only [ofText, readX, readY, and_self]

namespace Pool

/--
A list of texts makes a pool exactly if there are any and all spell admissible keys, and the pool then holds
the keys in the order of the texts; else it is the empty list or the first fault that is named.  What a text
spells is all that counts for the signer.
-/
theorem ofKeys_exact (keys : List String) (chainId : UInt64) :
    ((∃ pool, ofKeys keys chainId = .ok pool) ↔ keys ≠ [] ∧ ∀ text ∈ keys, AdmissibleKey text) ∧
    (∀ pool, ofKeys keys chainId = .ok pool → HoldsKeys chainId keys pool) ∧
    (∀ f, ofKeys keys chainId = .error f ↔
      keys = [] ∧ f = .config "Signer pool needs at least one signer" ∨
        ∃ i e, FirstFault keys i e ∧ f = .invalidKey i e.message) ∧
    ∀ x y n, SpellsKey x n → SpellsKey y n → 1 ≤ n → n ≤ Secp256k1.order - 1 →
      ∃ signer, ∀ i j, Signer.ofText i x chainId = .ok signer ∧ Signer.ofText j y chainId = .ok signer := by
  refine ⟨?_, fun pool made => .of_ofKeys made, fun f => ofKeys_eq_error_iff, ?_⟩
  · rw [← exists_signersFrom_iff chainId 0]
    constructor
    · rintro ⟨pool, made⟩
      obtain ⟨filled, signers, spelled, -⟩ := ofKeys_eq_ok_iff.mp made
      exact ⟨filled, signers, signersFrom_eq_ok_iff.mpr spelled⟩
    · rintro ⟨filled, signers, made⟩
      exact ⟨_, ofKeys_eq_ok_iff.mpr ⟨filled, signers, signersFrom_eq_ok_iff.mp made, rfl⟩⟩
  · intro x y n spellsX spellsY pos bound
    exact Signer.ofText_eq chainId spellsX spellsY pos bound

theorem ofKeys_exact_spelledTwice :
    (∃ pool, ofKeys Settings.spelledTwice.signers.privateKeys 5 = .ok pool ∧
      HoldsKeys 5 Settings.spelledTwice.signers.privateKeys pool) ∧
    ∃ signer, ∀ i j,
      Signer.ofText i "0X4c0883a69102937d6231471b5dbb6204fe5129617082792ae468d01a3f362318" 5 = .ok signer ∧
      Signer.ofText j "4c0883a69102937d6231471b5dbb6204fe5129617082792ae468d01a3f362318" 5 = .ok signer := by
  obtain ⟨-, holds, -, same⟩ := ofKeys_exact Settings.spelledTwice.signers.privateKeys 5
  refine ⟨⟨_, Settings.ofKeys_spelledTwice 5, holds _ (Settings.ofKeys_spelledTwice 5)⟩, ?_⟩
  have marked := parseKey_eq_ok_iff_spellsKey.mp Settings.parseKey_marked
  have bare := parseKey_eq_ok_iff_spellsKey.mp Settings.parseKey_bare
  exact same _ _ _ marked bare (by decide) (by decide)

end Pool

namespace SettingsError

/-- Whether the error is that the key at a place is empty or given before. -/
def BlamesKey (e : SettingsError) (i : Nat) : Prop :=
  e = emptyKey i ∨ e = duplicateKey i

end SettingsError

namespace Settings

variable {e : SettingsError} {i : Nat}

theorem not_blamesKey_of_checkNetwork {s : NetworkSettings} (failed : checkNetwork s = .error e) :
    ¬e.BlamesKey i := by
  unfold checkNetwork at failed
  repeat' split at failed
  all_goals cases failed
  all_goals simp [SettingsError.BlamesKey]

theorem not_blamesKey_of_checkFaucet {s : FundingSettings} (failed : checkFaucet s = .error e) :
    ¬e.BlamesKey i := by
  unfold checkFaucet at failed
  split at failed
  all_goals cases failed
  all_goals simp [SettingsError.BlamesKey]

theorem checkKeys_of_check {s : Settings} (blames : e.BlamesKey i) (failed : s.check = .error e) :
    checkKeys 0 [] s.signers.privateKeys = .error e := by
  unfold check at failed
  split at failed
  · rename_i network
    cases failed
    exact absurd blames (not_blamesKey_of_checkNetwork network)
  split at failed
  · rename_i faucet
    cases failed
    exact absurd blames (not_blamesKey_of_checkFaucet faucet)
  unfold checkSigners at failed
  split at failed
  · cases failed
    rcases blames with noKeys | noKeys <;> cases noKeys
  · exact failed

end Settings

/-- Texts that look the same to the check do not say different keys. -/
theorem key_eq_of_normalizedKey_eq {x y : String} (same : normalizedKey x = normalizedKey y) :
    (∃ key, parseKey x = .ok key ∧ parseKey y = .ok key) ∨
      (∃ e, parseKey x = .error e) ∨ ∃ e, parseKey y = .error e := by
  cases readX : parseKey x with
  | error e => exact .inr (.inl ⟨e, rfl⟩)
  | ok key =>
    cases readY : parseKey y with
    | error e => exact .inr (.inr ⟨e, rfl⟩)
    | ok key' =>
      obtain ⟨-, rfl⟩ := (normalizedKey_eq_iff readX readY).mp same
      exact .inl ⟨key, rfl, rfl⟩

theorem normalizedKey_ne_nil {text : String} {key : Secp256k1.PrivateKey}
    (read : parseKey text = .ok key) : normalizedKey text ≠ [] := by
  intro empty
  have whole := (normalizedKey_of_parseKey read).2
  have count := congrArg List.length (empty.symm.trans whole)
  simp at count

namespace Pool

variable {chainId : UInt64} {keys : List String} {signers : List Signer}

theorem nodup_normalizedKey (spelled : List.Forall₂ (Signer.IsSpelled chainId) keys signers)
    (distinct : (signers.map (·.account.key)).Nodup) : (keys.map normalizedKey).Nodup := by
  induction spelled with
  | nil => exact List.nodup_nil
  | @cons text s keys signers head tail ih =>
    rw [List.map_cons, List.nodup_cons] at distinct ⊢
    refine ⟨?_, ih distinct.2⟩
    intro repeated
    obtain ⟨other, member, same⟩ := List.mem_map.mp repeated
    obtain ⟨j, there⟩ := List.mem_iff_getElem?.mp member
    obtain ⟨s', at_j, key', read', rfl⟩ := exists_signer_at tail there
    obtain ⟨key, read, rfl⟩ := head
    obtain ⟨-, rfl⟩ := (normalizedKey_eq_iff read' read).mp same
    exact distinct.1 (List.mem_map.mpr ⟨_, List.mem_of_getElem? at_j, rfl⟩)

theorem checkKeys_of_signersFrom {index : Nat} (made : signersFrom chainId index keys = .ok signers)
    (distinct : (signers.map (·.account.key)).Nodup) : Settings.checkKeys 0 [] keys = .ok () := by
  have spelled := signersFrom_eq_ok_iff.mp made
  refine Settings.checkKeys_eq_ok_iff.mpr ⟨?_, nodup_normalizedKey spelled distinct⟩
  intro text member
  obtain ⟨i, here⟩ := List.mem_iff_getElem?.mp member
  obtain ⟨s, -, key, read, -⟩ := exists_signer_at spelled here
  exact ⟨normalizedKey_ne_nil read, List.not_mem_nil⟩

end Pool

namespace Settings

/--
The check finds no fault with the keys where all texts can be read and say different keys: texts that look
the same to it say the same key if they say one, and none that says a key looks empty.
-/
theorem check_spares_distinct_keys {s : Settings} {chainId : UInt64} {signers : List Signer}
    (made : Pool.signersFrom chainId 0 s.signers.privateKeys = .ok signers)
    (distinct : (signers.map (·.account.key)).Nodup) :
    (∀ i, s.check ≠ .error (.emptyKey i) ∧ s.check ≠ .error (.duplicateKey i)) ∧
    checkKeys 0 [] s.signers.privateKeys = .ok () ∧
    (∀ x y, normalizedKey x = normalizedKey y →
      (∃ key, parseKey x = .ok key ∧ parseKey y = .ok key) ∨
        (∃ e, parseKey x = .error e) ∨ ∃ e, parseKey y = .error e) ∧
    ∀ text key, parseKey text = .ok key → normalizedKey text ≠ [] := by
  have spared := Pool.checkKeys_of_signersFrom made distinct
  refine ⟨fun i => ⟨?_, ?_⟩, spared, fun x y => key_eq_of_normalizedKey_eq,
    fun text key => normalizedKey_ne_nil⟩
  · intro failed
    cases spared.symm.trans (checkKeys_of_check (.inl rfl) failed)
  · intro failed
    cases spared.symm.trans (checkKeys_of_check (.inr rfl) failed)

/-- Settings with the texts of two keys, of which the first keeps a mark. -/
def spelledApart : Settings :=
  { spelledTwice with
    signers := ⟨["0X4c0883a69102937d6231471b5dbb6204fe5129617082792ae468d01a3f362318",
      " 0x0000000000000000000000000000000000000000000000000000000000000002\n"]⟩ }

theorem check_spares_spelledApart :
    (∀ i, spelledApart.check ≠ .error (.emptyKey i) ∧ spelledApart.check ≠ .error (.duplicateKey i)) ∧
      checkKeys 0 [] spelledApart.signers.privateKeys = .ok () := by
  let second : Secp256k1.PrivateKey := ⟨2, by decide, by decide⟩
  have blank : parseKey " 0x0000000000000000000000000000000000000000000000000000000000000002\n" =
      .ok second := by decide
  have made : Pool.signersFrom 5 0 spelledApart.signers.privateKeys =
      .ok [⟨.ofKey spelledKey, 5⟩, ⟨.ofKey second, 5⟩] :=
    Pool.signersFrom_eq_ok_iff.mpr (.cons ⟨_, parseKey_marked, rfl⟩ (.cons ⟨_, blank, rfl⟩ .nil))
  have distinct : [spelledKey, second].Nodup := by decide
  obtain ⟨spared, checked, -⟩ := check_spares_distinct_keys made distinct
  exact ⟨spared, checked⟩

end Settings

end GasFaucet
