import GasFaucet.Settings.Check
import Mathlib.Data.List.Basic

/-!
# Secrecy

Neither the check of settings nor their description gives the texts of keys away.  All that shows of the keys
is how many there are, which of them are empty and which coincide: settings in which these are the same, and
which differ in nothing but the texts of their keys, are accepted or refused alike, and read alike.
-/

namespace GasFaucet

/-- Lists of key texts as long as each other, whose texts are empty and coincide at the same places. -/
structure KeysAlike (keys keys' : List String) : Prop where
  length : keys.length = keys'.length
  empty : ∀ i < keys.length,
    (keys[i]?.map normalizedKey = some [] ↔ keys'[i]?.map normalizedKey = some [])
  coincide : ∀ i < keys.length, ∀ j < keys.length,
    (keys[i]?.map normalizedKey = keys[j]?.map normalizedKey ↔
      keys'[i]?.map normalizedKey = keys'[j]?.map normalizedKey)

/-- Pairs of texts, one of each list, of which the check makes the same. -/
structure PairsAlike (pairs : List (String × String)) : Prop where
  empty : ∀ x ∈ pairs, normalizedKey x.1 = [] ↔ normalizedKey x.2 = []
  coincide : ∀ x ∈ pairs, ∀ y ∈ pairs,
    (normalizedKey x.1 = normalizedKey y.1 ↔ normalizedKey x.2 = normalizedKey y.2)

theorem KeysAlike.zip {keys keys' : List String} (alike : KeysAlike keys keys') :
    PairsAlike (keys.zip keys') := by
  have place {x : String × String} (member : x ∈ keys.zip keys') :
      ∃ i < keys.length, keys[i]? = some x.1 ∧ keys'[i]? = some x.2 := by
    obtain ⟨i, there⟩ := List.mem_iff_getElem?.mp member
    obtain ⟨here, here'⟩ := List.getElem?_zip_eq_some.mp there
    obtain ⟨inside, -⟩ := List.getElem?_eq_some_iff.mp here
    exact ⟨i, inside, here, here'⟩
  constructor
  case empty =>
    intro x member
    obtain ⟨i, inside, here, here'⟩ := place member
    simpa [here, here'] using alike.empty i inside
  case coincide =>
    intro x first y second
    obtain ⟨i, inside, here, here'⟩ := place first
    obtain ⟨j, within, there, there'⟩ := place second
    simpa [here, here', there, there'] using alike.coincide i inside j within

namespace Settings

/-- The check goes through two lists in step, with what it has seen of either behind it. -/
theorem checkKeys_alike {pairs seen rest : List (String × String)} (alike : PairsAlike pairs)
    (old : seen ⊆ pairs) (new : rest ⊆ pairs) (index : Nat) :
    checkKeys index (seen.map fun x => normalizedKey x.1) (rest.map Prod.fst) =
      checkKeys index (seen.map fun x => normalizedKey x.2) (rest.map Prod.snd) := by
  induction rest generalizing seen index with
  | nil => rfl
  | cons x rest ih =>
    obtain ⟨here, later⟩ := List.cons_subset.mp new
    have empty := alike.empty x here
    have known : normalizedKey x.1 ∈ seen.map (fun y => normalizedKey y.1) ↔
        normalizedKey x.2 ∈ seen.map (fun y => normalizedKey y.2) := by
      simp only [List.mem_map]
      exact exists_congr fun y => and_congr_right fun before => alike.coincide y (old before) x here
    have next := ih (List.cons_subset.mpr ⟨here, old⟩) later (index + 1)
    simp only [List.map_cons, checkKeys, empty, known]
    split
    · rfl
    split
    · rfl
    · exact next

theorem checkSigners_alike {s t : SignerSettings} (alike : KeysAlike s.privateKeys t.privateKeys) :
    checkSigners s = checkSigners t := by
  have step := checkKeys_alike alike.zip (List.nil_subset _) (List.Subset.refl _) 0
  rw [List.map_fst_zip (Nat.le_of_eq alike.length), List.map_snd_zip (Nat.le_of_eq alike.length.symm)]
    at step
  have filled : s.privateKeys.isEmpty = t.privateKeys.isEmpty := by
    rw [Bool.eq_iff_iff, List.isEmpty_iff_length_eq_zero, List.isEmpty_iff_length_eq_zero, alike.length]
  unfold checkSigners
  rw [filled]
  exact congrArg _ step

theorem inspect_signers {s t : SignerSettings} (length : s.privateKeys.length = t.privateKeys.length) :
    s.inspect = t.inspect := by
  unfold SignerSettings.inspect
  rw [length]

/--
Settings that differ in nothing but the texts of their keys, with empty and coinciding keys at the same places,
are accepted alike, or refused with the same error and so with the same sentence, and their descriptions are the
same.
-/
theorem keys_undisclosed {s t : Settings} (others : t = { s with signers := t.signers })
    (alike : KeysAlike s.signers.privateKeys t.signers.privateKeys) :
    s.check = t.check ∧ s.inspect = t.inspect := by
  rw [others]
  constructor
  · unfold check
    rw [checkSigners_alike alike]
  · unfold inspect
    rw [inspect_signers alike.length]

/-- Two different keys, each given twice: both lists are refused for the second text. -/
theorem keys_undisclosed_repeated :
    let s : Settings :=
      ⟨{}, { name := "goerli", endpoint := "http://localhost:8545" }, ⟨["0x4c08", " 4C08"]⟩, {}, {}, {}⟩
    let t : Settings := { s with signers := ⟨["0123 ", "0x0x0123"]⟩ }
    s.check = .error (.duplicateKey 1) ∧ t.check = .error (.duplicateKey 1) ∧ s.inspect = t.inspect := by
  intro s t
  have alike : KeysAlike s.signers.privateKeys t.signers.privateKeys :=
    ⟨rfl, by decide, by decide⟩
  have refused : s.check = .error (.duplicateKey 1) := by decide
  obtain ⟨check, text⟩ := keys_undisclosed rfl alike
  exact ⟨refused, check ▸ refused, text⟩

end Settings

end GasFaucet
