import GasFaucet.Settings.Check
import Mathlib.Algebra.Group.Nat.Defs
import Mathlib.Data.List.Induction

/-!
# Spellings

When two texts say the same private key.  A key text is read as the number of its 64 hex digits, and the
check of the settings sees the text in lower case.  For texts that say keys it sees the key, behind the
marks that are not dropped: the check drops `0x`, while `0X` goes only when the key is read.
-/

namespace GasFaucet

namespace Bytes

theorem ascii_of_hexValue? {c : Char} {v : Nat} (digit : hexValue? c = some v) : c.toNat < 128 := by
  unfold hexValue? at digit
  simp only [Char.le_def, UInt32.le_iff_toNat_le] at digit
  simp only [Char.toNat]
  split at digit
  · have : '9'.val.toNat < 128 := by decide
    omega
  split at digit
  · have : 'f'.val.toNat < 128 := by decide
    omega
  split at digit
  · have : 'F'.val.toNat < 128 := by decide
    omega
  · cases digit

/-- A hex digit has a value below 16, and in lower case it is the digit of that value. -/
theorem toLower_of_hexValue? {c : Char} {v : Nat} (digit : hexValue? c = some v) :
    v < 16 ∧ c.toLower = hexDigit v := by
  have all : ∀ n < 128, ∀ v ∈ hexValue? (Char.ofNat n),
      v < 16 ∧ (Char.ofNat n).toLower = hexDigit v := by decide +kernel
  simpa using all c.toNat (ascii_of_hexValue? digit) v (by simpa using digit)

theorem hexNumber?_append_singleton (digits : List Char) (c : Char) :
    hexNumber? (digits ++ [c]) =
      (hexNumber? digits).bind fun n => (hexValue? c).map (16 * n + ·) := by
  simp [hexNumber?, List.foldlM_append]

/-- The last `width` hex digits of a number, in lower case. -/
def spelled : (width n : Nat) → List Char
  | 0, _ => []
  | width + 1, n => spelled width (n / 16) ++ [hexDigit (n % 16)]

/-- Hex digits in lower case are determined by the number that they write and how many they are. -/
theorem map_toLower_of_hexNumber? {digits : List Char} {n : Nat} (read : hexNumber? digits = some n) :
    digits.map Char.toLower = spelled digits.length n := by
  induction digits using List.reverseRecOn generalizing n with
  | nil => rfl
  | append_singleton digits c ih =>
    rw [hexNumber?_append_singleton] at read
    obtain ⟨high, readHigh, low⟩ := Option.bind_eq_some_iff.mp read
    obtain ⟨v, digit, rfl⟩ := Option.map_eq_some_iff.mp low
    obtain ⟨small, lowered⟩ := toLower_of_hexValue? digit
    have quotient : (16 * high + v) / 16 = high := by omega
    have remainder : (16 * high + v) % 16 = v := by omega
    simp [spelled, quotient, remainder, ih readHigh, lowered]

@[simp]
theorem length_spelled (width n : Nat) : (spelled width n).length = width := by
  induction width generalizing n with
  | zero => rfl
  | succ width ih => simp [spelled, ih]

theorem hexNumber?_spelled {width n : Nat} (fits : n < 16 ^ width) :
    hexNumber? (spelled width n) = some n := by
  induction width generalizing n with
  | zero =>
    obtain rfl : n = 0 := by simpa using fits
    rfl
  | succ width ih =>
    have high : n / 16 < 16 ^ width := by
      rw [Nat.pow_succ] at fits
      omega
    have low := hexValue?_hexDigit (n % 16) (by omega)
    rw [spelled, hexNumber?_append_singleton, ih high]
    simp only [low, Option.bind_some, Option.map_some, Option.some.injEq]
    omega

theorem ascii_of_hexNumber? {digits : List Char} {n : Nat} (read : hexNumber? digits = some n) :
    ∀ c ∈ digits, c.toNat < 128 := by
  induction digits using List.reverseRecOn generalizing n with
  | nil => simp
  | append_singleton digits c ih =>
    rw [hexNumber?_append_singleton] at read
    obtain ⟨high, readHigh, low⟩ := Option.bind_eq_some_iff.mp read
    obtain ⟨v, digit, -⟩ := Option.map_eq_some_iff.mp low
    intro d member
    rcases List.mem_append.mp member with inside | last
    · exact ih readHigh d inside
    · obtain rfl := List.mem_singleton.mp last
      exact ascii_of_hexValue? digit

theorem hexNumber?_eq_some_iff {digits : List Char} {n : Nat} :
    hexNumber? digits = some n ↔
      (∀ c ∈ digits, (hexValue? c).isSome = true) ∧
        digits.foldl (fun n c => 16 * n + (hexValue? c).getD 0) 0 = n := by
  induction digits using List.reverseRecOn generalizing n with
  | nil => simp [hexNumber?]
  | append_singleton digits c ih =>
    rw [hexNumber?_append_singleton, Option.bind_eq_some_iff]
    simp only [ih, Option.map_eq_some_iff, List.foldl_append, List.foldl_cons, List.foldl_nil]
    cases digit : hexValue? c with
    | none => simp [digit, or_imp, forall_and]
    | some v => simp [digit, or_imp, forall_and]

end Bytes

def characterOf (b : UInt8) : Char :=
  Char.ofNat b.toNat

theorem toNat_characterOf (b : UInt8) : (characterOf b).toNat = b.toNat := by
  have valid : b.toNat.isValidChar := .inl (Nat.lt_trans b.toNat_lt (by decide))
  unfold characterOf
  rw [Char.ofNat, dif_pos valid]
  rfl

theorem utf8EncodeChar_of_ascii {c : Char} (ascii : c.toNat < 128) :
    String.utf8EncodeChar c = [c.toNat.toUInt8] := by
  have small : c.val.toNat ≤ 127 := by
    rw [Char.toNat_val]
    omega
  unfold String.utf8EncodeChar
  rw [if_pos small, Char.toNat_val]

/-- The encoding of any other character begins with a byte that is no character of ASCII. -/
theorem exists_large_byte {c : Char} (beyond : 128 ≤ c.toNat) :
    ∃ b ∈ String.utf8EncodeChar c, 128 ≤ b.toNat := by
  have large : ¬c.val.toNat ≤ 127 := by
    rw [Char.toNat_val]
    omega
  unfold String.utf8EncodeChar
  simp only [large, if_false]
  split
  · refine ⟨_, List.mem_cons_self, ?_⟩
    simp
    omega
  split
  · refine ⟨_, List.mem_cons_self, ?_⟩
    simp
    omega
  · refine ⟨_, List.mem_cons_self, ?_⟩
    simp
    omega

theorem map_characterOf_utf8 {s : List Char} (ascii : ∀ c ∈ s, c.toNat < 128) :
    (utf8 s).map characterOf = s := by
  induction s with
  | nil => rfl
  | cons c rest ih =>
    obtain ⟨first, others⟩ := List.forall_mem_cons.mp ascii
    have small : c.toNat.toUInt8.toNat = c.toNat := by
      simp [Nat.toUInt8]
      omega
    have encoded : utf8 (c :: rest) = c.toNat.toUInt8 :: utf8 rest := by
      change String.utf8EncodeChar c ++ utf8 rest = _
      rw [utf8EncodeChar_of_ascii first]
      rfl
    rw [encoded, List.map_cons, ih others, characterOf, small, Char.ofNat_toNat]

theorem ascii_of_utf8 {s : List Char} (ascii : ∀ b ∈ utf8 s, b.toNat < 128) :
    ∀ c ∈ s, c.toNat < 128 := by
  intro c member
  by_contra beyond
  obtain ⟨b, inside, large⟩ := exists_large_byte (Nat.le_of_not_lt beyond)
  have small := ascii b (List.mem_flatMap.mpr ⟨c, member, inside⟩)
  omega

theorem hexNumber?_utf8 (s : List Char) (n : Nat) :
    Bytes.hexNumber? ((utf8 s).map characterOf) = some n ↔ Bytes.hexNumber? s = some n := by
  constructor
  · intro read
    have ascii : ∀ b ∈ utf8 s, b.toNat < 128 := by
      intro b member
      rw [← toNat_characterOf]
      exact Bytes.ascii_of_hexNumber? read _ (List.mem_map_of_mem member)
    rwa [map_characterOf_utf8 (ascii_of_utf8 ascii)] at read
  · intro read
    rwa [map_characterOf_utf8 (Bytes.ascii_of_hexNumber? read)]

theorem length_utf8_of_ascii {s : List Char} (ascii : ∀ c ∈ s, c.toNat < 128) :
    (utf8 s).length = s.length := by
  rw [← List.length_map characterOf, map_characterOf_utf8 ascii]

theorem parseKeyBytes_eq_ok_iff {bytes : Bytes} {key : Secp256k1.PrivateKey} :
    parseKeyBytes bytes = .ok key ↔
      bytes.length = 64 ∧ Bytes.hexNumber? (bytes.map characterOf) = some key.scalar := by
  rw [Bytes.hexNumber?_eq_some_iff, List.forall_mem_map, List.foldl_map]
  change _ ↔ _ ∧ (∀ b ∈ bytes, (hexByteValue? b).isSome = true) ∧
    bytes.foldl (fun n b => 16 * n + (hexByteValue? b).getD 0) 0 = key.scalar
  unfold parseKeyBytes
  constructor
  · intro read
    split at read
    · cases read
    split at read
    · cases read
    rename_i digits
    split at read
    · cases read
    rename_i whole
    split at read
    · rename_i admissible
      obtain rfl := Except.ok.inj read
      refine ⟨of_not_not whole, ?_, (Secp256k1.PrivateKey.ofNat?_eq_some_iff.mp admissible).symm⟩
      intro b member
      simpa using List.findIdx?_eq_none_iff.mp digits b member
    · cases read
  · rintro ⟨whole, digits, number⟩
    have clean : bytes.findIdx? (fun b => (hexByteValue? b).isNone) = none := by
      rw [List.findIdx?_eq_none_iff]
      intro b member
      simpa using digits b member
    have admissible := Secp256k1.PrivateKey.ofNat?_eq_some_iff.mpr number.symm
    simp [clean, whole, admissible]

theorem parseKey_eq_ok_iff {text : String} {key : Secp256k1.PrivateKey} :
    parseKey text = .ok key ↔
      (keyDigits text).length = 64 ∧ Bytes.hexNumber? (keyDigits text) = some key.scalar := by
  unfold parseKey
  rw [parseKeyBytes_eq_ok_iff, hexNumber?_utf8]
  refine and_congr_left fun read => ?_
  rw [length_utf8_of_ascii (Bytes.ascii_of_hexNumber? read)]

/-- A key's text without white space around it and without leading `0x`. -/
def bareKey (text : String) : List Char :=
  dropHexMarks (Text.trim text.toList)

/-- How many marks, the first of them a `0X`, still stand in front of the digits of a bare key. -/
def keptMarks (text : String) : Nat :=
  ((bareKey text).length - (keyDigits text).length) / 2

/-- What can stand in front of the digits of a bare key. -/
def markSpellings : List (List Char) :=
  [[], ['0', 'X'], ['0', 'X', '0', 'x'], ['0', 'X', '0', 'X']]

theorem lower_markSpellings : ∀ marks ∈ markSpellings, (∀ c ∈ marks, c.toNat < 128) ∧
    marks.length / 2 ≤ 2 ∧
    marks.map Char.toLower = (List.replicate (marks.length / 2) ['0', 'x']).flatten := by
  simp [markSpellings]

theorem dropHexMarks_ne (s rest : List Char) : dropHexMarks s ≠ '0' :: 'x' :: rest := by
  fun_induction dropHexMarks s with
  | case1 s ih => exact ih
  | case2 s unmarked => exact unmarked rest

theorem exists_markSpelling {s : List Char} (bare : ∀ rest, s ≠ '0' :: 'x' :: rest) :
    ∃ marks ∈ markSpellings, s = marks ++ dropEitherMark (dropUpperMark s) := by
  unfold dropUpperMark
  split
  · rename_i rest
    unfold dropEitherMark
    split
    · exact ⟨['0', 'X', '0', 'x'], by decide, rfl⟩
    · exact ⟨['0', 'X', '0', 'X'], by decide, rfl⟩
    · exact ⟨['0', 'X'], by decide, rfl⟩
  · rename_i unmarked
    unfold dropEitherMark
    split
    · exact absurd rfl (bare _)
    · exact absurd rfl (unmarked _)
    · exact ⟨[], by decide, rfl⟩

/-- What the check sees of a text that says a key: the marks that are kept, and the key. -/
theorem normalizedKey_of_parseKey {text : String} {key : Secp256k1.PrivateKey}
    (read : parseKey text = .ok key) :
    keptMarks text ≤ 2 ∧
      normalizedKey text =
        (List.replicate (keptMarks text) ['0', 'x']).flatten ++ Bytes.spelled 64 key.scalar := by
  obtain ⟨length, number⟩ := parseKey_eq_ok_iff.mp read
  have bare : ∀ rest, bareKey text ≠ '0' :: 'x' :: rest := dropHexMarks_ne _
  obtain ⟨marks, listed, whole⟩ := exists_markSpelling bare
  change bareKey text = marks ++ keyDigits text at whole
  obtain ⟨ascii, few, lowered⟩ := lower_markSpellings marks listed
  have count : keptMarks text = marks.length / 2 := by
    unfold keptMarks
    rw [whole, List.length_append, Nat.add_sub_cancel_right]
  have spelling := Bytes.map_toLower_of_hexNumber? number
  rw [length] at spelling
  have plain : ∀ c ∈ marks ++ keyDigits text, c.toNat < 128 := by
    intro c member
    rcases List.mem_append.mp member with front | digit
    · exact ascii c front
    · exact Bytes.ascii_of_hexNumber? number c digit
  refine ⟨count ▸ few, ?_⟩
  calc normalizedKey text = Text.lower (marks ++ keyDigits text) := by rw [← whole]; rfl
    _ = (marks ++ keyDigits text).map Char.toLower := Text.lower_of_ascii plain
    _ = _ := by rw [List.map_append, lowered, spelling, count]

/-- Texts that say keys look the same to the check exactly if they say one key behind equally many marks. -/
theorem normalizedKey_eq_iff {x y : String} {key key' : Secp256k1.PrivateKey}
    (readX : parseKey x = .ok key) (readY : parseKey y = .ok key') :
    normalizedKey x = normalizedKey y ↔ keptMarks x = keptMarks y ∧ key = key' := by
  rw [(normalizedKey_of_parseKey readX).2, (normalizedKey_of_parseKey readY).2]
  constructor
  · intro same
    -- Both end in 64 digits, so the marks in front compare apart from the digits.
    obtain ⟨marks, digits⟩ := List.append_inj' same (by simp)
    have count := congrArg List.length marks
    simp only [List.length_flatten, List.map_replicate, List.sum_replicate_nat, List.length_cons,
      List.length_nil] at count
    have fits (k : Secp256k1.PrivateKey) : k.scalar < 16 ^ 64 :=
      Nat.lt_trans k.lt (by decide)
    have number := congrArg Bytes.hexNumber? digits
    rw [Bytes.hexNumber?_spelled (fits key), Bytes.hexNumber?_spelled (fits key')] at number
    obtain ⟨scalar, _, _⟩ := key
    obtain ⟨scalar', _, _⟩ := key'
    obtain rfl : scalar = scalar' := Option.some.inj number
    exact ⟨by omega, rfl⟩
  · rintro ⟨marks, rfl⟩
    rw [marks]

/-- A bare key that does not begin with `0X` keeps no mark. -/
theorem keptMarks_eq_zero {text : String} (plain : ∀ rest, bareKey text ≠ '0' :: 'X' :: rest) :
    keptMarks text = 0 := by
  have bare : ∀ rest, bareKey text ≠ '0' :: 'x' :: rest := dropHexMarks_ne _
  have digits : keyDigits text = bareKey text := by
    change dropEitherMark (dropUpperMark (bareKey text)) = bareKey text
    rw [dropUpperMark.eq_2 _ plain, dropEitherMark.eq_3 _ bare plain]
  unfold keptMarks
  rw [digits, Nat.sub_self]

end GasFaucet
