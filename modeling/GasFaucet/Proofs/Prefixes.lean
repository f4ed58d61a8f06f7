import GasFaucet.Transfer
import Mathlib.Algebra.Group.Nat.Defs
import Mathlib.Data.List.Induction

/-!
# Prefixes

Reading what is encoded with recursive length prefixes.  The reader refuses every form that is longer than
it has to be: a length or number with a zero in front, a long mark before a short item, a mark before a
byte that stands for itself.  So it accepts exactly what the encoder writes, and each list has one text.
-/

namespace GasFaucet

namespace Bytes

theorem toNat_lt (b : Bytes) : toNat b < 256 ^ b.length := by
  induction b using List.reverseRecOn with
  | nil => decide
  | append_singleton b x ih =>
    have := x.toNat_lt
    rw [toNat_append_singleton, List.length_append, List.length_singleton, Nat.pow_succ]
    omega

section Last

variable (b : Bytes) (x : UInt8)

theorem toNat_append_div : toNat (b ++ [x]) / 256 = toNat b := by
  have bound := x.toNat_lt
  rw [toNat_append_singleton]
  omega

theorem toUInt8_toNat_append : (toNat (b ++ [x])).toUInt8 = x := by
  have bound := x.toNat_lt
  apply UInt8.toNat_inj.mp
  rw [toNat_append_singleton, Nat.toUInt8, UInt8.toNat_ofNat']
  omega

end Last

end Bytes

namespace Rlp

section Numbers

variable {n width : Nat} {b : Bytes}

theorem minimalBytes_of_pos (pos : 0 < n) :
    minimalBytes n = minimalBytes (n / 256) ++ [n.toUInt8] := by
  rw [minimalBytes, if_neg (by omega)]

@[simp]
theorem minimalBytes_zero : minimalBytes 0 = [] := by
  rw [minimalBytes, if_pos rfl]

theorem toNat_minimalBytes (n : Nat) : Bytes.toNat (minimalBytes n) = n := by
  induction n using Nat.strongRecOn with
  | ind n ih =>
    rcases Nat.eq_zero_or_pos n with rfl | pos
    · rw [minimalBytes_zero]
      rfl
    · have low : n.toUInt8.toNat = n % 256 := by simp [Nat.toUInt8]
      rw [minimalBytes_of_pos pos, Bytes.toNat_append_singleton, ih (n / 256) (by omega), low]
      omega

theorem head?_minimalBytes (n : Nat) : (minimalBytes n).head? ≠ some 0 := by
  induction n using Nat.strongRecOn with
  | ind n ih =>
    rcases Nat.eq_zero_or_pos n with rfl | pos
    · simp
    · rw [minimalBytes_of_pos pos, List.head?_append]
      cases front : (minimalBytes (n / 256)).head? with
      | some x =>
        rw [Option.some_or, ← front]
        exact ih (n / 256) (by omega)
      | none =>
        have quotient : n / 256 = 0 := by
          rw [← toNat_minimalBytes (n / 256), List.head?_eq_none_iff.mp front]
          rfl
        intro zero
        have same := congrArg UInt8.toNat (Option.some.inj zero)
        simp [Nat.toUInt8] at same
        omega

/-- Bytes without a zero in front are determined by their number. -/
theorem minimalBytes_toNat (plain : b.head? ≠ some 0) : minimalBytes (Bytes.toNat b) = b := by
  induction b using List.reverseRecOn with
  | nil => exact minimalBytes_zero
  | append_singleton b x ih =>
    have number := Bytes.toNat_append_singleton b x
    have pos : 0 < Bytes.toNat (b ++ [x]) := by
      cases b with
      | nil =>
        have filled : x.toNat ≠ 0 := fun zero => plain (by simpa using UInt8.toNat_inj.mp zero)
        omega
      | cons y rest =>
        have front := ih (by simpa using plain)
        rcases Nat.eq_zero_or_pos (Bytes.toNat (y :: rest)) with zero | pos
        · rw [zero, minimalBytes_zero] at front
          cases front
        · omega
    rw [minimalBytes_of_pos pos, Bytes.toNat_append_div, Bytes.toUInt8_toNat_append, ih]
    intro zero
    apply plain
    rw [List.head?_append, zero]
    rfl

theorem length_minimalBytes_le (small : n < 256 ^ width) : (minimalBytes n).length ≤ width := by
  induction width generalizing n with
  | zero =>
    obtain rfl : n = 0 := by simpa using small
    simp
  | succ width ih =>
    rcases Nat.eq_zero_or_pos n with rfl | pos
    · simp
    · rw [Nat.pow_succ] at small
      have := ih (n := n / 256) (by omega)
      rw [minimalBytes_of_pos pos, List.length_append, List.length_singleton]
      omega

end Numbers

def readNumber? (b : Bytes) : Option Nat :=
  if b.head? = some 0 then none else some (Bytes.toNat b)

theorem readNumber?_eq_some_iff {b : Bytes} {n : Nat} : readNumber? b = some n ↔ b = minimalBytes n := by
  unfold readNumber?
  constructor
  · intro read
    split at read
    · cases read
    · rename_i plain
      obtain rfl := Option.some.inj read
      exact (minimalBytes_toNat plain).symm
  · rintro rfl
    rw [if_neg (head?_minimalBytes n), toNat_minimalBytes]

/-- The length that is marked in front of an item, and what comes behind the mark. -/
def readLength? (base : Nat) : Bytes → Option (Nat × Bytes)
  | [] => none
  | x :: rest =>
      if x.toNat < base then none
      else if x.toNat ≤ base + 55 then some (x.toNat - base, rest)
      else
        let width := x.toNat - (base + 55)
        match readNumber? (rest.take width) with
        | none => none
        | some length =>
            if length ≤ 55 ∨ 8 < width ∨ rest.length < width then none
            else some (length, rest.drop width)

theorem readLength?_eq_none {base : Nat} {x : UInt8} (low : x.toNat < base) (rest : Bytes) :
    readLength? base (x :: rest) = none := by
  rw [readLength?, if_pos low]

theorem toUInt8_add_sub {base : Nat} {x : UInt8} (low : base ≤ x.toNat) :
    (base + (x.toNat - base)).toUInt8 = x := by
  rw [Nat.add_sub_cancel' low]
  exact UInt8.ofNat_toNat

theorem eq_of_readLength? {base : Nat} {b rest : Bytes} {length : Nat}
    (read : readLength? base b = some (length, rest)) :
    length < 256 ^ 8 ∧ b = lengthMark base length ++ rest := by
  cases b with
  | nil => cases read
  | cons x tail =>
    unfold readLength? at read
    dsimp only at read
    split at read
    · cases read
    split at read
    · obtain ⟨rfl, rfl⟩ := Prod.mk.inj (Option.some.inj read)
      have bound := x.toNat_lt
      refine ⟨Nat.lt_of_le_of_lt (m := 255) (by omega) (by decide), ?_⟩
      rw [lengthMark, if_pos (by omega), toUInt8_add_sub (by omega)]
      rfl
    split at read
    · cases read
    rename_i length number
    split at read
    · cases read
    rename_i proper
    obtain ⟨rfl, rfl⟩ := Prod.mk.inj (Option.some.inj read)
    have digits := readNumber?_eq_some_iff.mp number
    obtain ⟨long, few, whole⟩ : 55 < length ∧ x.toNat - (base + 55) ≤ 8 ∧
        x.toNat - (base + 55) ≤ tail.length := by omega
    have count : (minimalBytes length).length = x.toNat - (base + 55) := by
      rw [← digits, List.length_take, Nat.min_eq_left whole]
    constructor
    · rw [← toNat_minimalBytes length]
      apply Nat.lt_of_lt_of_le (Bytes.toNat_lt _)
      exact Nat.pow_le_pow_right (by decide) (count ▸ few)
    · rw [lengthMark, if_neg (by omega)]
      dsimp only
      rw [count, toUInt8_add_sub (by omega), ← digits, List.cons_append, List.take_append_drop]

theorem readLength?_lengthMark {base length : Nat} (room : base ≤ 0xc0) (small : length < 256 ^ 8)
    (rest : Bytes) : readLength? base (lengthMark base length ++ rest) = some (length, rest) := by
  have byte {n : Nat} (bound : n < 256) : n.toUInt8.toNat = n := UInt8.toNat_ofNat_of_lt' bound
  unfold lengthMark
  split
  · rw [List.singleton_append, readLength?, byte (by omega), if_neg (by omega), if_pos (by omega),
      Nat.add_sub_cancel_left]
  · have few := length_minimalBytes_le small
    have some_digit : 0 < (minimalBytes length).length := by
      rw [minimalBytes_of_pos (by omega)]
      simp
    dsimp only
    rw [List.cons_append, readLength?, byte (by omega), if_neg (by omega), if_neg (by omega)]
    dsimp only
    rw [Nat.add_sub_cancel_left, List.take_left, readNumber?_eq_some_iff.mpr rfl]
    dsimp only
    rw [if_neg (by rw [List.length_append]; omega), List.drop_left]

def standsAlone : Bytes → Bool
  | [x] => x < 0x80
  | _ => false

theorem encodeBytes_of_standsAlone {item : Bytes} (alone : standsAlone item) : encodeBytes item = item := by
  unfold standsAlone at alone
  split at alone
  · exact if_pos (by simpa using alone)
  · cases alone

theorem encodeBytes_of_marked {item : Bytes} (marked : standsAlone item = false) :
    encodeBytes item = lengthMark 0x80 item.length ++ item := by
  unfold encodeBytes
  split
  · exact if_neg (by simpa [standsAlone] using marked)
  · rfl

/-- The byte string that is encoded at the front, and what comes behind it. -/
def readBytes? : Bytes → Option (Bytes × Bytes)
  | [] => none
  | x :: rest =>
      if x < 0x80 then some ([x], rest)
      else
        match readLength? 0x80 (x :: rest) with
        | none => none
        | some (length, behind) =>
            let item := behind.take length
            if behind.length < length ∨ standsAlone item then none
            else some (item, behind.drop length)

/-- What begins with the mark of an item does not begin with a byte that stands alone. -/
theorem readBytes?_of_readLength? {b behind : Bytes} {length : Nat}
    (marked : readLength? 0x80 b = some (length, behind)) :
    readBytes? b =
      if behind.length < length ∨ standsAlone (behind.take length) then none
      else some (behind.take length, behind.drop length) := by
  cases b with
  | nil => cases marked
  | cons x tail =>
    have mark : ¬x < 0x80 := by
      intro low
      rw [readLength?_eq_none (by simpa [UInt8.lt_iff_toNat_lt] using low)] at marked
      cases marked
    rw [readBytes?, if_neg mark, marked]

theorem eq_of_readBytes? {b item rest : Bytes} (read : readBytes? b = some (item, rest)) :
    item.length < 256 ^ 8 ∧ b = encodeBytes item ++ rest := by
  cases b with
  | nil => cases read
  | cons x tail =>
    unfold readBytes? at read
    dsimp only at read
    split at read
    · rename_i alone
      obtain ⟨rfl, rfl⟩ := Prod.mk.inj (Option.some.inj read)
      refine ⟨by simp, ?_⟩
      rw [encodeBytes_of_standsAlone (by simpa [standsAlone] using alone)]
      rfl
    split at read
    · cases read
    rename_i length behind marked
    split at read
    · cases read
    rename_i proper
    rw [not_or] at proper
    obtain ⟨whole, marks⟩ := proper
    obtain ⟨rfl, rfl⟩ := Prod.mk.inj (Option.some.inj read)
    obtain ⟨small, text⟩ := eq_of_readLength? marked
    have count : (behind.take length).length = length := by
      rw [List.length_take]
      omega
    refine ⟨count.symm ▸ small, ?_⟩
    rw [encodeBytes_of_marked (by simpa using marks), count, text, List.append_assoc,
      List.take_append_drop]

theorem readBytes?_encodeBytes {item : Bytes} (small : item.length < 256 ^ 8) (rest : Bytes) :
    readBytes? (encodeBytes item ++ rest) = some (item, rest) := by
  cases alone : standsAlone item with
  | true =>
    rw [encodeBytes_of_standsAlone alone]
    unfold standsAlone at alone
    split at alone
    · rw [List.singleton_append, readBytes?, if_pos (by simpa using alone)]
    · cases alone
  | false =>
    have marked := readLength?_lengthMark (show 0x80 ≤ 0xc0 by decide) small (item ++ rest)
    rw [encodeBytes_of_marked alone, List.append_assoc, readBytes?_of_readLength? marked,
      List.take_left, List.drop_left, alone, if_neg]
    simp

theorem encodeBytes_ne_nil {item : Bytes} (small : item.length < 256 ^ 8) : encodeBytes item ≠ [] := by
  intro empty
  have read := readBytes?_encodeBytes small []
  rw [empty] at read
  cases read

theorem length_readBytes? {b item rest : Bytes} (read : readBytes? b = some (item, rest)) :
    rest.length < b.length := by
  obtain ⟨small, rfl⟩ := eq_of_readBytes? read
  have filled := List.length_pos_iff.mpr (encodeBytes_ne_nil small)
  rw [List.length_append]
  omega

def readItems? (b : Bytes) : Option (List Bytes) :=
  if b = [] then some []
  else
    match read : readBytes? b with
    | none => none
    | some (item, rest) =>
        have := length_readBytes? read
        (readItems? rest).map (item :: ·)
termination_by b.length

theorem readItems?_eq_some_iff {b : Bytes} {items : List Bytes} :
    readItems? b = some items ↔
      (∀ item ∈ items, item.length < 256 ^ 8) ∧ b = (items.map encodeBytes).flatten := by
  constructor
  · intro read
    fun_induction readItems? b generalizing items with
    | case1 =>
      obtain rfl := Option.some.inj read
      simp
    | case2 b filled unread => cases read
    | case3 b filled item rest front shorter ih =>
      obtain ⟨others, behind, rfl⟩ := Option.map_eq_some_iff.mp read
      obtain ⟨small, text⟩ := eq_of_readBytes? front
      obtain ⟨allSmall, texts⟩ := ih behind
      refine ⟨List.forall_mem_cons.mpr ⟨small, allSmall⟩, ?_⟩
      rw [text, texts, List.map_cons, List.flatten_cons]
  · rintro ⟨allSmall, rfl⟩
    induction items with
    | nil => rw [List.map_nil, List.flatten_nil, readItems?, if_pos rfl]
    | cons item rest ih =>
      obtain ⟨small, others⟩ := List.forall_mem_cons.mp allSmall
      have front := readBytes?_encodeBytes small (rest.map encodeBytes).flatten
      rw [List.map_cons, List.flatten_cons, readItems?, if_neg (by simp [encodeBytes_ne_nil small])]
      split
      · rename_i unread
        cases unread.symm.trans front
      · rename_i read
        obtain ⟨rfl, rfl⟩ := Prod.mk.inj (Option.some.inj (read.symm.trans front))
        rw [ih others]
        rfl

def readList? (b : Bytes) : Option (List Bytes) :=
  match readLength? 0xc0 b with
  | none => none
  | some (length, body) => if body.length = length then readItems? body else none

theorem length_le_encodeBytes (item : Bytes) : item.length ≤ (encodeBytes item).length := by
  cases alone : standsAlone item with
  | true => exact Nat.le_of_eq (congrArg List.length (encodeBytes_of_standsAlone alone)).symm
  | false =>
    rw [encodeBytes_of_marked alone, List.length_append]
    omega

theorem length_encodeBytes_le {item : Bytes} (short : item.length ≤ 55) :
    (encodeBytes item).length ≤ 56 := by
  cases alone : standsAlone item with
  | true =>
    rw [encodeBytes_of_standsAlone alone]
    omega
  | false =>
    rw [encodeBytes_of_marked alone, lengthMark, if_pos short, List.length_append, List.length_singleton]
    omega

theorem length_flatten_encodeBytes_le {items : List Bytes} (short : ∀ item ∈ items, item.length ≤ 55) :
    (items.map encodeBytes).flatten.length ≤ 56 * items.length := by
  induction items with
  | nil => simp
  | cons item rest ih =>
    obtain ⟨first, others⟩ := List.forall_mem_cons.mp short
    have front := length_encodeBytes_le first
    have behind := ih others
    rw [List.map_cons, List.flatten_cons, List.length_append, List.length_cons]
    omega

theorem readList?_eq_some_iff {b : Bytes} {items : List Bytes} :
    readList? b = some items ↔
      (items.map encodeBytes).flatten.length < 256 ^ 8 ∧ b = encodeList (items.map encodeBytes) := by
  unfold readList? encodeList
  constructor
  · intro read
    split at read
    · cases read
    rename_i length body marked
    split at read
    · rename_i whole
      obtain ⟨small, rfl⟩ := eq_of_readLength? marked
      obtain ⟨-, rfl⟩ := readItems?_eq_some_iff.mp read
      subst whole
      exact ⟨small, rfl⟩
    · cases read
  · rintro ⟨small, rfl⟩
    have marked := readLength?_lengthMark (Nat.le_refl 0xc0) small (items.map encodeBytes).flatten
    dsimp only
    rw [marked]
    dsimp only
    rw [if_pos rfl]
    refine readItems?_eq_some_iff.mpr ⟨?_, rfl⟩
    intro item member
    have listed : encodeBytes item ∈ items.map encodeBytes := List.mem_map_of_mem member
    have inside := (List.sublist_flatten_of_mem listed).length_le
    exact Nat.lt_of_le_of_lt (Nat.le_trans (length_le_encodeBytes item) inside) small

/-- Two short items, and the first of them behind a mark that it does not need. -/
example : readList? [0xc2, 0x80, 0x05] = some [[], [0x05]] ∧ readList? [0xc3, 0x80, 0x81, 0x05] = none := by
  cbv

end Rlp

end GasFaucet
