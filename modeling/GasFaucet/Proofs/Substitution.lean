import GasFaucet.Settings.Load
import Mathlib.Data.List.Infix
import Mathlib.Data.List.TakeWhile
import Mathlib.Tactic.Common

/-!
# Substituting all references at once

`Substitutes` says what it is to replace the references of a text all at once: the text is read from
left to right, a reference becomes the value of its name, and every other character stays.  Each text
has exactly one such result.  The names of a text are replaced one after the other, though, each
wherever it stands by then, so that the value of one is searched for the names that follow it.

The two agree as long as no reference to a name of the text is found in the result.  To see it, the text
produced so far is taken apart into characters that are settled and references that are still open: a
reference that is found without being open begins with a settled character and holds no other `$`,
thus lies among settled characters, and would still be there at the end.
-/

namespace GasFaucet.Environment

/-! ## Names and their references -/

/-- What the environment holds for a name; nothing where it is not set. -/
def valueOf (env : String → Option String) (name : List Char) : List Char :=
  ((env (String.ofList name)).getD "").toList

/-- A capital letter or underscore, followed by such characters and digits. -/
inductive IsName : List Char → Prop
  | intro {first : Char} {rest : List Char} :
      startsName first = true → (∀ c ∈ rest, continuesName c = true) → IsName (first :: rest)

/-- The text with every reference replaced by the value of its name, and the names in order. -/
inductive Substitutes (value : List Char → List Char) :
    (text : List Char) → (names : List (List Char)) → (out : List Char) → Prop
  | done : Substitutes value [] [] []
  | reference {name text out : List Char} {names : List (List Char)} :
      IsName name → Substitutes value text names out →
      Substitutes value (written name ++ text) (name :: names) (value name ++ out)
  | character {c : Char} {text out : List Char} {names : List (List Char)} :
      (∀ name, IsName name → ¬ written name <+: c :: text) → Substitutes value text names out →
      Substitutes value (c :: text) names (c :: out)

theorem startsName_continues {c : Char} (h : startsName c = true) : continuesName c = true := by
  simp [continuesName, h]

theorem IsName.continues {name : List Char} (h : IsName name) :
    ∀ c ∈ name, continuesName c = true := by
  obtain ⟨starts, continues⟩ := h
  intro c member
  rcases List.mem_cons.mp member with rfl | member
  · exact startsName_continues starts
  · exact continues c member

theorem IsName.dollar_notMem {name : List Char} (h : IsName name) : '$' ∉ name := by
  intro member
  exact absurd (h.continues _ member) (by decide)

theorem length_written (name : List Char) : (written name).length = name.length + 3 := by
  simp [written]

def behind (name : List Char) : List Char :=
  '\x7b' :: name ++ ['\x7d']

theorem written_eq (name : List Char) : written name = '$' :: behind name := rfl

theorem IsName.dollar_notMem_behind {name : List Char} (h : IsName name) : '$' ∉ behind name := by
  simp [behind, h.dollar_notMem]

theorem IsName.takeWhile_eq {name : List Char} (h : IsName name) (rest : List Char) :
    (name ++ '\x7d' :: rest).takeWhile continuesName = name := by
  rw [List.takeWhile_append_of_pos h.continues, List.takeWhile_cons_of_neg (by decide),
    List.append_nil]

theorem IsName.eq_of_prefix {name other rest : List Char} (hn : IsName name) (ho : IsName other)
    (h : written name <+: written other ++ rest) : name = other := by
  obtain ⟨after, whole⟩ := h
  have whole : name ++ '\x7d' :: after = other ++ '\x7d' :: rest := by
    simpa [written] using whole
  calc name = (name ++ '\x7d' :: after).takeWhile continuesName := (hn.takeWhile_eq _).symm
    _ = (other ++ '\x7d' :: rest).takeWhile continuesName := by rw [whole]
    _ = other := ho.takeWhile_eq _

/-! ## The references of a text -/

theorem reference?_written {name rest : List Char} (h : IsName name) :
    reference? (written name ++ rest) = some name := by
  have taken := h.takeWhile_eq rest
  obtain ⟨starts, continues⟩ := h
  rename_i first tail
  have taken : (tail ++ '\x7d' :: rest).takeWhile continuesName = tail := by
    simpa [List.takeWhile_cons, startsName_continues starts] using taken
  simp [written, reference?, taken, starts]

theorem reference?_eq_some {text name : List Char} (h : reference? text = some name) :
    IsName name ∧ written name <+: text := by
  unfold reference? at h
  split at h
  case h_2 => cases h
  rename_i first rest
  simp only [Option.ite_none_right_eq_some, Option.some.injEq] at h
  obtain ⟨found, rfl⟩ := h
  simp only [List.length_cons, Nat.add_sub_cancel, Bool.and_eq_true, decide_eq_true_eq] at found
  obtain ⟨starts, closes⟩ := found
  refine ⟨⟨starts, fun c member => List.mem_takeWhile_imp member⟩, ?_⟩
  have split := List.takeWhile_append_dropWhile (p := continuesName) (l := rest)
  have closes : (rest.takeWhile continuesName ++ rest.dropWhile continuesName)[
      (rest.takeWhile continuesName).length]? = some '\x7d' := by
    rw [split]
    exact closes
  rw [List.getElem?_append_right le_rfl, Nat.sub_self] at closes
  cases dropped : rest.dropWhile continuesName with
  | nil => rw [dropped] at closes; cases closes
  | cons c after =>
    rw [dropped] at closes split
    cases closes
    exact ⟨after, by simp [written, split]⟩

theorem reference?_eq_none {text : List Char}
    (h : ∀ name, IsName name → ¬ written name <+: text) : reference? text = none := by
  cases found : reference? text with
  | none => rfl
  | some name =>
    obtain ⟨named, starts⟩ := reference?_eq_some found
    exact absurd starts (h name named)

theorem references_skip (xs text : List Char) :
    references xs.length (xs ++ text) = references 0 text := by
  induction xs with
  | nil => rfl
  | cons c xs ih => simpa [references] using ih

theorem references_written {name text : List Char} (h : IsName name) :
    references 0 (written name ++ text) = name :: references 0 text := by
  have found : reference? (written name ++ text) = some name := reference?_written h
  rw [written_eq, List.cons_append] at found ⊢
  rw [references, found]
  have length : name.length + 2 = (behind name).length := by simp [behind]
  simp only [length, references_skip]

theorem references_eq {value : List Char → List Char} {text out : List Char}
    {names : List (List Char)} (h : Substitutes value text names out) :
    references 0 text = names := by
  induction h with
  | done => rfl
  | reference named _ ih => rw [references_written named, ih]
  | character plain _ ih => rw [references, reference?_eq_none plain]; exact ih

/-! ## Every text has one result -/

theorem exists_substitutes (value : List Char → List Char) (text : List Char) :
    ∃ names out, Substitutes value text names out := by
  induction hn : text.length using Nat.strong_induction_on generalizing text with
  | _ n ih =>
  subst hn
  cases text with
  | nil => exact ⟨[], [], .done⟩
  | cons c text =>
    by_cases found : ∃ name, IsName name ∧ written name <+: c :: text
    · obtain ⟨name, named, rest, split⟩ := found
      have shorter : rest.length < (c :: text).length := by
        rw [← split, List.length_append, length_written]
        omega
      obtain ⟨names, out, h⟩ := ih _ shorter rest rfl
      exact ⟨_, _, split ▸ Substitutes.reference named h⟩
    · obtain ⟨names, out, h⟩ := ih _ (by simp) text rfl
      exact ⟨_, _, .character (fun name named starts => found ⟨name, named, starts⟩) h⟩

theorem Substitutes.unique {value : List Char → List Char} {text out out' : List Char}
    {names names' : List (List Char)} (h : Substitutes value text names out)
    (h' : Substitutes value text names' out') : names' = names ∧ out' = out := by
  induction h generalizing names' out' with
  | done => cases h'; exact ⟨rfl, rfl⟩
  | @reference name text out names named _ ih =>
    generalize whole : written name ++ text = both at h'
    cases h' with
    | done => simp [written] at whole
    | @reference name' text' _ _ named' h' =>
      obtain rfl : name = name' := named.eq_of_prefix named' ⟨_, whole⟩
      obtain rfl := List.append_cancel_left whole
      obtain ⟨rfl, rfl⟩ := ih h'
      exact ⟨rfl, rfl⟩
    | character plain => exact absurd ⟨_, whole⟩ (plain name named)
  | @character c text out names plain _ ih =>
    generalize whole : c :: text = both at h'
    cases h' with
    | done => cases whole
    | reference named' => exact absurd ⟨_, whole.symm⟩ (plain _ named')
    | character _ h' =>
      cases whole
      obtain ⟨rfl, rfl⟩ := ih h'
      exact ⟨rfl, rfl⟩

/-! ## Replacing one name -/

theorem replace_skip (pattern value xs text : List Char) :
    replace pattern value xs.length (xs ++ text) = replace pattern value 0 text := by
  induction xs with
  | nil => rfl
  | cons c xs ih => simpa [replace] using ih

theorem replace_found (name value text : List Char) :
    replace (written name) value 0 (written name ++ text) =
      value ++ replace (written name) value 0 text := by
  have starts : (written name).isPrefixOf (written name ++ text) = true := by simp
  have length : (written name).length - 1 = (behind name).length := by simp [written_eq]
  rw [written_eq, List.cons_append] at starts
  conv_lhs => rw [written_eq, List.cons_append, replace]
  rw [← written_eq] at starts ⊢
  rw [if_pos starts, length, replace_skip]

theorem replace_cons {name text : List Char} {c : Char} (value : List Char)
    (h : ¬ written name <+: c :: text) :
    replace (written name) value 0 (c :: text) = c :: replace (written name) value 0 text := by
  rw [replace, if_neg (by simpa using h)]

theorem replace_append_of_notMem {name xs : List Char} (value text : List Char) (h : '$' ∉ xs) :
    replace (written name) value 0 (xs ++ text) = xs ++ replace (written name) value 0 text := by
  induction xs with
  | nil => rfl
  | cons c xs ih =>
    simp only [List.mem_cons, not_or] at h
    rw [List.cons_append, replace_cons value, ih h.2, List.cons_append]
    intro found
    exact h.1 (List.cons_prefix_cons.mp (written_eq name ▸ found)).1

/-! ## Settled characters and open references -/

/-- A piece of the text while it is worked on. -/
inductive Piece
  | settled (c : Char)
  | opened (name : List Char)

/-- The text that pieces make, with the open references shown as `shown` says. -/
def fill (shown : List Char → List Char) (pieces : List Piece) : List Char :=
  pieces.flatMap fun
    | .settled c => [c]
    | .opened name => shown name

@[simp] theorem fill_nil (shown : List Char → List Char) : fill shown [] = [] := rfl

@[simp] theorem fill_settled (shown : List Char → List Char) (c : Char) (pieces : List Piece) :
    fill shown (.settled c :: pieces) = c :: fill shown pieces := rfl

@[simp] theorem fill_opened (shown : List Char → List Char) (name : List Char)
    (pieces : List Piece) : fill shown (.opened name :: pieces) = shown name ++ fill shown pieces :=
  rfl

@[simp] theorem fill_append (shown : List Char → List Char) (xs ys : List Piece) :
    fill shown (xs ++ ys) = fill shown xs ++ fill shown ys :=
  List.flatMap_append

@[simp] theorem fill_map_settled (shown : List Char → List Char) (text : List Char) :
    fill shown (text.map .settled) = text := by
  induction text with
  | nil => rfl
  | cons c text ih => simp [ih]

def settle (value : List Char → List Char) (name : List Char) (pieces : List Piece) : List Piece :=
  pieces.flatMap fun
    | .settled c => [.settled c]
    | .opened other => if other = name then (value name).map .settled else [.opened other]

@[simp] theorem settle_settled (value : List Char → List Char) (name : List Char) (c : Char)
    (pieces : List Piece) :
    settle value name (.settled c :: pieces) = .settled c :: settle value name pieces := rfl

theorem settle_opened (value : List Char → List Char) (name other : List Char)
    (pieces : List Piece) :
    settle value name (.opened other :: pieces) =
      (if other = name then (value name).map .settled else [.opened other]) ++
        settle value name pieces := rfl

theorem fill_settle (value : List Char → List Char) (name : List Char) (pieces : List Piece) :
    fill value (settle value name pieces) = fill value pieces := by
  induction pieces with
  | nil => rfl
  | cons piece pieces ih =>
    cases piece with
    | settled c => simp [ih]
    | opened other =>
      rw [settle_opened]
      split
      case isTrue same => simp [ih, same]
      case isFalse => simp [ih]

theorem opened_mem_settle {value : List Char → List Char} {name other : List Char}
    {pieces : List Piece} :
    .opened other ∈ settle value name pieces ↔ .opened other ∈ pieces ∧ other ≠ name := by
  induction pieces with
  | nil => simp [settle]
  | cons piece pieces ih =>
    cases piece with
    | settled c => simp [ih]
    | opened opened =>
      rw [settle_opened]
      split
      case isTrue same => grind
      case isFalse differs => grind

/-- A text without `$` at the start lies among the settled characters there. -/
theorem prefix_fill {value : List Char → List Char} {pieces : List Piece} {xs : List Char}
    (plain : '$' ∉ xs) (h : xs <+: fill written pieces) : xs <+: fill value pieces := by
  induction pieces generalizing xs with
  | nil => simpa using h
  | cons piece pieces ih =>
    cases xs with
    | nil => exact List.nil_prefix
    | cons d xs =>
      simp only [List.mem_cons, not_or] at plain
      cases piece with
      | settled c =>
        obtain ⟨rfl, tail⟩ := List.cons_prefix_cons.mp h
        exact List.cons_prefix_cons.mpr ⟨rfl, ih plain.2 tail⟩
      | opened name => exact absurd (List.cons_prefix_cons.mp h).1.symm plain.1

/-- Where the final text has no reference to a name, replacing the name settles its open references
and changes nothing else. -/
theorem replace_fill {value : List Char → List Char} {name : List Char} {pieces : List Piece}
    (named : IsName name) (names : ∀ other, .opened other ∈ pieces → IsName other)
    (absent : ¬ written name <:+: fill value pieces) :
    replace (written name) (value name) 0 (fill written pieces) =
      fill written (settle value name pieces) := by
  induction pieces with
  | nil => rfl
  | cons piece pieces ih =>
    have names' : ∀ other, .opened other ∈ pieces → IsName other :=
      fun other member => names other (List.mem_cons_of_mem _ member)
    cases piece with
    | settled c =>
      simp only [fill_settled] at absent
      have ih := ih names' fun found => absent (List.infix_cons found)
      rw [fill_settled, settle_settled, fill_settled, replace_cons, ih]
      intro found
      -- a reference that begins with a settled character would have stayed
      obtain ⟨rfl, tail⟩ := List.cons_prefix_cons.mp (written_eq name ▸ found)
      have stays : written name <+: '$' :: fill value pieces :=
        List.cons_prefix_cons.mpr ⟨rfl, prefix_fill named.dollar_notMem_behind tail⟩
      exact absent stays.isInfix
    | opened other =>
      simp only [fill_opened] at absent
      have ih := ih names' fun found => absent (found.trans (List.suffix_append _ _).isInfix)
      have named' := names other (by simp)
      rw [fill_opened, settle_opened, fill_append]
      by_cases same : other = name
      · subst same
        rw [replace_found, ih, if_pos rfl, fill_map_settled]
      · rw [written_eq other, List.cons_append, replace_cons, replace_append_of_notMem, ih,
          if_neg same]
        · simp [written_eq]
        · exact named'.dollar_notMem_behind
        · intro found
          exact same (named.eq_of_prefix named' (by simpa [written_eq] using found)).symm

/-! ## Replacing one name after the other -/

def replaceName (value : List Char → List Char) (text name : List Char) : List Char :=
  replace (written name) (value name) 0 text

theorem foldl_replaceName_fill {value : List Char → List Char} {order : List (List Char)}
    {pieces : List Piece} (names : ∀ other, .opened other ∈ pieces → IsName other)
    (named : ∀ name ∈ order, IsName name)
    (absent : ∀ name ∈ order, ¬ written name <:+: fill value pieces)
    (all : ∀ other, .opened other ∈ pieces → other ∈ order) :
    order.foldl (replaceName value) (fill written pieces) = fill value pieces := by
  induction order generalizing pieces with
  | nil =>
    clear names named absent
    induction pieces with
    | nil => rfl
    | cons piece pieces ih =>
      cases piece with
      | settled c => simpa using ih fun other member => all other (List.mem_cons_of_mem _ member)
      | opened other => cases all other (by simp)
  | cons name order ih =>
    rw [List.foldl_cons, replaceName, replace_fill (named name (by simp)) names
      (absent name (by simp)), ← fill_settle value name pieces]
    apply ih
    · exact fun other member => names other (opened_mem_settle.mp member).1
    · exact fun other member => named other (List.mem_cons_of_mem _ member)
    · intro other member
      rw [fill_settle]
      exact absent other (List.mem_cons_of_mem _ member)
    · intro other member
      obtain ⟨member, differs⟩ := opened_mem_settle.mp member
      exact (List.mem_cons.mp (all other member)).resolve_left differs

theorem Substitutes.exists_pieces {value : List Char → List Char} {text out : List Char}
    {names : List (List Char)} (h : Substitutes value text names out) :
    ∃ pieces, fill written pieces = text ∧ fill value pieces = out ∧
      (∀ name, .opened name ∈ pieces ↔ name ∈ names) ∧ ∀ name ∈ names, IsName name := by
  induction h with
  | done => exact ⟨[], by simp⟩
  | @reference name text out names named _ ih =>
    obtain ⟨pieces, rfl, rfl, opened, all⟩ := ih
    refine ⟨.opened name :: pieces, by simp, by simp, fun other => by simp [opened], ?_⟩
    simpa [named] using all
  | @character c text out names _ _ ih =>
    obtain ⟨pieces, rfl, rfl, opened, all⟩ := ih
    exact ⟨.settled c :: pieces, by simp, by simp, fun other => by simp [opened], all⟩

theorem Substitutes.foldl_eq {value : List Char → List Char} {text out : List Char}
    {names order : List (List Char)} (h : Substitutes value text names out)
    (same : ∀ name, name ∈ order ↔ name ∈ names)
    (absent : ∀ name ∈ names, ¬ written name <:+: out) :
    order.foldl (replaceName value) text = out := by
  obtain ⟨pieces, rfl, rfl, opened, named⟩ := h.exists_pieces
  apply foldl_replaceName_fill
  · exact fun other member => named other ((opened other).mp member)
  · exact fun name member => named name ((same name).mp member)
  · exact fun name member => absent name ((same name).mp member)
  · exact fun other member => (same other).mpr ((opened other).mp member)

theorem toList_substitute (env : String → Option String) (text : String) :
    (substitute env text).toList =
      (references 0 text.toList).foldl (replaceName (valueOf env)) text.toList := by
  simp only [substitute, String.toList_ofList]
  rfl

/-- A text has exactly one result of replacing its references at once.  Where no reference to a name of
the text is found in it, it is what the text becomes, and it would be so in whichever order the names
were replaced, and however often each. -/
theorem substitute_at_once (env : String → Option String) (text : String) :
    ∃ names out, Substitutes (valueOf env) text.toList names out ∧
      (∀ names' out', Substitutes (valueOf env) text.toList names' out' →
        names' = names ∧ out' = out) ∧
      ((∀ name ∈ names, ¬ written name <:+: out) →
        substitute env text = String.ofList out ∧
        ∀ order : List (List Char), (∀ name, name ∈ order ↔ name ∈ names) →
          order.foldl (replaceName (valueOf env)) text.toList = out) := by
  obtain ⟨names, out, h⟩ := exists_substitutes (valueOf env) text.toList
  refine ⟨names, out, h, fun _ _ h' => h.unique h', fun absent => ?_⟩
  have any : ∀ order : List (List Char), (∀ name, name ∈ order ↔ name ∈ names) →
      order.foldl (replaceName (valueOf env)) text.toList = out :=
    fun _ same => h.foldl_eq same absent
  refine ⟨?_, any⟩
  rw [← String.toList_inj, toList_substitute, references_eq h, String.toList_ofList]
  exact any names fun _ => Iff.rfl

def nested : String → Option String
  | "A" => some "$\x7bB\x7d"
  | "B" => some "x"
  | _ => none

theorem Substitutes.plain {value : List Char → List Char} {c : Char} {text out : List Char}
    {names : List (List Char)} (differs : c ≠ '$') (h : Substitutes value text names out) :
    Substitutes value (c :: text) names (c :: out) :=
  .character (fun name _ found =>
    differs (List.cons_prefix_cons.mp (written_eq name ▸ found)).1.symm) h

theorem isName_singleton {c : Char} (h : startsName c = true) : IsName [c] :=
  .intro h (by simp)

/-- A variable that is set and one that is not, replaced in either order. -/
theorem substitute_at_once_unset :
    Substitutes (valueOf nested) "${B}/${C}".toList [['B'], ['C']] "x/".toList ∧
      substitute nested "${B}/${C}" = "x/" ∧
      [['C'], ['B']].foldl (replaceName (valueOf nested)) "${B}/${C}".toList =
        "x/".toList := by
  have path : Substitutes (valueOf nested) "${B}/${C}".toList [['B'], ['C']] "x/".toList :=
    .reference (isName_singleton rfl)
      (.plain (by decide) (.reference (isName_singleton rfl) .done))
  obtain ⟨names, out, -, unique, once⟩ := substitute_at_once nested "${B}/${C}"
  obtain ⟨rfl, rfl⟩ := unique _ _ path
  obtain ⟨replaced, any⟩ := once (by decide)
  exact ⟨path, replaced, any [['C'], ['B']] (by simp [or_comm])⟩

/-- The first reference becomes a reference to the second name, which is then replaced as well. -/
theorem value_replaced_again :
    Substitutes (valueOf nested) "$\x7bA\x7d$\x7bB\x7d".toList [['A'], ['B']]
        "$\x7bB\x7dx".toList ∧
      substitute nested "$\x7bA\x7d$\x7bB\x7d" = "xx" ∧
      substitute nested "$\x7bA\x7d$\x7bB\x7d" ≠ "$\x7bB\x7dx" :=
  ⟨.reference (isName_singleton rfl) (.reference (isName_singleton rfl) .done),
    by decide, by decide⟩

end GasFaucet.Environment
