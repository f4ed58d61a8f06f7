import GasFaucet.Bytes
import GasFaucet.Text.AlphanumericTable
import GasFaucet.Text.Characters

/-!
# Patterns

A filter may ask for fields whose value matches a pattern.  No event is asked for values, so it only
matters whether a pattern is well formed: its groups and classes are closed, each repetition has
something to repeat, and each escape and range means something.

A closing brace ends a pattern, so that a brace is never closed inside one.
-/

namespace GasFaucet.Logging.Pattern

def code? (width : Nat) (s : List Char) : Option Nat := do
  let digits := s.take width
  let n ← Bytes.hexNumber? digits
  if digits.length = width ∧ n.isValidChar then some n else none

def letters : List (Char × Nat) :=
  [('a', 7), ('f', 12), ('t', 9), ('n', 10), ('r', 13), ('v', 11)]

/-- How many characters an escape takes behind its backslash, and the one character that it stands for. -/
def escape? : List Char → Option (Nat × Option Nat)
  | [] => none
  | 'x' :: rest => (code? 2 rest).map fun n => (3, some n)
  | 'u' :: rest => (code? 4 rest).map fun n => (5, some n)
  | 'U' :: rest => (code? 8 rest).map fun n => (9, some n)
  | 'p' :: kind :: _ | 'P' :: kind :: _ =>
      if ['l', 'm', 'n', 'p', 's', 'z', 'c'].contains kind.toLower then some (2, none) else none
  | c :: _ =>
      if ['d', 'D', 's', 'S', 'w', 'W'].contains c then some (1, none)
      else
        match letters.lookup c with
        | some n => some (1, some n)
        | none =>
            if 128 ≤ c.toNat || c.isAlphanum || c = '<' || c = '>' then none else some (1, some c.toNat)

def isWordEdge (c : Char) : Bool :=
  ['b', 'B', '<', '>'].contains c

def isAnchor (c : Char) : Bool :=
  c = 'A' || c = 'z' || isWordEdge c

/-- How many characters the first of a class takes, and the one character that it is. -/
def item? : List Char → Option (Nat × Option Nat)
  | [] => none
  | '\\' :: rest => (escape? rest).map fun (width, n?) => (width + 1, n?)
  | c :: _ => some (1, some c.toNat)

/-- How many characters the first range of a class takes, which may be a single character. -/
def range? (s : List Char) : Option Nat := do
  let (width, first?) ← item? s
  match s.drop width with
  | '-' :: c :: rest =>
      if c = ']' ∨ c = '-' then some width
      else
        let (width', last?) ← item? (c :: rest)
        let first ← first?
        let last ← last?
        if first ≤ last then some (width + 1 + width') else none
  | _ => some width

/-- How many characters behind its bracket open a class: a caret, and hyphens or a bracket. -/
def classHead (s : List Char) : Nat :=
  let (caret, s) := match s with
    | '^' :: rest => (1, rest)
    | s => (0, s)
  match s with
  | ']' :: _ => caret + 1
  | s => caret + (s.takeWhile (· = '-')).length

/-- Whether text is a list of flags, each named once, some perhaps behind a hyphen that turns them off. -/
def areFlags (s : List Char) : Bool :=
  s.all (fun c => ['i', 'm', 's', 'U', 'u', 'R', 'x', '-'].contains c) && s.eraseDups.length = s.length &&
    s.getLast? ≠ some '-'

def isName : List Char → Bool
  | [] => false
  | first :: rest =>
      (first = '_' || (Text.inRanges Text.alphanumericRanges first && !first.isDigit)) &&
        rest.all fun c => ['_', '.', '[', ']'].contains c || Text.inRanges Text.alphanumericRanges c

/-- How many characters behind its parenthesis are read with it, and whether a group is opened. -/
def groupHead? : List Char → Option (Nat × Bool)
  | '?' :: 'P' :: '<' :: rest => named 3 rest
  | '?' :: '<' :: rest => named 2 rest
  | '?' :: rest =>
      let flags := rest.takeWhile fun c => c ≠ ':' && c ≠ ')'
      match rest.drop flags.length with
      | ':' :: _ => if areFlags flags then some (flags.length + 2, true) else none
      | ')' :: _ => if areFlags flags && !flags.isEmpty then some (flags.length + 2, false) else none
      | _ => none
  | _ => some (0, true)
where
  /-- The opening of a group with a name. -/
  named (width : Nat) (s : List Char) : Option (Nat × Bool) :=
    let name := s.takeWhile (· ≠ '>')
    if isName name && name.length < s.length then some (width + name.length + 1, true) else none

structure Place where
  /-- Groups that are open. -/
  groups : Nat := 0
  /-- Classes that are open. -/
  classes : Nat := 0
  /-- Whether something is in front that can be repeated. -/
  repeatable : Bool := false
  /-- Characters that have been read ahead. -/
  ahead : Nat := 0
  /-- Whether the edge of a word was asked for. -/
  wordEdge : Bool := false

def Place.inClass (p : Place) (c : Char) (rest : List Char) : Option Place :=
  match c, rest with
  | '[', _ => some { p with classes := p.classes + 1, ahead := classHead rest }
  | ']', _ => some { p with classes := p.classes - 1, repeatable := true }
  | '&', '&' :: _ | '-', '-' :: _ | '~', '~' :: _ => some { p with ahead := 1 }
  | _, _ => (range? (c :: rest)).map fun width => { p with ahead := width - 1 }

def Place.inText (p : Place) (c : Char) (rest : List Char) : Option Place :=
  match c, rest with
  | '(', _ => (groupHead? rest).map fun (width, isOpen) =>
      { p with groups := if isOpen then p.groups + 1 else p.groups, repeatable := false, ahead := width }
  | ')', _ => if p.groups = 0 then none else some { p with groups := p.groups - 1, repeatable := true }
  | '|', _ => some { p with repeatable := false }
  | '*', _ | '+', _ | '?', _ => if p.repeatable then some p else none
  | '\x7b', _ => none
  | '[', _ => some { p with classes := 1, ahead := classHead rest }
  | '\\', d :: _ =>
      if isAnchor d then
        some { p with repeatable := true, ahead := 1, wordEdge := p.wordEdge || isWordEdge d }
      else (escape? rest).map fun (width, _) => { p with repeatable := true, ahead := width }
  | '\\', [] => none
  | _, _ => some { p with repeatable := true }

def Place.run (p : Place) : List Char → Option Place
  | [] => if p.groups = 0 ∧ p.classes = 0 ∧ p.ahead = 0 then some p else none
  | c :: rest =>
      if 0 < p.ahead then Place.run { p with ahead := p.ahead - 1 } rest
      else
        match if p.classes = 0 then p.inText c rest else p.inClass c rest with
        | some q => Place.run q rest
        | none => none

inductive Fault
  | malformed
  | wordEdge
  deriving DecidableEq

def Fault.message : Fault → String
  | malformed => "error building NFA"
  | wordEdge =>
      "unsupported regex feature for DFAs: cannot build DFAs for regexes with Unicode word boundaries; " ++
        "switch to ASCII word boundaries, or heuristically enable Unicode word boundaries or use a " ++
        "different regex engine"

def check (s : List Char) : Except Fault Unit :=
  match Place.run {} s with
  | none => .error .malformed
  | some p => if p.wordEdge then .error .wordEdge else .ok ()

def isPlusNumber : List Char → Bool
  | '+' :: s =>
      let word := String.ofList (s.map Char.toLower)
      let whole := s.takeWhile Char.isDigit
      let rest := s.drop whole.length
      let (fraction, rest) := match rest with
        | '.' :: rest => (rest.takeWhile Char.isDigit, rest.dropWhile Char.isDigit)
        | rest => ([], rest)
      word ∈ ["inf", "infinity", "nan"] ||
        !(whole.isEmpty && fraction.isEmpty) &&
          match rest with
          | [] => true
          | e :: sign :: digits =>
              e.toLower = 'e' &&
                (if sign = '+' || sign = '-' then !digits.isEmpty && digits.all Char.isDigit
                else (sign :: digits).all Char.isDigit)
          | [_] => false
  | _ => false

def checkValue (s : List Char) : Except Fault Unit :=
  if isPlusNumber s then .ok () else check s

end GasFaucet.Logging.Pattern
