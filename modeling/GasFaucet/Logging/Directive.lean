import GasFaucet.Logging.Pattern
import GasFaucet.Notice
import GasFaucet.Text.AlphanumericTable
import GasFaucet.Text.Characters

/-!
# Directives of log filters

A directive is a level by itself, or names what it is about: a target, then a span and a field in
brackets, then a level behind an equality sign.  Without a level it shows everything.

Where the parts of a directive end is found on the text without blanks around it, but the parts are
taken by these places from the text as it stands.  So blanks in front shift every part.
-/

namespace GasFaucet.Logging

/-- The least severity that is shown; `none` shows nothing. -/
abbrev Level := Option Severity

def rank : Severity → Nat
  | .error => 1
  | .warn => 2
  | .info => 3
  | .debug => 4
  | .trace => 5

def shows (level : Level) (s : Severity) : Bool :=
  match level with
  | some least => rank s ≤ rank least
  | none => false

def levelNames : List (String × Level) :=
  [("off", none), ("error", some .error), ("warn", some .warn), ("info", some .info),
   ("debug", some .debug), ("trace", some .trace)]

def numberedLevels : List Level :=
  [none, some .error, some .warn, some .info, some .debug, some .trace]

/-- The number that decimal digits write, of which a plus sign may stand in front. -/
def unsigned? (s : List Char) : Option Nat :=
  let digits := match s with
    | '+' :: rest => rest
    | s => s
  if digits.isEmpty || !digits.all Char.isDigit then none
  else some (digits.foldl (fun n c => 10 * n + (c.toNat - 48)) 0)

def level? (s : List Char) : Option Level :=
  match (unsigned? s).bind fun n => numberedLevels[n]? with
  | some level => some level
  | none => levelNames.lookup (String.ofList (s.map Char.toLower))

/-- One directive; `valued` says that it asks for a value of its field, which only spans are asked for. -/
structure Directive where
  target : Option String
  span : Option String
  field : Option String
  valued : Bool
  level : Level

inductive DirectiveFault
  | form
  | level
  | value (fault : Pattern.Fault)
  deriving DecidableEq

def DirectiveFault.message : DirectiveFault → String
  | form => "invalid filter directive"
  | level =>
      "error parsing level filter: expected one of \"off\", \"error\", \"warn\", \"info\", \"debug\", " ++
        "\"trace\", or a number 0-5"
  | value fault => "invalid field filter: " ++ fault.message

namespace Directive

def bytes (s : List Char) : Nat :=
  s.foldl (fun n c => n + c.utf8Size) 0

/-- What is left behind so many bytes, unless they end within a character. -/
def behind? : (count : Nat) → List Char → Option (List Char)
  | 0, s => some s
  | _ + 1, [] => none
  | count + 1, c :: rest =>
      if c.utf8Size ≤ count + 1 then behind? (count + 1 - c.utf8Size) rest else none

def cut? (s : List Char) (start stop : Nat) : Option (List Char) := do
  let rest ← behind? start s
  let left ← behind? stop s
  some (rest.take (rest.length - left.length))

def isOpening (c : Char) : Bool :=
  c = '-' || c = ':' || c = '_' || Text.inRanges Text.alphanumericRanges c

/-- A level that begins at a place of the text; none there is the most verbose. -/
def levelFrom (whole : List Char) (start : Nat) : Except DirectiveFault Level :=
  match behind? start whole with
  | none => .error .form
  | some [] => .ok (some .trace)
  | some name =>
      match level? name with
      | some level => .ok level
      | none => .error .level

def ending (whole : List Char) (place : Nat) : List Char → Except DirectiveFault Level
  | [] => .ok (some .trace)
  | '=' :: _ => levelFrom whole (place + 1)
  | _ => .error .form

def parseField (text : List Char) : Except DirectiveFault (String × Bool) :=
  let name := text.takeWhile (· ≠ '=')
  match text.drop name.length with
  | [] => if name.isEmpty then .error .form else .ok (String.ofList name, false)
  | _ :: value =>
      match Pattern.checkValue (value.takeWhile (· ≠ '=')) with
      | .ok _ => .ok (String.ofList name, true)
      | .error fault => .error (.value fault)

/-- What follows an opening bracket at a place: a span or a field or both, and the rest. -/
def bracketed (whole : List Char) (target : Option String) (place : Nat) (text : List Char) :
    Except DirectiveFault Directive :=
  let name := text.takeWhile fun c => c ≠ ']' && c ≠ '\x7b'
  let stop := place + bytes name
  match cut? whole place stop, text.drop name.length with
  | some span, ']' :: rest => do
      let level ← ending whole (stop + 1) rest
      .ok ⟨target, some (String.ofList span), none, false, level⟩
  | some span, '\x7b' :: rest =>
      let inner := rest.takeWhile (· ≠ '\x7d')
      let last := stop + 1 + bytes inner
      match cut? whole (stop + 1) last, rest.drop inner.length with
      | some text, '\x7d' :: rest => do
          let (name, valued) ← parseField text
          match rest with
          | ']' :: rest =>
              let level ← ending whole (last + 2) rest
              let span? := if span.isEmpty then none else some (String.ofList span)
              .ok ⟨target, span?, some name, valued, level⟩
          | _ => .error .form
      | _, _ => .error .form
  | _, _ => .error .form

def parse (whole : List Char) : Except DirectiveFault Directive :=
  match Text.trim whole with
  | [] => .error .form
  | '[' :: rest => bracketed whole none 1 rest
  | c :: rest =>
      if !isOpening c then .error .form
      else
        let text := c :: rest
        let name := text.takeWhile fun c => c ≠ '=' && c ≠ '['
        let stop := bytes name
        match text.drop name.length, cut? whole 0 stop with
        | [], _ =>
            match level? whole with
            | some level => .ok ⟨none, none, none, false, level⟩
            | none => .ok ⟨some (String.ofList whole), none, none, false, some .trace⟩
        | '=' :: _, some target => do
            let level ← levelFrom whole (stop + 1)
            .ok ⟨some (String.ofList target), none, none, false, level⟩
        | _ :: rest, some target => bracketed whole (some (String.ofList target)) (stop + 1) rest
        | _, none => .error .form

end Directive

end GasFaucet.Logging
