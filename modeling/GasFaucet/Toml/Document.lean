import GasFaucet.Toml.Scalar
import GasFaucet.Toml.Tree

/-!
# TOML documents

A document is a sequence of lines: pairs of a key and a value, headers that name the table to which
the pairs behind them belong, comments, and blank lines.
-/

namespace GasFaucet.Toml

mutual

/-- Reads a value; `depth` bounds how deeply it is nested, and `fuel` the steps. -/
def value? : (fuel depth : Nat) → List Char → Option (Value × List Char)
  | 0, _, _ => none
  | fuel + 1, depth, s =>
      match s with
      | '"' :: _ | '\'' :: _ => (string? s).map fun (chars, rest) => (.string (String.ofList chars), rest)
      | '[' :: rest =>
          if depth = 0 then none
          else (items? fuel (depth - 1) rest).map fun (items, rest) => (.array items, rest)
      | '\x7b' :: rest =>
          if depth = 0 then none
          else
            match skipSpaces rest with
            | '\x7d' :: rest => some (.table [], rest)
            | rest =>
                match pairs? fuel (depth - 1) rest with
                | none => none
                | some (pairs, rest) =>
                    (Entries.putAll? [] pairs).map fun t => (.table (entryValues t), rest)
      | s => scalar? s

def items? : (fuel depth : Nat) → List Char → Option (List Value × List Char)
  | 0, _, _ => none
  | fuel + 1, depth, s =>
      match skipGap false s with
      | ']' :: rest => some ([], rest)
      | s =>
          match value? fuel depth s with
          | none => none
          | some (v, rest) =>
              match skipGap false rest with
              | ']' :: rest => some ([v], rest)
              | ',' :: rest => (items? fuel depth rest).map fun (items, rest) => (v :: items, rest)
              | _ => none

/-- Reads the pairs of a table within a line up to its closing brace. -/
def pairs? : (fuel depth : Nat) → List Char → Option (List (List String × Value) × List Char)
  | 0, _, _ => none
  | fuel + 1, depth, s =>
      match key? s with
      | some (key, '=' :: rest) =>
          match value? fuel depth (skipSpaces rest) with
          | none => none
          | some (v, rest) =>
              match skipSpaces rest with
              | '\x7d' :: rest => some ([(key, v)], rest)
              | ',' :: rest => (pairs? fuel depth rest).map fun (pairs, rest) => ((key, v) :: pairs, rest)
              | _ => none
      | _ => none

end

inductive Line
  | pair (key : List String) (v : Value)
  | header (path : List String)
  | listHeader (path : List String)

/-- Reads a line that is neither blank nor only a comment, up to its end. -/
def line? (s : List Char) : Option (Line × List Char) :=
  let close (line : Line) (rest : List Char) := (blankLine? rest).map fun rest => (line, rest)
  match s with
  | '[' :: '[' :: rest =>
      match key? rest with
      | some (path, ']' :: ']' :: rest) => close (.listHeader path) rest
      | _ => none
  | '[' :: rest =>
      match key? rest with
      | some (path, ']' :: rest) => close (.header path) rest
      | _ => none
  | s =>
      match key? s with
      | some (key, '=' :: rest) =>
          match value? (3 * rest.length + 3) nestingLimit (skipSpaces rest) with
          | some (v, rest) => close (.pair key v) rest
          | none => none
      | _ => none

def lines? : (fuel : Nat) → List Char → Option (List Line)
  | 0, _ => none
  | fuel + 1, s =>
      match skipSpaces s with
      | [] => some []
      | s =>
          match blankLine? s with
          | some rest => lines? fuel rest
          | none =>
              match line? s with
              | some (line, rest) => (lines? fuel rest).map (line :: ·)
              | none => none

def leadingPairs : List Line → List (List String × Value) × List Line
  | .pair key v :: rest =>
      let (pairs, rest) := leadingPairs rest
      ((key, v) :: pairs, rest)
  | rest => ([], rest)

def addTables? : List Line → Entries → Option Entries
  | [], t => some t
  | .pair .. :: rest, t => addTables? rest t
  | .header path :: rest, t =>
      match path.getLast? with
      | none => none
      | some name =>
          match Entries.within? path.dropLast (Entries.define? name (leadingPairs rest).1) t with
          | some t => addTables? rest t
          | none => none
  | .listHeader path :: rest, t =>
      match path.getLast? with
      | none => none
      | some name =>
          match Entries.within? path.dropLast (Entries.append? name (leadingPairs rest).1) t with
          | some t => addTables? rest t
          | none => none

def ofLines? (lines : List Line) : Option Entries :=
  match Entries.putAll? [] (leadingPairs lines).1 with
  | some root => addTables? lines root
  | none => none

def dropByteOrderMark : List Char → List Char
  | c :: rest => if c.toNat = 0xfeff then rest else c :: rest
  | [] => []

def document? (text : String) : Option (List (String × Value)) :=
  let s := dropByteOrderMark text.toList
  ((lines? (s.length + 1) s).bind ofLines?).map entryValues

end GasFaucet.Toml
