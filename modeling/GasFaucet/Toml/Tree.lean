import GasFaucet.Toml.Lexeme

/-!
# Growing tables

The tables of a document grow line by line.  A table may be defined once; before that it may stand on
the way to another table that a header names.  A table that a key with points has made grows only
through such keys, and no value is ever replaced.
-/

namespace GasFaucet.Toml

/-- How a table has come about: a header named it, a header names one inside of it, or a key did. -/
inductive Origin
  | defined
  | passed
  | dotted
  deriving DecidableEq

inductive Node
  | value (v : Value)
  | table (origin : Origin) (entries : List (String × Node))
  | tables (items : List (List (String × Node)))

abbrev Entries := List (String × Node)

namespace Entries

def set : Entries → String → Node → Entries
  | [], name, node => [(name, node)]
  | (k, old) :: rest, name, node =>
      if k = name then (k, node) :: rest else (k, old) :: set rest name node

/-- Adds a value under a key; what the parts of the key name on the way has to be made by keys as well. -/
def put? : (key : List String) → Value → Entries → Option Entries
  | [], _, _ => none
  | [name], v, t => if (t.lookup name).isSome then none else some (set t name (.value v))
  | name :: next :: key, v, t =>
      match t.lookup name with
      | none => (put? (next :: key) v []).map fun sub => set t name (.table .dotted sub)
      | some (.value _) => none
      | some (.table origin sub) =>
          if origin = .defined || (origin = .passed && key.isEmpty) then none
          else (put? (next :: key) v sub).map fun sub => set t name (.table origin sub)
      | some (.tables items) =>
          match key.isEmpty, items.getLast? with
          | false, some last =>
              (put? (next :: key) v last).map fun last => set t name (.tables (items.dropLast ++ [last]))
          | _, _ => none

def putAll? (t : Entries) (pairs : List (List String × Value)) : Option Entries :=
  pairs.foldlM (fun t (key, v) => put? key v t) t

/-- Changes the table that a header's path leads to; what is missing on the way is made. -/
def within? : (path : List String) → (Entries → Option Entries) → Entries → Option Entries
  | [], f, t => f t
  | name :: path, f, t =>
      match t.lookup name with
      | none => (within? path f []).map fun sub => set t name (.table .passed sub)
      | some (.value _) => none
      | some (.table origin sub) => (within? path f sub).map fun sub => set t name (.table origin sub)
      | some (.tables items) =>
          match items.getLast? with
          | some last => (within? path f last).map fun last => set t name (.tables (items.dropLast ++ [last]))
          | none => none

def define? (name : String) (pairs : List (List String × Value)) (t : Entries) : Option Entries :=
  match t.lookup name with
  | none => (putAll? [] pairs).map fun sub => set t name (.table .defined sub)
  | some (.table .passed sub) => (putAll? sub pairs).map fun sub => set t name (.table .defined sub)
  | _ => none

def append? (name : String) (pairs : List (List String × Value)) (t : Entries) : Option Entries :=
  match t.lookup name with
  | none => (putAll? [] pairs).map fun sub => set t name (.tables [sub])
  | some (.tables items) => (putAll? [] pairs).map fun sub => set t name (.tables (items ++ [sub]))
  | _ => none

end Entries

mutual

def Node.toValue : Node → Value
  | .value v => v
  | .table _ entries => .table (entryValues entries)
  | .tables items => .array (tableValues items)

def entryValues : List (String × Node) → List (String × Value)
  | [] => []
  | (name, node) :: rest => (name, node.toValue) :: entryValues rest

def tableValues : List (List (String × Node)) → List Value
  | [] => []
  | entries :: rest => .table (entryValues entries) :: tableValues rest

end

end GasFaucet.Toml
