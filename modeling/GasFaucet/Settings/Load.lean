import GasFaucet.Settings.Check
import GasFaucet.Settings.Decode

/-!
# Loading settings

Settings stand in a file, which the environment may name.  The file may refer to a variable of the
environment by its name between `$` with an opening brace and a closing brace.  The references of the
text are replaced one after the other, each wherever it then stands, so that the values of earlier
ones are searched for later ones.  Then the text is read as a document, and what is read is checked.
-/

namespace GasFaucet.Environment

def startsName (c : Char) : Bool :=
  c.isUpper || c = '_'

def continuesName (c : Char) : Bool :=
  startsName c || c.isDigit

def reference? : List Char → Option (List Char)
  | '$' :: '\x7b' :: first :: rest =>
      let name := first :: rest.takeWhile continuesName
      if startsName first && rest[name.length - 1]? = some '\x7d' then some name else none
  | _ => none

/-- The names of the references in a text, in order; `skip` characters belong to the last one. -/
def references : (skip : Nat) → List Char → List (List Char)
  | _, [] => []
  | skip + 1, _ :: rest => references skip rest
  | 0, c :: rest =>
      match reference? (c :: rest) with
      | some name => name :: references (name.length + 2) rest
      | none => references 0 rest

/-- Replaces a pattern wherever it stands, from left to right; `skip` characters belong to the last find. -/
def replace (pattern value : List Char) : (skip : Nat) → List Char → List Char
  | _, [] => []
  | skip + 1, _ :: rest => replace pattern value skip rest
  | 0, c :: rest =>
      if pattern.isPrefixOf (c :: rest) then value ++ replace pattern value (pattern.length - 1) rest
      else c :: replace pattern value 0 rest

def written (name : List Char) : List Char :=
  '$' :: '\x7b' :: name ++ ['\x7d']

/-- The text with its references replaced; a variable that is not set counts as empty. -/
def substitute (env : String → Option String) (text : String) : String :=
  String.ofList ((references 0 text.toList).foldl (fun s name =>
    replace (written name) ((env (String.ofList name)).getD "").toList 0 s) text.toList)

end GasFaucet.Environment

namespace GasFaucet.Settings

def ofText (env : String → Option String) (text : String) : Except SettingsError Settings :=
  match parse? (Environment.substitute env text) with
  | none => .error .unparsable
  | some s =>
      match s.check with
      | .error e => .error e
      | .ok _ => .ok s

/-- Where the settings stand if the environment does not name a file. -/
def defaultPath : String :=
  "config/default.toml"

def path (env : String → Option String) : String :=
  (env "FAUCET_CONFIG").getD defaultPath

/-- The settings in a file; `read` gives the bytes of a file that can be read, which have to be UTF-8. -/
def load (env : String → Option String) (read : String → Option ByteArray) (path : String) :
    Except SettingsError Settings :=
  match (read path).bind String.fromUTF8? with
  | none => .error (.unreadable path)
  | some text => ofText env text

end GasFaucet.Settings
