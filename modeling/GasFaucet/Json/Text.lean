import GasFaucet.Json

/-!
# The text of JSON values

Writes a value without blanks, the fields of an object in their order.  In a string only quotes,
backslashes and control characters are escaped.
-/

namespace GasFaucet.Json

/-- A character within a string. -/
def escape (c : Char) : List Char :=
  if c = '"' then ['\\', '"']
  else if c = '\\' then ['\\', '\\']
  else if c = '\n' then ['\\', 'n']
  else if c = '\r' then ['\\', 'r']
  else if c = '\t' then ['\\', 't']
  else if c.toNat < 32 then
    ['\\', 'u', '0', '0', Nat.digitChar (c.toNat / 16), Nat.digitChar (c.toNat % 16)]
  else [c]

def quoted (s : String) : String :=
  String.ofList ('"' :: s.toList.flatMap escape ++ ['"'])

mutual

def text : Json → String
  | .null => "null"
  | .bool b => toString b
  | .integer n => toString n
  | .real x => realText x
  | .string s => quoted s
  | .array items => "[" ++ ",".intercalate (textItems items) ++ "]"
  | .object fields => "\x7b" ++ ",".intercalate (textFields fields) ++ "\x7d"

def textItems : List Json → List String
  | [] => []
  | j :: rest => text j :: textItems rest

def textFields : List (String × Json) → List String
  | [] => []
  | (name, j) :: rest => (quoted name ++ ":" ++ text j) :: textFields rest

end

end GasFaucet.Json
