import GasFaucet.Text.Characters
import GasFaucet.Text.Shortest

/-!
# JSON values

What a node sends and what the pages of the faucet carry.
-/

namespace GasFaucet

/-- A JSON value; a number is an integer, or a real where it has a fraction or is too large. -/
inductive Json
  | null
  | bool (b : Bool)
  | integer (n : Int)
  | real (x : Float)
  | string (s : String)
  | array (items : List Json)
  | object (fields : List (String × Json))
  deriving Inhabited

namespace Json

def ofNat (n : Nat) : Json :=
  .integer n

def field? (j : Json) (name : String) : Option Json :=
  match j with
  | .object fields =>
      match fields.lookup name with
      | some .null => none
      | v => v
  | _ => none

/--
The text of a real: positional and with at least one place while the exponent of its first digit lies
from -5 to 15, else scientific.  Digits halfway between two choices go to the even one.
-/
def realText (x : Float) : String :=
  let bits := x.toBits.toNat
  let sign := if bits < Nat.pow 2 63 then "" else "-"
  if x == 0 then sign ++ "0.0"
  else
    let d := (Text.Interval.ofBits bits).shortest .toEven
    if -5 ≤ d.magnitude ∧ d.magnitude ≤ 15 then sign ++ Text.withPlace d.positional
    else sign ++ d.scientific

mutual

def inspect : Json → String
  | .null => "Null"
  | .bool b => s!"Bool({b})"
  | .integer n => s!"Number({n})"
  | .real x => "Number(" ++ realText x ++ ")"
  | .string s => "String(" ++ Text.quote s ++ ")"
  | .array items => "Array [" ++ ", ".intercalate (inspectItems items) ++ "]"
  | .object fields => "Object \x7b" ++ ", ".intercalate (inspectFields fields) ++ "\x7d"

def inspectItems : List Json → List String
  | [] => []
  | j :: rest => inspect j :: inspectItems rest

def inspectFields : List (String × Json) → List String
  | [] => []
  | (name, j) :: rest => (Text.quote name ++ ": " ++ inspect j) :: inspectFields rest

end

end Json

end GasFaucet
