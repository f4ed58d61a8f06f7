import GasFaucet.Json.Reader
import GasFaucet.Json.Text
import GasFaucet.Program

/-!
# The console

How the program is operated by lines of text: calls to the node and their replies, what may be asked of
a running faucet, and how pages and the log are written.
-/

namespace GasFaucet

def Call.line (c : Call) : String :=
  " ".intercalate (c.method :: c.params?.getD [])

/-- What a line says comes of a call: a result as JSON, or else a complaint. -/
def Outcome.ofLine (line : String) : Outcome :=
  match Json.read? line with
  | some value => .result value
  | none => .refusal line

inductive Command
  | status (target : String)
  | metrics (target : String)
  | check
  deriving DecidableEq

namespace Command

def ofLine? (line : String) : Option Command :=
  match line.splitOn " " with
  | ["status", target] => some (.status target)
  | ["metrics", target] => some (.metrics target)
  | ["check"] => some .check
  | _ => none

/-- Whether the settings let a command be obeyed: pages are served only where their server is enabled. -/
def isServed (s : Settings) : Command → Bool
  | status _ => s.api.enabled
  | metrics _ => s.metrics.enabled
  | check => true

end Command

def Page.lines (p : Page) : List String :=
  toString p.status ::
    match p.content with
    | none => []
    | some (.lines text) => text
    | some (.json value) => [value.text]

namespace Announcement

def value (a : Announcement) : Json :=
  .object
    [("level", .string a.severity.text),
     ("fields", .object (("message", .string a.message) :: a.fields.map fun (name, v) => (name, v.json))),
     ("target", .string target)]

def record (asJson : Bool) (a : Announcement) : String :=
  if asJson then a.value.text else a.severity.text ++ " " ++ target ++ ": " ++ a.line

end Announcement

def Pages.calls (p : Pool) (target : String) : List Call :=
  let path := Site.path target
  if path = "/ready" then [.blockNumber]
  else if path = "/signers" then p.slots.map fun slot => .balance slot.signer.address .latest
  else []

end GasFaucet
