import GasFaucet.Logging.Directive

/-!
# Log filters

A filter is a list of directives between commas.  Of the directives that are about an event, the one with
the longest target decides, then the one that names a field; of several that are equal in this the last.
-/

namespace GasFaucet.Logging

/-- An event as filters see it: where it comes from, how grave it is, and which fields it has. -/
structure Event where
  target : String
  severity : Severity
  fields : List String

def parts (s : String) : List (List Char) :=
  (s.toList.splitOnP (· = ',')).filter fun p => !p.isEmpty

/-- A filter; one without directives shows errors only. -/
structure Filter where
  directives : List Directive

namespace Filter

def strict? (s : String) : Option Filter :=
  ((parts s).mapM fun p => (Directive.parse p).toOption).map fun l => ⟨l⟩

def complaint? (p : List Char) : Option String :=
  match Directive.parse p with
  | .ok _ => none
  | .error fault => some ("ignoring \x60" ++ String.ofList p ++ "\x60: " ++ fault.message)

/-- The filter of those directives of a text that can be read, and a complaint about each other one. -/
def lenient (s : String) : Filter × List String :=
  (⟨(parts s).filterMap fun p => (Directive.parse p).toOption⟩, (parts s).filterMap complaint?)

def defaultText : String :=
  "info,entity_faucet=debug,hyper=warn"

/-- Whether a directive is about an event; those about spans or values of their fields never are. -/
def concerns (e : Event) (d : Directive) : Bool :=
  d.span.isNone && !d.valued && d.target.all (fun t => t.toList.isPrefixOf e.target.toList) &&
    d.field.all fun f => e.fields.contains f

def isAsSpecific (d other : Directive) : Bool :=
  let length (d : Directive) : Nat := (d.target.map fun t => t.length + 1).getD 0
  if length d ≠ length other then decide (length other < length d)
  else
    match d.field, other.field with
    | _, none => true
    | none, some _ => false
    | some f, some g => !decide (f < g)

def prefer (best : Option Directive) (d : Directive) : Option Directive :=
  match best with
  | none => some d
  | some b => if isAsSpecific d b then some d else some b

def admits (f : Filter) (e : Event) : Bool :=
  if f.directives.isEmpty then e.severity = .error
  else
    match (f.directives.filter (concerns e)).foldl prefer none with
    | some d => shows d.level e.severity
    | none => false

end Filter

/-- The filter that environment and settings ask for; one in the environment that can be read wins. -/
def chosen (fromEnvironment fromSettings : Option String) : Filter × List String :=
  match fromEnvironment.bind Filter.strict? with
  | some f => (f, [])
  | none => Filter.lenient (fromSettings.getD Filter.defaultText)

end GasFaucet.Logging
