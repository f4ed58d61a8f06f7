import GasFaucet.Url.Host

/-!
# Authorities

The part of a URL between two slashes and its path: who asks, a host and a port.
-/

namespace GasFaucet.Url

inductive Family
  | web
  | file
  | other
  deriving DecidableEq

namespace Family

/-- Whether a character ends the authority; a backslash is as good as a slash on the web. -/
def isEnd (f : Family) (c : Char) : Bool :=
  c = '/' || c = '?' || c = '#' || (f ≠ other && c = '\\')

end Family

namespace Authority

/-- The text before the last `@`, and the text after it; the first is `none` without an `@`. -/
def splitUser (s : List Char) : Option (List Char) × List Char :=
  let host := (s.reverse.takeWhile (· ≠ '@')).reverse
  if host.length = s.length then (none, s) else (some (s.take (s.length - host.length - 1)), host)

/-- The host in front of a text: what stands before the first colon outside of brackets. -/
def host (inBrackets : Bool) : List Char → List Char
  | [] => []
  | ':' :: rest => if inBrackets then ':' :: host inBrackets rest else []
  | c :: rest => c :: host (c = '[' || (inBrackets && c ≠ ']')) rest

/-- Checks what follows the host: nothing, or a colon and a number of 16 bits, which may be left out. -/
def checkPort (s : List Char) : Except Fault Unit :=
  match (number? 10 ((s.drop 1).takeWhile fun c => c ≠ '\\')).filter (· < 65536) with
  | some _ => .ok ()
  | none => .error .notAPort

/--
Checks host and port.  Outside of the web the host may be empty, but not in front of a port or behind a
user.
-/
def checkHostAndPort (f : Family) (hasUser : Bool) (s : List Char) : Except Fault Unit := do
  let name := host false s
  let port := s.drop name.length
  if name.isEmpty && (f = .web || hasUser || !port.isEmpty) then throw .emptyHost
  if f = .web then Host.check name else Host.checkOpaque name
  checkPort port

def check (f : Family) (isLast : Bool) (s : List Char) : Except Fault Unit :=
  match splitUser s with
  | (none, s) => checkHostAndPort f false s
  | (some [], s) => if s.isEmpty && !isLast then .error .emptyHost else checkHostAndPort f false s
  | (some user, s) => checkHostAndPort f (user ≠ [':']) s

end Authority

end GasFaucet.Url
