import GasFaucet.Url.Authority

/-!
# URLs

A URL has a scheme, and in most schemes a host and perhaps a port.  `Url.check` says whether text is a
URL, and what is wrong if it is not.
-/

namespace GasFaucet.Url

/-- The characters that count: no blanks or controls at the ends, no line breaks or tabs anywhere. -/
def significant (url : String) : List Char :=
  let isOuter (c : Char) := c.toNat ≤ 0x20
  let inner := ((url.toList.dropWhile isOuter).reverse.dropWhile isOuter).reverse
  inner.filter fun c => c ≠ '\t' && c ≠ '\n' && c ≠ '\r'

def isOfScheme (c : Char) : Bool :=
  c.isAlpha || c.isDigit || c = '+' || c = '-' || c = '.'

def scheme? (s : List Char) : Option (String × List Char) :=
  let name := s.takeWhile isOfScheme
  match name, s.drop name.length with
  | first :: _, ':' :: rest =>
      if first.isAlpha then some (String.ofList (name.map Char.toLower), rest) else none
  | _, _ => none

def Family.ofScheme (scheme : String) : Family :=
  if scheme ∈ ["http", "https", "ws", "wss", "ftp"] then .web
  else if scheme = "file" then .file
  else .other

def checkFromAuthority (f : Family) (s : List Char) : Except Fault Unit :=
  let authority := s.takeWhile fun c => !f.isEnd c
  Authority.check f (authority.length = s.length) authority

def isDrive : List Char → Bool
  | [c, mark] => c.isAlpha && (mark = ':' || mark = '|')
  | _ => false

/-- Checks what follows the colon of the scheme of a file; only its host can be wrong. -/
def checkFile : List Char → Except Fault Unit
  | a :: b :: rest =>
      let host := rest.takeWhile fun c => !Family.file.isEnd c
      if !(a = '/' || a = '\\') || !(b = '/' || b = '\\') || host.isEmpty || isDrive host then .ok ()
      else Host.check host
  | _ => .ok ()

def checkRest : Family → List Char → Except Fault Unit
  | .web, s => checkFromAuthority .web (s.dropWhile fun c => c = '/' || c = '\\')
  | .file, s => checkFile s
  | .other, '/' :: '/' :: s => checkFromAuthority .other s
  | .other, _ => .ok ()

def check (url : String) : Except Fault Unit :=
  match scheme? (significant url) with
  | none => .error .relative
  | some (scheme, rest) => checkRest (.ofScheme scheme) rest

end GasFaucet.Url
