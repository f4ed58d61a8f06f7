import GasFaucet.Failure
import GasFaucet.Json

/-!
# Pages

What a server answers to a request for a path.  A path that has no page is not found whatever the
method; a page answers GET, and HEAD without its content, and allows no other method.
-/

namespace GasFaucet

inductive Content
  | lines (text : List String)
  | json (value : Json)

def Content.mediaType : Content → String
  | .lines _ => "text/plain; charset=utf-8"
  | .json _ => "application/json"

/-- What a server answers; `allow` names the methods that a page allows, where another was used. -/
structure Page where
  status : Nat
  mediaType : Option String := none
  allow : Option String := none
  content : Option Content := none

/-- The pages of a server: for each path that has one, its status and content. -/
abbrev Site := String → Option (Nat × Content)

namespace Site

/-- The path of a request's target, which is what stands before a question mark or a number sign. -/
def path (target : String) : String :=
  String.ofList (target.toList.takeWhile fun c => c ≠ '?' && c ≠ '#')

def answer (site : Site) (method target : String) : Page :=
  match site (path target) with
  | none => { status := 404 }
  | some (status, content) =>
      if method = "GET" then
        { status := status, mediaType := some content.mediaType, content := some content }
      else if method = "HEAD" then { status := status, mediaType := some content.mediaType }
      else { status := 405, allow := some "get,head" }

end Site

def addressInUse : String :=
  "Address already in use (os error 98)"

end GasFaucet
