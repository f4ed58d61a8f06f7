import GasFaucet.Url.Numeric

/-!
# Hosts

What may stand as the host of a URL: a numeric address, a domain, or, in a scheme that is not one of
the web's, a name that is left as it is.
-/

namespace GasFaucet.Url

inductive Fault
  | relative
  | emptyHost
  | notADomain
  | notFourBytes
  | notSixteenBytes
  | forbiddenCharacter
  | notAPort
  deriving DecidableEq

namespace Fault

def message : Fault → String
  | relative => "relative URL without a base"
  | emptyHost => "empty host"
  | notADomain => "invalid international domain name"
  | notFourBytes => "invalid IPv4 address"
  | notSixteenBytes => "invalid IPv6 address"
  | forbiddenCharacter => "invalid domain character"
  | notAPort => "invalid port number"

end Fault

namespace Host

/-- The bytes of a text, where a percent sign and two hex digits stand for one. -/
def bytes : List Char → Bytes
  | [] => []
  | '%' :: a :: b :: rest =>
      match Bytes.hexValue? a, Bytes.hexValue? b with
      | some hi, some lo => (16 * hi + lo).toUInt8 :: bytes rest
      | _, _ => 37 :: bytes (a :: b :: rest)
  | c :: rest => String.utf8EncodeChar c ++ bytes rest

/-- The characters of a text, where percent signs and hex digits stand for bytes of UTF-8. -/
def decoded? (s : List Char) : Option (List Char) :=
  (String.fromUTF8? ⟨(bytes s).toArray⟩).map String.toList

def checkBracketed (s : List Char) : Except Fault Unit :=
  if s.getLast? = some ']' && SixteenBytes.isAddress (s.drop 1).dropLast then .ok ()
  else .error .notSixteenBytes

def checkDomain (s : List Char) : Except Fault Unit :=
  match (decoded? s).bind labels? with
  | none => .error .notADomain
  | some labels =>
      if labels = [[]] then .error .emptyHost
      else if FourBytes.isMeant labels && !FourBytes.isAddress labels then .error .notFourBytes
      else .ok ()

def check (s : List Char) : Except Fault Unit :=
  if s.head? = some '[' then checkBracketed s else checkDomain s

def isForbidden (c : Char) : Bool :=
  ['\x00', '\t', '\n', '\r', ' ', '#', '/', ':', '<', '>', '?', '@', '[', '\\', ']', '^', '|'].contains c

def checkOpaque (s : List Char) : Except Fault Unit :=
  if s.head? = some '[' then checkBracketed s
  else if s.any isForbidden then .error .forbiddenCharacter
  else .ok ()

end Host

end GasFaucet.Url
