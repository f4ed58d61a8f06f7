import GasFaucet.Crypto.Secp256k1
import GasFaucet.Text.Characters

/-!
# Key texts

A private key is written as 64 hex digits of either case.  White space around them and prefixes in
front of them do not count.
-/

namespace GasFaucet

/-- The text without any leading `0x`, however often it stands there. -/
def dropHexMarks : List Char → List Char
  | '0' :: 'x' :: rest => dropHexMarks rest
  | s => s

def dropUpperMark : List Char → List Char
  | '0' :: 'X' :: rest => rest
  | s => s

def dropEitherMark : List Char → List Char
  | '0' :: 'x' :: rest => rest
  | '0' :: 'X' :: rest => rest
  | s => s

/-- What is left of a key's text without white space and prefixes. -/
def keyDigits (text : String) : List Char :=
  dropEitherMark (dropUpperMark (dropHexMarks (Text.trim text.toList)))

inductive KeyError
  | oddLength
  | notHex (byte : UInt8) (position : Nat)
  | wrongLength
  | notAdmissible
  deriving DecidableEq

namespace KeyError

def message : KeyError → String
  | oddLength => "odd number of digits"
  | notHex byte position =>
      "invalid character " ++ Text.quoteChar (Char.ofNat byte.toNat) ++ s!" at position {position}"
  | wrongLength => "invalid string length"
  | notAdmissible => "signature error"

end KeyError

def utf8 (s : List Char) : Bytes :=
  s.flatMap String.utf8EncodeChar

def hexByteValue? (b : UInt8) : Option Nat :=
  Bytes.hexValue? (Char.ofNat b.toNat)

def parseKeyBytes (bytes : Bytes) : Except KeyError Secp256k1.PrivateKey :=
  if bytes.length % 2 = 1 then .error .oddLength
  else
    match bytes.findIdx? fun b => (hexByteValue? b).isNone with
    | some i => .error (.notHex (bytes.getD i 0) i)
    | none =>
        if bytes.length ≠ 64 then .error .wrongLength
        else
          match Secp256k1.PrivateKey.ofNat?
              (bytes.foldl (fun n b => 16 * n + (hexByteValue? b).getD 0) 0) with
          | some key => .ok key
          | none => .error .notAdmissible

def parseKey (text : String) : Except KeyError Secp256k1.PrivateKey :=
  parseKeyBytes (utf8 (keyDigits text))

end GasFaucet
