import GasFaucet.Bytes

/-!
# Values and lexemes of TOML

A value is a scalar, a list of values, or a table of named values.  Floats and dates are kept as they
were written.

Blanks, comments, line ends, keys and strings.  A reader takes the characters to come and returns
what it has read with the characters that are left, or nothing if they do not begin with what it
reads.
-/

namespace GasFaucet.Toml

inductive Value
  | string (s : String)
  | integer (n : Int)
  | float (text : String)
  | boolean (b : Bool)
  | date (text : String)
  | array (items : List Value)
  | table (entries : List (String × Value))
  deriving Inhabited

def isSpace (c : Char) : Bool :=
  c = ' ' || c = '\t'

def skipSpaces (s : List Char) : List Char :=
  s.dropWhile isSpace

def newline? : List Char → Option (List Char)
  | '\n' :: rest => some rest
  | '\r' :: '\n' :: rest => some rest
  | _ => none

/-- A character that may stand in a comment: no control but the tab. -/
def isVisible (c : Char) : Bool :=
  c = '\t' || (0x20 ≤ c.toNat && c.toNat ≠ 0x7f)

def lineEnd? : List Char → Option (List Char)
  | [] => some []
  | s => newline? s

/-- What is left behind the rest of a line that holds nothing more than a comment. -/
def blankLine? (s : List Char) : Option (List Char) :=
  match skipSpaces s with
  | '#' :: rest => lineEnd? (rest.dropWhile isVisible)
  | s => lineEnd? s

def skipGap : (inComment : Bool) → List Char → List Char
  | _, [] => []
  | _, '\n' :: rest => skipGap false rest
  | _, '\r' :: '\n' :: rest => skipGap false rest
  | false, c :: rest =>
      if isSpace c then skipGap false rest else if c = '#' then skipGap true rest else c :: rest
  | true, c :: rest => if isVisible c then skipGap true rest else c :: rest

def scalarValue? (n : Nat) : Option Char :=
  if h : n.isValidChar then some (Char.ofNatAux n h) else none

def numberedChar? (digits : List Char) : Option Char :=
  (Bytes.hexNumber? digits).bind scalarValue?

/-- The character for which what follows a backslash stands, and the number of characters it takes. -/
def escape? : List Char → Option (Char × Nat)
  | 'b' :: _ => some ('\x08', 1)
  | 't' :: _ => some ('\t', 1)
  | 'n' :: _ => some ('\n', 1)
  | 'f' :: _ => some ('\x0c', 1)
  | 'r' :: _ => some ('\r', 1)
  | '"' :: _ => some ('"', 1)
  | '\\' :: _ => some ('\\', 1)
  | 'u' :: rest =>
      if 4 ≤ rest.length then (numberedChar? (rest.take 4)).map fun c => (c, 5) else none
  | 'U' :: rest =>
      if 8 ≤ rest.length then (numberedChar? (rest.take 8)).map fun c => (c, 9) else none
  | _ => none

def prepend (front : List Char) (read : Option (List Char × List Char)) : Option (List Char × List Char) :=
  read.map fun (s, rest) => (front ++ s, rest)

/-- Reads on in a basic string up to its closing mark, passing over `skip` characters first. -/
def basicBody? : (skip : Nat) → List Char → Option (List Char × List Char)
  | _, [] => none
  | skip + 1, _ :: rest => basicBody? skip rest
  | 0, c :: rest =>
      if c = '"' then some ([], rest)
      else if c = '\\' then
        match escape? rest with
        | some (d, width) => prepend [d] (basicBody? width rest)
        | none => none
      else if isVisible c then prepend [c] (basicBody? 0 rest)
      else none

def literalBody? : List Char → Option (List Char × List Char)
  | [] => none
  | c :: rest =>
      if c = '\'' then some ([], rest)
      else if isVisible c then prepend [c] (literalBody? rest)
      else none

/-- How a run of marks in a string of several lines is to be read. -/
inductive MarkRun
  | content (count : Nat)
  | closing (count : Nat)
  | tooLong

/--
Up to two marks belong to the string; three close it, and up to two more in front of them belong to
it.
-/
def markRun (mark : Char) (rest : List Char) : MarkRun :=
  let count := 1 + (rest.takeWhile (· = mark)).length
  if count ≤ 2 then .content count else if count ≤ 5 then .closing (count - 3) else .tooLong

def beginsBreak (c : Char) (rest : List Char) : Bool :=
  c = '\n' || (c = '\r' && rest.head? = some '\n')

/--
Reads on in a string of several lines.  A backslash at the end of a line takes away the line break and
all blanks behind it, during which `trimming` holds; `escapes` tells a basic string from a literal one.
-/
def linesBody? (mark : Char) (escapes : Bool) :
    (skip : Nat) → (trimming : Bool) → List Char → Option (List Char × List Char)
  | _, _, [] => none
  | skip + 1, trimming, _ :: rest => linesBody? mark escapes skip trimming rest
  | 0, trimming, c :: rest =>
      if trimming && (isSpace c || beginsBreak c rest) then
        linesBody? mark escapes (if c = '\r' then 1 else 0) true rest
      else if c = mark then
        match markRun mark rest with
        | .content count =>
            prepend (List.replicate count mark) (linesBody? mark escapes (count - 1) false rest)
        | .closing count => some (List.replicate count mark, rest.drop (count + 2))
        | .tooLong => none
      else if escapes && c = '\\' then
        if (newline? (skipSpaces rest)).isSome then linesBody? mark escapes 0 true rest
        else
          match escape? rest with
          | some (d, width) => prepend [d] (linesBody? mark escapes width false rest)
          | none => none
      else if beginsBreak c rest then
        prepend ['\n'] (linesBody? mark escapes (if c = '\r' then 1 else 0) false rest)
      else if isVisible c then prepend [c] (linesBody? mark escapes 0 false rest)
      else none

/-- A string of several lines does not hold a line break right behind its opening marks. -/
def dropFirstBreak (s : List Char) : List Char :=
  (newline? s).getD s

def string? : List Char → Option (List Char × List Char)
  | '"' :: '"' :: '"' :: rest => linesBody? '"' true 0 false (dropFirstBreak rest)
  | '"' :: rest => basicBody? 0 rest
  | '\'' :: '\'' :: '\'' :: rest => linesBody? '\'' false 0 false (dropFirstBreak rest)
  | '\'' :: rest => literalBody? rest
  | _ => none

def isBareKeyChar (c : Char) : Bool :=
  c.isAlphanum || c = '_' || c = '-'

def keyPart? : List Char → Option (List Char × List Char)
  | '"' :: rest => basicBody? 0 rest
  | '\'' :: rest => literalBody? rest
  | s =>
      match s.takeWhile isBareKeyChar with
      | [] => none
      | name => some (name, s.dropWhile isBareKeyChar)

/-- Reads the parts of a key, which points divide; `fuel` bounds their number. -/
def keyParts? : (fuel : Nat) → List Char → Option (List String × List Char)
  | 0, _ => none
  | fuel + 1, s =>
      match keyPart? (skipSpaces s) with
      | none => none
      | some (part, rest) =>
          match skipSpaces rest with
          | '.' :: rest => (keyParts? fuel rest).map fun (parts, rest) => (String.ofList part :: parts, rest)
          | rest => some ([String.ofList part], rest)

def nestingLimit : Nat := 79

def key? (s : List Char) : Option (List String × List Char) :=
  keyParts? nestingLimit s

end GasFaucet.Toml
