import StagedTests.Json.Basic
import StagedTests.Number.Decimal
import StagedTests.Text.Quoted

/-!
# Texts of JSON values

`compact` writes a value without any blank, `pretty` one item or member a line, two blanks deeper
than what holds it. In strings only the quote, the backslash and the controls below the blank are
escaped; everything else stands as it is.
-/

namespace StagedTests.Json

/-- A control without a short escape. -/
def controlEscape (c : Char) : List Char :=
  let digits := Text.hex c.toNat
  ['\\', 'u'] ++ List.replicate (4 - digits.length) '0' ++ digits

/-- One character of a string. -/
def escapeChar (c : Char) : List Char :=
  if c = '"' then ['\\', '"']
  else if c = '\\' then ['\\', '\\']
  else if c = '\x08' then ['\\', 'b']
  else if c = '\x0c' then ['\\', 'f']
  else if c = '\n' then ['\\', 'n']
  else if c = '\r' then ['\\', 'r']
  else if c = '\t' then ['\\', 't']
  else if c < ' ' then controlEscape c
  else [c]

def stringText (s : String) : List Char :=
  '"' :: s.toList.flatMap escapeChar ++ ['"']

def wholeText (i : Int) : List Char :=
  if i < 0 then '-' :: decimalDigits i.natAbs else decimalDigits i.natAbs

def numberText : Number → List Char
  | .whole i => wholeText i
  | .real x => x.toText.toList

def boolText (b : Bool) : List Char :=
  if b then "true".toList else "false".toList

mutual

def compactChars : Json → List Char
  | .null => "null".toList
  | .bool b => boolText b
  | .number n => numberText n
  | .string s => stringText s
  | .array items => '[' :: compactItems items ++ [']']
  | .object members => '\x7b' :: compactMembers members ++ ['\x7d']

def compactItems : List Json → List Char
  | [] => []
  | [v] => v.compactChars
  | v :: rest => v.compactChars ++ ',' :: compactItems rest

def compactMembers : List (String × Json) → List Char
  | [] => []
  | [(k, v)] => stringText k ++ ':' :: v.compactChars
  | (k, v) :: rest => stringText k ++ ':' :: v.compactChars ++ ',' :: compactMembers rest

end

/-- The text without blanks. -/
def compact (v : Json) : String :=
  String.ofList v.compactChars

def newLine (depth : Nat) : List Char :=
  '\n' :: List.replicate (2 * depth) ' '

mutual

def prettyChars (depth : Nat) : Json → List Char
  | .null => "null".toList
  | .bool b => boolText b
  | .number n => numberText n
  | .string s => stringText s
  | .array [] => ['[', ']']
  | .array items => '[' :: prettyItems (depth + 1) items ++ newLine depth ++ [']']
  | .object [] => ['\x7b', '\x7d']
  | .object members => '\x7b' :: prettyMembers (depth + 1) members ++ newLine depth ++ ['\x7d']

def prettyItems (depth : Nat) : List Json → List Char
  | [] => []
  | [v] => newLine depth ++ prettyChars depth v
  | v :: rest => newLine depth ++ prettyChars depth v ++ ',' :: prettyItems depth rest

def prettyMembers (depth : Nat) : List (String × Json) → List Char
  | [] => []
  | [(k, v)] => newLine depth ++ stringText k ++ ':' :: ' ' :: prettyChars depth v
  | (k, v) :: rest =>
    newLine depth ++ stringText k ++ ':' :: ' ' :: prettyChars depth v ++
      ',' :: prettyMembers depth rest

end

/-- The text with one item or member a line. -/
def pretty (v : Json) : String :=
  String.ofList (prettyChars 0 v)

end StagedTests.Json
