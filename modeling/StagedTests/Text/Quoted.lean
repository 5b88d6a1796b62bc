import StagedTests.Text.Printable

/-!
# Quoted text

A text between double quotes, the way messages name things. The quote and the backslash get a
backslash; tab, carriage return, line feed and NUL have letters; every other character that
cannot be shown as it stands is written by its code point. `quoted_inj` in the theory of messages
rests on `escape`: no two characters share an escape, and none is the start of another.
-/

namespace StagedTests.Text

/-- The hexadecimal digits of a number, lower case and without padding. -/
def hex (n : Nat) : List Char :=
  Nat.toDigits 16 n

/-- One character between the quotes. -/
def escape (c : Char) : List Char :=
  if c = '"' then ['\\', '"']
  else if c = '\\' then ['\\', '\\']
  else if c = '\t' then ['\\', 't']
  else if c = '\r' then ['\\', 'r']
  else if c = '\n' then ['\\', 'n']
  else if c = '\x00' then ['\\', '0']
  else if isPrintable c then [c]
  else ['\\', 'u', '\x7b'] ++ hex c.toNat ++ ['\x7d']

/-- The text between double quotes, with what cannot be shown escaped. -/
def quoted (s : String) : String :=
  String.ofList ('"' :: s.toList.flatMap escape ++ ['"'])

theorem toList_quoted (s : String) :
    (quoted s).toList = '"' :: s.toList.flatMap escape ++ ['"'] := by
  simp [quoted]

end StagedTests.Text
