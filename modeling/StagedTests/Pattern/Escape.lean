import StagedTests.Pattern.Mode

/-!
# Escapes in a pattern

What a backslash begins: a character given by itself, by a letter or by its code, a set of
characters, or a place in the text. Digits and letters without a meaning are refused, and so is
what asks for the edge of a word made of any letters, for which no automaton is built.
-/

namespace StagedTests.Pattern

/-- What an escape stands for. -/
inductive Escape
  | char (c : Char)
  | set
  | place
  deriving DecidableEq

namespace Escape

/-- The value of a hexadecimal digit. -/
def hexDigit? (c : Char) : Option Nat :=
  if '0' ≤ c ∧ c ≤ '9' then some (c.toNat - '0'.toNat)
  else if 'a' ≤ c ∧ c ≤ 'f' then some (c.toNat - 'a'.toNat + 10)
  else if 'A' ≤ c ∧ c ≤ 'F' then some (c.toNat - 'A'.toNat + 10)
  else none

/-- Reads so many hexadecimal digits on top of those already read. -/
def hexDigits? (m : Mode) : Nat → Nat → List Char → Option (Nat × List Char)
  | 0, value, text => some (value, m.skip text)
  | n + 1, value, text =>
    match m.skip text with
    | c :: rest => (hexDigit? c).bind fun d => hexDigits? m n (16 * value + d) rest
    | [] => none

/-- The character with a code, if there is one. -/
def charOfCode? (n : Nat) : Option Char :=
  if n.isValidChar then some (Char.ofNat n) else none

/-- A character given by so many digits of its code. One of two digits stands for a byte where the
pattern speaks of bytes, and must then be in ASCII. -/
def code? (m : Mode) (digits : Nat) (text : List Char) : Option (Escape × List Char) :=
  (hexDigits? m digits 0 text).bind fun (n, rest) =>
    if digits = 2 ∧ !m.unicode ∧ 0x80 ≤ n then none
    else (charOfCode? n).map fun c => (.char c, rest)

/-- The general categories that have a letter. -/
def categories : List Char := "clmnpsz".toList

/-- The characters of a category, which are known for characters only. -/
def category? (m : Mode) (text : List Char) : Option (Escape × List Char) :=
  match m.skip text with
  | c :: rest =>
    if m.unicode && categories.contains c.toLower then some (.set, m.skip rest) else none
  | [] => none

/-- The letters that stand for a control character. -/
def controls : List (Char × Char) :=
  [('a', '\x07'), ('f', '\x0c'), ('t', '\t'), ('n', '\n'), ('r', '\r'), ('v', '\x0b')]

/-- A character that stands for itself behind a backslash. -/
def isPlain (c : Char) : Bool :=
  c.toNat < 0x80 && !c.isAlphanum && c ≠ '<' && c ≠ '>'

/-- Reads what a backslash begins, from behind it. The complement of a set holds characters beyond
ASCII, and the edges of words are known in ASCII only. -/
def ofText? (m : Mode) : List Char → Option (Escape × List Char)
  | [] => none
  | c :: rest =>
    if c = 'x' then code? m 2 rest
    else if c = 'u' then code? m 4 rest
    else if c = 'U' then code? m 8 rest
    else if c = 'p' ∨ c = 'P' then category? m rest
    else if ['d', 's', 'w'].contains c then some (.set, rest)
    else if ['D', 'S', 'W'].contains c then if m.unicode then some (.set, rest) else none
    else if c = 'A' ∨ c = 'z' then some (.place, rest)
    else if ['b', 'B', '<', '>'].contains c then
      if m.unicode then none else some (.place, rest)
    else if isPlain c then some (.char c, rest)
    else (controls.lookup c).map fun d => (.char d, rest)

end Escape

end StagedTests.Pattern
