import StagedTests.Pattern.Escape

/-!
# Classes of characters in a pattern

A class stands in brackets and lists characters, ranges, sets and other classes, perhaps with
operations between them. Of a class that can be read only the depth of its nesting is kept.
-/

namespace StagedTests.Pattern

/-- The depth of parts that stand side by side. Two or more are one level above the deepest. -/
def nest : List Nat → Nat
  | [] => 0
  | [d] => d
  | ds => ds.foldl max 0 + 1

@[simp] theorem nest_singleton (d : Nat) : nest [d] = d := rfl

namespace CharClass

/-- The sets with names. -/
def names : List String :=
  ["alnum", "alpha", "ascii", "blank", "cntrl", "digit", "graph", "lower", "print", "punct",
    "space", "upper", "word", "xdigit"]

/-- A set with a name between colons, perhaps its complement, and the text behind its bracket. -/
def named? : List Char → Option (Bool × List Char)
  | ':' :: text =>
    let (negated, text) := match text with
      | '^' :: rest => (true, rest)
      | _ => (false, text)
    match text.dropWhile (· ≠ ':') with
    | ':' :: ']' :: rest =>
      if names.contains (String.ofList (text.takeWhile (· ≠ ':'))) then some (negated, rest)
      else none
    | _ => none
  | _ => none

/-- One character or set. There is no character if it is a set. Bytes beyond ASCII are refused. -/
def member? (m : Mode) : List Char → Option (Option Char × List Char)
  | [] => none
  | c :: rest =>
    let read := if c = '\\' then Escape.ofText? m rest else some (.char c, rest)
    match read with
    | some (.char c, rest) => if m.unicode || c.toNat < 0x80 then some (some c, rest) else none
    | some (.set, rest) => some (none, rest)
    | _ => none

/-- The text behind a character, a set or a range, whose ends are characters in order. A minus sign
in front of the closing bracket or of another minus sign makes no range. -/
def item? (m : Mode) (text : List Char) : Option (List Char) :=
  match member? m text with
  | none => none
  | some (first, rest) =>
    match m.skip rest with
    | [] => none
    | '-' :: more =>
      if m.peek? more = some ']' ∨ m.peek? more = some '-' then some ('-' :: more)
      else
        match first, member? m (m.skip more) with
        | some a, some (some b, rest) => if a ≤ b then some rest else none
        | _, _ => none
    | rest => some rest

/-- The operands so far, joined with the one whose parts are given. -/
def operand (left : Option Nat) (parts : List Nat) : Nat :=
  match left with
  | none => nest parts
  | some d => max d (nest parts) + 1

/-- The text behind an opening bracket and a circumflex, which takes the complement. -/
def opening? (m : Mode) (text : List Char) : Option (List Char) :=
  match m.skip text with
  | '^' :: rest => if m.unicode then some rest else none
  | rest => some rest

/-- Reads a class up to its closing bracket. In front of all else minus signs stand for themselves,
and so does a closing bracket if nothing is in the class yet. A number bounds the steps. -/
def close? : Nat → Mode → Bool → Option Nat → List Nat → List Char → Option (Nat × List Char)
  | 0, _, _, _, _, _ => none
  | n + 1, m, leading, left, parts, text =>
    match m.skip text with
    | [] => none
    | ']' :: rest =>
      if leading && parts.isEmpty then close? n m false left [0] rest
      else some (operand left parts + 1, rest)
    | '[' :: rest =>
      match named? rest with
      | some (negated, rest) =>
        if negated && !m.unicode then none else close? n m false left (0 :: parts) rest
      | none =>
        match (opening? m rest).bind (close? n m true none []) with
        | some (d, rest) => close? n m false left (d :: parts) rest
        | none => none
    | c :: rest =>
      if leading && c = '-' then close? n m true left (0 :: parts) rest
      else if ['&', '-', '~'].contains c && rest.head? = some c then
        close? n m false (some (operand left parts)) [] (rest.drop 1)
      else (item? m (c :: rest)).bind (close? n m false left (0 :: parts))

/-- The depth of a class and the text behind it, from behind its opening bracket. -/
def ofText? (m : Mode) (text : List Char) : Option (Nat × List Char) :=
  (opening? m text).bind (close? (text.length + 1) m true none [])

end CharClass

end StagedTests.Pattern
