import StagedTests.Pattern.CharClass
import StagedTests.Text.Alphanumeric

/-!
# Patterns

A pattern for a field's value, as regular expressions are written. Patterns are only checked here:
events never reach the directives that hold them. What can be read must moreover have an automaton,
so its nesting is bounded and it asks for no edges of words made of any letters.

A comma, an equals sign or a closing brace never reaches a pattern, so no counted repetition is
complete.
-/

namespace StagedTests.Pattern

/-- What stands in a sequence: flags for the rest of the group, or a part with the depth of its
nesting. -/
inductive Item
  | flags
  | part (depth : Nat)

/-- The depth of an item. -/
def Item.depth : Item → Nat
  | .flags => 0
  | .part d => d

/-! ## The beginning of a group -/

/-- What an opening parenthesis begins: flags for the rest of the group around it, or a group with
its mode and perhaps a name. -/
inductive Opening
  | flags (mode : Mode)
  | group (mode : Mode) (name : Option (List Char))

namespace Opening

/-- A name begins with a letter or a low line. -/
def isName : List Char → Bool
  | [] => false
  | c :: cs =>
    (c = '_' || Text.isAlphabetic c) &&
      cs.all fun c => ['_', '.', '[', ']'].contains c || Text.isAlphanumeric c

/-- A group with a name, which ends at an angle bracket. -/
def named? (m : Mode) (text : List Char) : Option (Opening × List Char) :=
  let name := text.takeWhile (· ≠ '>')
  match text.dropWhile (· ≠ '>') with
  | _ :: rest => if isName name then some (.group m name, rest) else none
  | [] => none

/-- Flags, for a group behind a colon or else for the rest of the group around them. -/
def flagged? (m : Mode) (text : List Char) : Option (Opening × List Char) :=
  let inFlags := fun c : Char => c ≠ ':' && c ≠ ')'
  let items := text.takeWhile inFlags
  if Mode.areFlags items then
    match text.dropWhile inFlags with
    | ':' :: rest => some (.group (m.after items) none, rest)
    | _ :: rest => if items = [] then none else some (.flags (m.after items), rest)
    | [] => none
  else none

/-- Reads what stands behind an opening parenthesis. Looking ahead or behind is refused. -/
def ofText? (m : Mode) (text : List Char) : Option (Opening × List Char) :=
  match m.skip text with
  | '?' :: 'P' :: '<' :: rest => named? m rest
  | '?' :: '<' :: rest =>
    if rest.head? = some '=' ∨ rest.head? = some '!' then none else named? m rest
  | '?' :: rest => flagged? m rest
  | rest => some (.group m none, rest)

end Opening

/-! ## Sequences and groups -/

/-- One part of a sequence that is no group, class or repetition. -/
def single? (m : Mode) : List Char → Option (List Char)
  | [] => none
  | '\\' :: rest => (Escape.ofText? m rest).map (·.2)
  | '.' :: rest => if m.unicode then some rest else none
  | _ :: rest => some rest

/-- Drops the question mark that makes a repetition take as little as it can. -/
def dropLazy : List Char → List Char
  | '?' :: rest => rest
  | rest => rest

/-- Depths of the branches before, and of the items of the last branch, joined. -/
def joined (branches : List Nat) (items : List Item) : Nat :=
  nest (nest (items.map Item.depth) :: branches)

/-- Reads branches up to the end of the group or of the text, and gives their depth, the names of
all groups so far, and the rest of the text. A number bounds the steps. -/
def branches? : Nat → Mode → List (List Char) → List Nat → List Item → List Char →
    Option (Nat × List (List Char) × List Char)
  | 0, _, _, _, _, _ => none
  | n + 1, m, names, branches, items, text =>
    match m.skip text with
    | [] => some (joined branches items, names, [])
    | ')' :: rest => some (joined branches items, names, ')' :: rest)
    | '|' :: rest => branches? n m names (nest (items.map Item.depth) :: branches) [] rest
    | '\x7b' :: _ => none
    | '(' :: rest =>
      match Opening.ofText? m rest with
      | none => none
      | some (.flags m, rest) => branches? n m names branches (.flags :: items) rest
      | some (.group inner name, rest) =>
        if name.any names.contains then none
        else
          match branches? n inner (name.toList ++ names) [] [] rest with
          | some (d, names, ')' :: rest) =>
            branches? n m names branches (.part (d + 1) :: items) rest
          | _ => none
    | '[' :: rest =>
      (CharClass.ofText? m rest).bind fun (d, rest) =>
        branches? n m names branches (.part d :: items) rest
    | c :: rest =>
      if ['?', '*', '+'].contains c then
        match items with
        | .part d :: items => branches? n m names branches (.part (d + 1) :: items) (dropLazy rest)
        | _ => none
      else (single? m (c :: rest)).bind (branches? n m names branches (.part 0 :: items))

/-- The depth to which a pattern's parts are nested, if the text is a pattern. -/
def depth? (text : List Char) : Option Nat :=
  match branches? (text.length + 1) {} [] [] [] text with
  | some (d, _, []) => some d
  | _ => none

/-- How deep the parts of a pattern may be nested. -/
def maxDepth : Nat := 250

/-- Whether a text is a pattern that has an automaton. -/
def isPattern (text : List Char) : Bool :=
  (depth? text).any (· ≤ maxDepth)

theorem isPattern_nil : isPattern [] = true := rfl

end StagedTests.Pattern
