import StagedTests.Text.Blank

/-!
# Modes of a pattern

Flags in a pattern change how the rest of its group is read. Two of them decide what is a pattern:
with one, white space and comments are passed over; without the other, the pattern speaks of bytes
instead of characters and may match none of those beyond ASCII.
-/

namespace StagedTests.Pattern

/-- How the text of a pattern is read. -/
structure Mode where
  /-- White space and comments are passed over. -/
  spaced : Bool := false
  /-- The pattern speaks of characters and not of bytes. -/
  unicode : Bool := true
  deriving DecidableEq

/-- Drops white space and comments. A comment begins with a number sign and takes its line. -/
def dropComments : List Char → Bool → List Char
  | [], _ => []
  | c :: cs, true => dropComments cs (c ≠ '\n')
  | c :: cs, false =>
    if Text.isBlank c then dropComments cs false
    else if c = '#' then dropComments cs true
    else c :: cs

namespace Mode

/-- The text from the next character on that counts. -/
def skip (m : Mode) (text : List Char) : List Char :=
  if m.spaced then dropComments text false else text

/-- The next character that counts, where at most one number sign is passed over and a comment
behind it is not. -/
def peek? (m : Mode) (text : List Char) : Option Char :=
  if m.spaced then
    match text.dropWhile Text.isBlank with
    | '#' :: rest => (rest.dropWhile Text.isBlank).head?
    | rest => rest.head?
  else text.head?

/-! ## Flags -/

/-- The flags there are. -/
def flags : List Char := "imsURux".toList

/-- Whether the characters between a question mark and the end of the flags can be read: each is
there once, and the minus sign has a flag behind it. -/
def areFlags (items : List Char) : Bool :=
  items.all (fun c => c = '-' || flags.contains c) && decide items.Nodup &&
    items.getLast? ≠ some '-'

/-- A flag is set in front of the minus sign, cleared behind it, and else as it was. -/
def flagAfter (items : List Char) (flag : Char) (before : Bool) : Bool :=
  (items.takeWhile (· ≠ '-')).contains flag || (before && !items.contains flag)

/-- The mode behind some flags. -/
def after (items : List Char) (m : Mode) : Mode where
  spaced := flagAfter items 'x' m.spaced
  unicode := flagAfter items 'u' m.unicode

@[simp] theorem after_nil (m : Mode) : after [] m = m := by
  simp [after, flagAfter]

end Mode

end StagedTests.Pattern
