/-!
# Paths

A path is kept as bytes: names with slashes between them. One that begins with a slash is absolute.
One dot stands for the directory itself, two dots for the one that it is in.
-/

namespace StagedTests

/-- The name of a file, or several with slashes between them. -/
abbrev Path := List UInt8

namespace Path

def slash : UInt8 := 0x2f

def dot : Path := [0x2e]

def dots : Path := [0x2e, 0x2e]

def ofString (s : String) : Path := s.toUTF8.data.toList

def isAbsolute (p : Path) : Bool := p.head? == some slash

/-- What stands between slashes. -/
def split : Path → List Path
  | [] => [[]]
  | b :: rest =>
    if b = slash then [] :: split rest
    else
      match split rest with
      | [] => [[b]]
      | name :: names => (b :: name) :: names

theorem split_ne_nil (p : Path) : split p ≠ [] := by
  cases p with
  | nil => simp [split]
  | cons b rest =>
    simp only [split]
    split
    · simp
    · split <;> simp

def names (p : Path) : List Path := (split p).filter (· ≠ [])

def ofParts (parts : List Path) : Path := List.intercalate [slash] parts

/-- What stands behind the last name of two dots, without slashes before it. Nothing left is one dot.
Such a path leads to nothing outside. -/
def inner (p : Path) : Path :=
  let parts := ((split p).reverse.takeWhile (· ≠ dots)).reverse
  match (ofParts parts).dropWhile (· = slash) with
  | [] => dot
  | rest => rest

/-- The paths of the directories on the way to the end of a path, apart from those given by dots. -/
def ancestors (p : Path) : List Path :=
  let parts := split p
  (List.range (parts.length - 1)).filterMap fun i =>
    match parts[i]? with
    | some part =>
      if part = [] ∨ part = dot ∨ part = dots then none else some (ofParts (parts.take (i + 1)))
    | none => none

/-- Whether two dots are among the names. -/
def leadsBack (p : Path) : Bool := (names p).contains dots

/-- A path without the slashes at its end, though not without its only one. -/
def trimEnd (p : Path) : Path :=
  match (p.reverse.dropWhile (· = slash)).reverse with
  | [] => p.take 1
  | rest => rest

/-- A path from another one on. -/
def join (p q : Path) : Path :=
  if isAbsolute q then q
  else if p.getLast? = some slash then p ++ q
  else p ++ slash :: q

/-- The path that a path is directly below, unless it has no names. Names of one dot do not
count. -/
def parent? (p : Path) : Option Path :=
  match ((names p).filter (· ≠ dot)).reverse with
  | [] => none
  | _ :: rest => some (rest.reverse.foldl (fun q name => q ++ slash :: name) [])

/-- The names to go along, with one dot at the end where a slash stands there, which must be behind
a directory. -/
def steps (p : Path) : List Path :=
  names p ++ if p.getLast? = some slash then [dot] else []

def longestName : Nat := 255

def longest : Nat := 4095

end Path

end StagedTests
