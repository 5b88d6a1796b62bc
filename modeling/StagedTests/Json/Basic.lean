import StagedTests.Number.Binary64
import StagedTests.Table

/-!
# JSON values

A value keeps the members of an object in the order in which they stand. Whole numbers of up to 64
bits are exact, all others are binary floating point. `Json.sorted` brings the members of every
object into the order of their names, the last one of a name winning.
-/

namespace StagedTests

inductive Number
  | whole (i : Int)
  | real (x : Binary64)
  deriving DecidableEq

inductive Json
  | null
  | bool (b : Bool)
  | number (n : Number)
  | string (s : String)
  | array (items : List Json)
  | object (members : List (String × Json))
  deriving Inhabited

namespace Json

def int (i : Int) : Json := .number (.whole i)

def nat (n : Nat) : Json := .number (.whole n)

def text? : Option String → Json
  | none => .null
  | some s => .string s

def texts (l : List String) : Json := .array (l.map .string)

/-- An object without the members that are left out. -/
def objectOf (members : List (String × Option Json)) : Json :=
  .object (members.filterMap fun m => m.2.map (m.1, ·))

def ofTable {α : Type} (f : α → Json) (t : Table α) : Json :=
  .object (t.entries.map fun e => (e.1, f e.2))

/-- A member of an object by its name, the last one of that name. -/
def get? (key : String) : Json → Option Json
  | .object members => (members.reverse.find? fun m => m.1 = key).map (·.2)
  | _ => none

mutual

/-- The value with the members of all its objects in the order of their names. -/
def sorted : Json → Json
  | .array items => .array (sortedItems items)
  | .object members => .object (Table.ofList (sortedMembers members)).entries
  | v => v

def sortedItems : List Json → List Json
  | [] => []
  | v :: rest => v.sorted :: sortedItems rest

def sortedMembers : List (String × Json) → List (String × Json)
  | [] => []
  | (k, v) :: rest => (k, v.sorted) :: sortedMembers rest

end

end Json

end StagedTests
