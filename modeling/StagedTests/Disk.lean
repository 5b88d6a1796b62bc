import StagedTests.Disk.Path

/-!
# Disks

A disk is a tree of directories with files in them. Each is a node with a number, and a directory
names the nodes that it holds; a file may have several names. A name may also stand for a path, and
is then followed wherever more than the name itself is asked for. A new node gets the least number
that is not in use.
-/

namespace StagedTests

inductive Node
  /-- A directory, with the one that it is in. -/
  | directory (parent : Nat) (entries : List (Path × Nat))
  | file (bytes : List UInt8)
  /-- A name that stands for a path. -/
  | link (target : Path)
  /-- A device or the like. -/
  | special
  /-- Nothing, until the number is given again. -/
  | unused

/-- Why something cannot be done. -/
inductive DiskFault
  | missing
  | exists
  | notDirectory
  | isDirectory
  | notEmpty
  | tooLong
  | tooManyLinks
  | refused
  deriving DecidableEq

/-- The nodes by their numbers. -/
structure Disk where
  nodes : Array Node

namespace Disk

/-- The directory that all absolute paths begin at. -/
def root : Nat := 0

/-- Where the files are that are shown. -/
def home : Path := Path.ofString "/tmp/.artifacts"

def node (d : Disk) (i : Nat) : Node := d.nodes.getD i .unused

def isDirectory (d : Disk) (i : Nat) : Bool :=
  match d.node i with
  | .directory _ _ => true
  | _ => false

def entry? (d : Disk) (directory : Nat) (name : Path) : Option Nat :=
  match d.node directory with
  | .directory _ entries => entries.lookup name
  | _ => none

/-! ## Finding nodes -/

/-- How many names that stand for paths are followed. -/
def maxLinks : Nat := 40

/-- Goes along names from a node on. The last name is followed only if that is asked for. A number
bounds the steps. -/
def walk (d : Disk) : Nat → Nat → Nat → List Path → Bool → Except DiskFault Nat
  | 0, _, _, _, _ => .error .tooManyLinks
  | _, _, i, [], _ => .ok i
  | n + 1, links, i, name :: rest, follow =>
    match d.node i with
    | .directory parent entries =>
      if name = Path.dot then walk d n links i rest follow
      else if name = Path.dots then walk d n links parent rest follow
      else if Path.longestName < name.length then .error .tooLong
      else
        match entries.lookup name with
        | none => .error .missing
        | some j =>
          match d.node j with
          | .link target =>
            if rest = [] ∧ !follow then .ok j
            else if links = 0 then .error .tooManyLinks
            else
              let start := if Path.isAbsolute target then root else i
              walk d n (links - 1) start (Path.steps target ++ rest) follow
          | _ => walk d n links j rest follow
    | _ => .error .notDirectory

/-- The steps that suffice where all links are followed. -/
def enoughSteps : Nat := (maxLinks + 1) * (Path.longest + 2)

/-- The node at the end of names that are gone along from a directory, or from the root if the path
they belong to is absolute. -/
def along (d : Disk) (base : Nat) (p : Path) (names : List Path) (follow : Bool) :
    Except DiskFault Nat :=
  if p = [] then .error .missing
  else if p.contains 0 then .error .refused
  else if Path.longest < p.length then .error .tooLong
  else d.walk enoughSteps maxLinks (if Path.isAbsolute p then root else base) names follow

/-- The node that a path leads to from a directory. -/
def find (d : Disk) (base : Nat) (p : Path) (follow : Bool) : Except DiskFault Nat :=
  d.along base p (Path.steps p) follow

/-- The node that a path leads to, if there is one. -/
def node? (d : Disk) (base : Nat) (p : Path) (follow : Bool) : Option Nat :=
  (d.find base p follow).toOption

/-- Whether a path leads to a directory. -/
def leadsToDirectory (d : Disk) (base : Nat) (p : Path) : Bool :=
  (d.node? base p true).any d.isDirectory

/-- The directory in which a path ends, and its last name. -/
def place (d : Disk) (base : Nat) (p : Path) : Except DiskFault (Nat × Path) := do
  let steps := Path.names p
  let directory ← d.along base p (steps.dropLast ++ [Path.dot]) true
  let name := steps.getLast?.getD Path.dot
  if Path.longestName < name.length then .error .tooLong
  else .ok (directory, name)

/-! ## Changing nodes -/

def set (d : Disk) (i : Nat) (n : Node) : Disk := ⟨d.nodes.setIfInBounds i n⟩

def editEntries (d : Disk) (directory : Nat) (f : List (Path × Nat) → List (Path × Nat)) : Disk :=
  match d.node directory with
  | .directory parent entries => d.set directory (.directory parent (f entries))
  | _ => d

def isHeld (d : Disk) (i : Nat) : Bool :=
  d.nodes.any fun
    | .directory _ entries => entries.any (·.2 = i)
    | _ => false

/-- Takes a name from a node, which goes with its last name. -/
def leave (d : Disk) (directory : Nat) (name : Path) (i : Nat) : Disk :=
  let d := d.editEntries directory (·.filter (·.1 ≠ name))
  if d.isHeld i then d else d.set i .unused

def add (d : Disk) (n : Node) : Disk × Nat :=
  match d.nodes.findIdx? fun | .unused => true | _ => false with
  | some i => (d.set i n, i)
  | none => (⟨d.nodes.push n⟩, d.nodes.size)

def enter (d : Disk) (directory : Nat) (name : Path) (i : Nat) : Disk :=
  d.editEntries directory fun entries => entries ++ [(name, i)]

/-- Where a new name can be given. -/
def freePlace (d : Disk) (base : Nat) (p : Path) : Except DiskFault (Nat × Path) := do
  let (directory, name) ← d.place base p
  if name = Path.dot ∨ name = Path.dots ∨ (d.entry? directory name).isSome then .error .exists
  else .ok (directory, name)

/-- Makes a new node, given the directory that it comes into. -/
def make (d : Disk) (base : Nat) (p : Path) (n : Nat → Node) : Except DiskFault Disk := do
  let (directory, name) ← d.freePlace base p
  let (d, i) := d.add (n directory)
  .ok (d.enter directory name i)

def makeDirectory (d : Disk) (base : Nat) (p : Path) : Except DiskFault Disk :=
  d.make base p fun parent => .directory parent []

def makeFile (d : Disk) (base : Nat) (p : Path) (bytes : List UInt8) : Except DiskFault Disk :=
  d.make base p fun _ => .file bytes

/-- Makes a name that stands for a path. -/
def makeLink (d : Disk) (base : Nat) (p target : Path) : Except DiskFault Disk :=
  if target = [] then .error .missing
  else if Path.longest < target.length then .error .tooLong
  else d.make base p fun _ => .link target

/-- Gives another name to what a path leads to, unless it is a directory. -/
def makeName (d : Disk) (base : Nat) (p target : Path) : Except DiskFault Disk := do
  let i ← d.find base target false
  let (directory, name) ← d.freePlace base p
  if d.isDirectory i then .error .refused else .ok (d.enter directory name i)

/-- Takes a name from what is no directory. -/
def removeFile (d : Disk) (base : Nat) (p : Path) : Except DiskFault Disk := do
  let (directory, name) ← d.place base p
  if name = Path.dot ∨ name = Path.dots then .error .isDirectory
  else
    match d.entry? directory name with
    | none => .error .missing
    | some i =>
      if d.isDirectory i then .error .isDirectory
      else .ok (d.leave directory name i)

def removeDirectory (d : Disk) (base : Nat) (p : Path) : Except DiskFault Disk := do
  let (directory, name) ← d.place base p
  if name = Path.dot ∨ name = Path.dots then .error .refused
  else
    match (d.entry? directory name).map fun i => (i, d.node i) with
    | none => .error .missing
    | some (i, .directory _ []) => .ok (d.leave directory name i)
    | some (_, .directory _ _) => .error .notEmpty
    | some _ => .error .notDirectory

/-- Makes a directory with all those on the way to it; whether it is there then. -/
def makeDirectories (d : Disk) : Nat → Path → Disk × Bool
  | 0, _ => (d, false)
  | n + 1, p =>
    match d.makeDirectory root p with
    | .ok d => (d, true)
    | .error .missing =>
      match Path.parent? p with
      | none => (d, false)
      | some parent =>
        match makeDirectories d n parent with
        | (d, false) => (d, false)
        | (d, true) =>
          match d.makeDirectory root p with
          | .ok d => (d, true)
          | .error _ => (d, d.leadsToDirectory root p)
    | .error _ => (d, d.leadsToDirectory root p)

/-- Writes a file, a new one where there is none; whether that could be done. Names that stand for
paths are followed, so many of them. -/
def write (d : Disk) (base : Nat) (p : Path) (bytes : List UInt8) : Nat → Disk × Bool
  | 0 => (d, false)
  | links + 1 =>
    match d.place base p with
    | .error _ => (d, false)
    | .ok (directory, name) =>
      match (d.entry? directory name).map fun i => (i, d.node i) with
      | none =>
        match d.makeFile directory name bytes with
        | .ok d => (d, true)
        | .error _ => (d, false)
      | some (i, .file _) => (d.set i (.file bytes), true)
      | some (_, .link target) => write d directory target bytes links
      | some (_, .special) | some (_, .unused) => (d, true)
      | some (_, .directory _ _) => (d, false)

def empty : Disk :=
  let bare : Disk := ⟨#[.directory root []]⟩
  (bare.makeDirectories Path.longest home).1

instance : Inhabited Disk := ⟨empty⟩

end Disk

end StagedTests
