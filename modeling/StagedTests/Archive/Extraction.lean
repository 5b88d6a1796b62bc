import StagedTests.Archive.Tar
import StagedTests.Disk

/-!
# Unpacking archives

Members are put below a directory one after the other, each in place of what has its name, with the
directories on the way to it. A name that stands for an absolute path, or for one that leads back, is
given only at the end, so that no later member can go that way; until then an empty file keeps its
place.
-/

namespace StagedTests

/-- A name that is given at the end, and the file that keeps its place. -/
structure Deferred where
  placeholder : Nat
  name : Path
  target : Path
  /-- Whether the name stands for a path, not for a file. -/
  isSymbolic : Bool
  deriving DecidableEq

/-- A disk while an archive is unpacked below one of its directories. -/
structure Extraction where
  disk : Disk
  base : Nat
  deferred : List Deferred

namespace Extraction

variable (x : Extraction)

/-- What has a name, which is not followed. -/
def named? (name : Path) : Option Nat := x.disk.node? x.base name false

def isPlaceholder (i : Nat) : Bool := x.deferred.any (·.placeholder = i)

/-- Takes away what has a name, unless that is a directory that is not empty. -/
def remove? (name : Path) : Option Disk :=
  match x.disk.removeFile x.base name with
  | .ok d => some d
  | .error .isDirectory => (x.disk.removeDirectory x.base name).toOption
  | .error _ => none

/-- Makes the directories on the way to a name, as far as that can be done; whether any had to be
made. -/
def makeAncestors (d : Disk) : List Path → Disk × Bool
  | [] => (d, false)
  | p :: rest =>
    match d.makeDirectory x.base p with
    | .ok d => ((makeAncestors d rest).1, true)
    | .error .exists => makeAncestors d rest
    | .error _ => (d, false)

/-- Makes what is to have a name. What has the name is taken away, and directories that are missing
are made, before it is tried once more. It need not be made where an answer says so. -/
def attempt (name : Path) (make : Disk → Except DiskFault Disk)
    (isThere : Disk → DiskFault → Bool) : Disk × Bool :=
  match make x.disk with
  | .ok d => (d, true)
  | .error fault =>
    if isThere x.disk fault then (x.disk, true)
    else
      match fault with
      | .exists =>
        match x.remove? name with
        | some d => again d
        | none => (x.disk, false)
      | .missing =>
        match x.makeAncestors x.disk (Path.ancestors name) with
        | (d, true) => again d
        | (d, false) => (d, false)
      | _ => (x.disk, false)
where
  again (d : Disk) : Disk × Bool :=
    match make d with
    | .ok d => (d, true)
    | .error fault => (d, isThere d fault)

/-- Makes what is to have a name unless it is there. -/
def put (name : Path) (make : Disk → Except DiskFault Disk) (isThere : Disk → DiskFault → Bool) :
    Extraction × Bool :=
  let (d, done) := x.attempt name make isThere
  ({ x with disk := d }, done)

/-- A directory is not made where there is one. -/
def isDirectoryThere (name : Path) (d : Disk) (fault : DiskFault) : Bool :=
  fault = .exists && (d.node? x.base name false).any d.isDirectory

/-- A file is not named twice. -/
def isSameThere (name target : Path) (d : Disk) (fault : DiskFault) : Bool :=
  fault = .exists && name = target
    || match d.node? x.base target false, d.node? x.base name false with
      | some i, some j => i = j
      | _, _ => false

/-- Nothing is there that need not be made. -/
def neverThere (_ : Disk) (_ : DiskFault) : Bool := false

/-- Keeps a place for a name, unless one is kept for it. -/
def defer (name target : Path) (isSymbolic : Bool) : Extraction × Bool :=
  if (x.named? name).any x.isPlaceholder then (x, true)
  else
    let (d, done) := x.attempt name (·.makeFile x.base name []) neverThere
    match done, d.node? x.base name false with
    | true, some i => (⟨d, x.base, x.deferred ++ [⟨i, name, target, isSymbolic⟩]⟩, true)
    | _, _ => ({ x with disk := d }, done)

/-- Puts a member where its name says; whether that could be done. -/
def take (m : Tar.Member) : Extraction × Bool :=
  match m.content with
  | .directory => x.put m.name (·.makeDirectory x.base m.name) (x.isDirectoryThere m.name)
  | .file bytes => x.put m.name (·.makeFile x.base m.name bytes) neverThere
  | .special => x.put m.name (·.make x.base m.name fun _ => .special) neverThere
  | .symbolic target =>
    if Path.isAbsolute target || Path.leadsBack target then x.defer m.name target true
    else x.put m.name (·.makeLink x.base m.name target) neverThere
  | .link target =>
    if (x.named? target).any x.isPlaceholder then x.defer m.name target false
    else x.put m.name (·.makeName x.base m.name target) (x.isSameThere m.name target)

/-- Gives a name that was put off, if its place was kept. -/
def settle (e : Deferred) : Extraction × Bool :=
  if x.named? e.name ≠ some e.placeholder then (x, true)
  else
    let given := do
      let d ← x.disk.removeFile x.base e.name
      if e.isSymbolic then d.makeLink x.base e.name e.target else d.makeName x.base e.name e.target
    match given with
    | .ok d => ({ x with disk := d }, true)
    | .error _ => ({ x with disk := (x.disk.removeFile x.base e.name).toOption.getD x.disk }, false)

/-- Does one thing after another; whether all could be done. -/
def each {α : Type} (f : Extraction → α → Extraction × Bool) (x : Extraction) (l : List α) :
    Extraction × Bool :=
  l.foldl (fun (x, good) a =>
    let (x, done) := f x a
    (x, good && done)) (x, true)

end Extraction

namespace Disk

/-- Unpacks an archive below a directory; whether all of it could be unpacked. -/
def unpack (d : Disk) (directory : Path) (archive : Tar.Contents) : Disk × Bool :=
  match d.find root directory true with
  | .error _ => (d, false)
  | .ok base =>
    let (x, taken) := Extraction.each Extraction.take ⟨d, base, []⟩ archive.members
    let (x, settled) := Extraction.each Extraction.settle x x.deferred
    (x.disk, archive.isIntact && taken && settled)

end Disk

end StagedTests
