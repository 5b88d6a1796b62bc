import StagedTests.Disk
import StagedTests.Table
import StagedTests.Text.Utf8

/-!
# What a disk shows

The files below a directory by their paths, and what is in them as text. Names that stand for paths
are followed, so that a directory may be seen from several places; what leads nowhere is seen as a
file without content.
-/

namespace StagedTests

inductive Shown
  | directory
  | file (text : String)
  deriving DecidableEq

namespace Disk

/-- What is seen below a directory, as far as so many levels. Each entry has its path from there
on. -/
def shownBelow (d : Disk) : Nat → Path → List (Path × Shown)
  | 0, _ => []
  | n + 1, p =>
    match (d.node? root p true).map d.node with
    | some (.directory _ entries) =>
      entries.flatMap fun (name, _) =>
        let q := p ++ Path.slash :: name
        match (d.node? root q true).map d.node with
        | some (.directory _ _) =>
          (name, .directory) :: (shownBelow d n q).map fun (rest, s) =>
            (name ++ Path.slash :: rest, s)
        | some (.file bytes) => [(name, .file (Text.decodeLossy bytes))]
        | _ => [(name, .file "")]
    | _ => []

/-- The files that are shown, by their paths from home on. -/
def shown (d : Disk) : Table Shown :=
  Table.ofList ((d.shownBelow Path.longest home).map fun (p, s) => (Text.decodeLossy p, s))

end Disk

end StagedTests
