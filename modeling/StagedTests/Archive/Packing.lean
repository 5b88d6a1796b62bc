import StagedTests.Archive.Tar
import StagedTests.Disk.Listing

/-!
# Packing files

Files are packed as members of an archive, each behind the directories on the way to it. They are
first put on a disk of their own, so that names which lead elsewhere pack nothing.
-/

namespace StagedTests.Disk

/-- A disk with files of given names and texts in its home, as far as they can be there. -/
def ofFiles (files : List (String × String)) : Disk :=
  files.foldl (fun d (name, text) =>
    let p := Path.join home (Path.ofString name)
    let (d, _) := d.makeDirectories p.length ((Path.parent? p).getD home)
    (d.write root p text.toUTF8.data.toList maxLinks).1) empty

/-- What is in the home of a disk, as members of an archive. -/
def members (d : Disk) : List Tar.Member :=
  (d.shownBelow Path.longest home).map fun
    | (name, .directory) => ⟨name, .directory⟩
    | (name, .file text) => ⟨name, .file text.toUTF8.data.toList⟩

end StagedTests.Disk
