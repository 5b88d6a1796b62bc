import StagedTests.Archive.Extraction
import StagedTests.Archive.Gzip
import StagedTests.Archive.Packing
import StagedTests.Cancellation.Token
import StagedTests.Cluster.Client

/-!
# Artifact collectors

A step that leaves artifacts runs beside a second container which keeps them until they are
collected. A collector waits for the step to terminate, fetches an archive of the artifacts, and
lets the second container go. It collects once, and not at all once it was cancelled.
-/

namespace StagedTests

/-- The container that keeps the artifacts. -/
def artifactsContainer : String := "artifacts"

/-- Where that container has them. -/
def artifactsMountPath : String := "/tmp/artifacts"

/-- The container exits once this file is there. -/
def artifactsDoneFile : String := "/tmp/done"

/-- The local file that an archive is kept in until it is unpacked. -/
def archiveName : Path := Path.ofString "artifacts.tar.gz"

/-- Packs the artifacts. -/
def packCommand : List String := ["tar", "czf", "-", "-C", artifactsMountPath, "."]

/-- Lets the container go. -/
def releaseCommand : List String := ["touch", artifactsDoneFile]

namespace CommandOutput

/-- What is in the archive that a command has printed. -/
def contents : CommandOutput → Tar.Contents
  | .archive files => ⟨(Disk.ofFiles files.entries).members, true⟩
  | .bytes l =>
    let unpacked := Gzip.unpack l
    let contents := Tar.read unpacked.bytes
    ⟨contents.members, contents.isIntact && unpacked.isIntact⟩

/-- The bytes that a command has printed. Those of an archive of given files are not looked at. -/
def printed : CommandOutput → List UInt8
  | .archive _ => []
  | .bytes l => l

end CommandOutput

structure Collector where
  pod : String
  /-- The container whose termination starts the collection. -/
  container : String
  /-- Where the artifacts go. Without it they are not fetched. -/
  directory : Option Path
  collected : Bool
  cancelled : Bool
  /-- Cancelled to abandon a collection that is going on. -/
  stop : Token
  deriving DecidableEq

namespace Collector

def fresh (pod container : String) (directory : Option Path) : Collector :=
  ⟨pod, container, directory, false, false, .fresh⟩

def cancel (c : Collector) : Collector :=
  { c with cancelled := true, stop := c.stop.cancel "artifact collection cancelled" }

end Collector

end StagedTests
