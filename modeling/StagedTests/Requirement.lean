import StagedTests.Config
import StagedTests.Definition

/-!
# Requirements of a test

The links that must be met before a test can run: one for each tag of the pipeline's stream that
its steps use, one if any step uses a built image, one if any uses an image of the release, and
those of the parameters that a cluster profile asks for. A step that names no image asks for none.
-/

namespace StagedTests

/-- The release that the cluster is installed from. -/
def initialReleaseParameter : String := "RELEASE_IMAGE_INITIAL"

/-- The release under test. -/
def latestReleaseParameter : String := "RELEASE_IMAGE_LATEST"

namespace Definition

variable (d : Definition) (c : Config)

def imageSources : List ImageSource :=
  (d.allSteps.filter fun s => s.image ≠ "").map fun s => c.images.classify s.image

/-- The tags of the pipeline's stream that the steps use. -/
def pipelineTags : TextSet :=
  TextSet.ofList ((d.imageSources c).filterMap fun
    | .pipeline tag => some tag
    | _ => none)

def usesBuilt : Bool :=
  (d.imageSources c).any fun
    | .build _ => true
    | _ => false

def usesRelease : Bool :=
  (d.imageSources c).any fun
    | .release _ => true
    | _ => false

def imageLinks : List StepLink :=
  (d.pipelineTags c).toList.map (.internalImage c.imageStream) ++
    (if d.usesBuilt c then [.imagesReady] else []) ++
    (if d.usesRelease c then [.releaseImages] else [])

/-- The links that must be met, given those of each parameter. -/
def requires (links : String → List StepLink) : List StepLink :=
  d.imageLinks c ++
    (if d.profile.isSome then links initialReleaseParameter ++ links latestReleaseParameter else [])

end Definition

end StagedTests
