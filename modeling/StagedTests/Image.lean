import StagedTests.Json.Decode

/-!
# Images

Where the image of a step comes from: a tag of the pipeline's image stream, an image built by the
pipeline, or one of the release under test. A name that is both a tag and built counts as a tag.
-/

namespace StagedTests

/-- The image stream that holds what the pipeline produces, where nothing else is said. -/
def defaultStream : String := "pipeline"

/-- The tags that every pipeline produces. -/
def wellKnownTags : List String := ["root", "src", "bin", "test-bin", "rpms"]

inductive ImageSource
  | pipeline (tag : String)
  | build (name : String)
  | release (name : String)
  deriving DecidableEq

/-- What a pod refers to the image by. -/
def ImageSource.reference (stream : String) : ImageSource → String
  | .pipeline tag => s!"{stream}:{tag}"
  | .build name => name
  | .release name => name

structure PipelineImages where
  tags : TextSet
  built : TextSet
  deriving DecidableEq

namespace PipelineImages

def standard : PipelineImages := ⟨TextSet.ofList wellKnownTags, ∅⟩

def withTag (r : PipelineImages) (tag : String) : PipelineImages :=
  { r with tags := r.tags.insert tag () }

def withBuilt (r : PipelineImages) (name : String) : PipelineImages :=
  { r with built := r.built.insert name () }

def isTag (r : PipelineImages) (name : String) : Bool := r.tags.contains name

def isBuilt (r : PipelineImages) (name : String) : Bool := r.built.contains name

/-- Where the image of a name comes from. -/
def classify (r : PipelineImages) (name : String) : ImageSource :=
  if r.isTag name then .pipeline name
  else if r.isBuilt name then .build name
  else .release name

def fields : Json.Fields PipelineImages :=
  (Json.Fields.nil PipelineImages.mk)
    |>.defaulted "pipeline" .textSet ∅
    |>.defaulted "built" .textSet ∅

def decoder : Json.Decoder PipelineImages := fields.decoder "struct PipelineImages"

def toJson (r : PipelineImages) : Json :=
  .object [("pipeline", Json.texts r.tags.toList), ("built", Json.texts r.built.toList)]

end PipelineImages

end StagedTests
