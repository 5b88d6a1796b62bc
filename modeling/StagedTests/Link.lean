import StagedTests.Json.Decode

/-!
# Links

Markers of what a step needs or produces, by which steps are put in order: a need is met by the
equal marker.
-/

namespace StagedTests

inductive StepLink
  | internalImage (stream tag : String)
  | imagesReady
  | releaseImages
  | releasePayloadImage (name : String)
  deriving DecidableEq

namespace StepLink

/-- Whether what another step produces is what is needed. -/
def satisfiedBy (need other : StepLink) : Bool := need = other

def describe : StepLink → String
  | .internalImage stream tag => s!"internal image {stream}:{tag}"
  | .imagesReady => "images ready"
  | .releaseImages => "release images"
  | .releasePayloadImage name => s!"release payload image {name}"

def cases : List (Json.Case StepLink) := [
  { tag := "internal_image"
    record := "struct variant StepLink::InternalImage"
    fields := (Json.Fields.nil StepLink.internalImage)
      |>.required "stream" .string
      |>.required "tag" .string },
  { tag := "images_ready", record := "", fields := .nil .imagesReady },
  { tag := "release_images", record := "", fields := .nil .releaseImages },
  { tag := "release_payload_image"
    record := "struct variant StepLink::ReleasePayloadImage"
    fields := (Json.Fields.nil StepLink.releasePayloadImage) |>.required "name" .string }]

def decoder : Json.Decoder StepLink := .tagged "StepLink" "kind" cases

def toJson : StepLink → Json
  | .internalImage stream tag =>
    .object [("kind", .string "internal_image"), ("stream", .string stream), ("tag", .string tag)]
  | .imagesReady => .object [("kind", .string "images_ready")]
  | .releaseImages => .object [("kind", .string "release_images")]
  | .releasePayloadImage name =>
    .object [("kind", .string "release_payload_image"), ("name", .string name)]

end StepLink

end StagedTests
