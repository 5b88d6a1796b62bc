import StagedTests.Image
import StagedTests.Resource.Request

/-!
# Configuration

The settings that all invocations share. A setting that a document does not give has its standard
value; a section that it gives is taken as it stands, not laid over the standard one.
-/

namespace StagedTests

/-- A span of time in seconds and nanoseconds below one second. -/
structure Span where
  seconds : Nat
  nanos : Nat
  deriving DecidableEq

namespace Span

def maxMillis : Nat := Nat.pow 2 64 - 1

/-- Whole milliseconds, as far as 64 bits hold them. -/
def toMillis (s : Span) : Nat :=
  min (s.seconds * 1000 + s.nanos / 1000000) maxMillis

def ofMillis (ms : Nat) : Span := ⟨ms / 1000, ms % 1000 * 1000000⟩

end Span

structure Config where
  /-- Milliseconds between two looks at a pod. -/
  pollInterval : Nat
  secretWrapperImage : String
  artifactsImage : String
  imageStream : String
  /-- Where artifacts are collected. Nothing is collected without it. -/
  artifactDir : Option String
  images : PipelineImages
  presets : Presets
  deriving DecidableEq

namespace Config

def standard : Config where
  pollInterval := 2000
  secretWrapperImage := "registry.svc.ci.openshift.org/ci/secret-wrapper:latest"
  artifactsImage := "busybox"
  imageStream := defaultStream
  artifactDir := none
  images := .standard
  presets := .standard

def fields : Json.Fields Config :=
  (Json.Fields.nil Config.mk)
    |>.defaulted "poll_interval_ms" .unsigned64 standard.pollInterval
    |>.defaulted "secret_wrapper_image" .string standard.secretWrapperImage
    |>.defaulted "artifacts_image" .string standard.artifactsImage
    |>.defaulted "pipeline_image_stream" .string standard.imageStream
    |>.optional "artifact_dir" .path
    |>.defaulted "images" PipelineImages.decoder standard.images
    |>.defaulted "resource_presets" Presets.decoder standard.presets

def decoder : Json.Decoder Config := fields.decoder "struct ExecutorConfig"

def ofText (text : String) : Except Json.Problem Config :=
  Json.decodeText decoder text

def toJson (c : Config) : Json :=
  .object [("poll_interval_ms", .nat c.pollInterval),
    ("secret_wrapper_image", .string c.secretWrapperImage),
    ("artifacts_image", .string c.artifactsImage),
    ("pipeline_image_stream", .string c.imageStream),
    ("artifact_dir", Json.text? c.artifactDir),
    ("images", c.images.toJson),
    ("resource_presets", c.presets.toJson)]

def interval (c : Config) : Span := .ofMillis c.pollInterval

/-- Rounds the time between two looks down to whole milliseconds. -/
def withInterval (c : Config) (s : Span) : Config :=
  { c with pollInterval := s.toMillis }

end Config

end StagedTests
