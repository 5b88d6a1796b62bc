import StagedTests.ClusterProfile
import StagedTests.Image
import StagedTests.Link
import StagedTests.Phase
import StagedTests.Resource.Request

/-!
# Test definitions

A step runs commands in an image; a definition lists the steps of the three phases.
-/

namespace StagedTests

structure Step where
  name : String
  image : String
  commands : String
  resources : ResourceRequest
  artifactDir : Option String
  deriving DecidableEq

namespace Step

/-- A step that asks for no resources and leaves no artifacts. -/
def ofCommands (name image commands : String) : Step := ⟨name, image, commands, .empty, none⟩

def fields : Json.Fields Step :=
  (Json.Fields.nil Step.mk)
    |>.required "as" .string
    |>.required "from" .string
    |>.required "commands" .string
    |>.defaulted "resources" ResourceRequest.decoder .empty
    |>.optional "artifact_dir" .string

def decoder : Json.Decoder Step := fields.decoder "struct LiteralTestStep"

def toJson (s : Step) : Json :=
  Json.objectOf [("as", some (.string s.name)), ("from", some (.string s.image)),
    ("commands", some (.string s.commands)), ("resources", some s.resources.toJson),
    ("artifact_dir", s.artifactDir.map .string)]

end Step

structure Definition where
  name : String
  profile : Option ClusterProfile
  pre : List Step
  test : List Step
  post : List Step
  deriving DecidableEq

namespace Definition

def ofName (name : String) : Definition := ⟨name, none, [], [], []⟩

def steps (d : Definition) : Phase → List Step
  | .pre => d.pre
  | .test => d.test
  | .post => d.post

/-- All steps in the order of the phases. -/
def allSteps (d : Definition) : List Step :=
  d.pre ++ d.test ++ d.post

def fields : Json.Fields Definition :=
  (Json.Fields.nil Definition.mk)
    |>.required "as" .string
    |>.optional "cluster_profile" ClusterProfile.decoder
    |>.defaulted "pre" (.list Step.decoder) []
    |>.defaulted "test" (.list Step.decoder) []
    |>.defaulted "post" (.list Step.decoder) []

def decoder : Json.Decoder Definition := fields.decoder "struct MultiStageTestConfiguration"

def stepsJson (l : List Step) : Json := .array (l.map Step.toJson)

def toJson (d : Definition) : Json :=
  Json.objectOf [("as", some (.string d.name)),
    ("cluster_profile", d.profile.map ClusterProfile.toJson), ("pre", some (stepsJson d.pre)),
    ("test", some (stepsJson d.test)), ("post", some (stepsJson d.post))]

end Definition

end StagedTests
