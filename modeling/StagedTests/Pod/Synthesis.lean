import StagedTests.Artifact.Collector
import StagedTests.Config
import StagedTests.Definition
import StagedTests.Error
import StagedTests.Job

/-!
# Pods of steps

The pod that runs a step is made from the step, the configuration and the job alone. Its first
container runs the step's commands behind a wrapper that captures secrets; a step with artifacts
has a second container that keeps them until they are collected. Every pod mounts the secret of
results that the steps of a test share, which is named after the test, so three names of volumes
are no test names.
-/

namespace StagedTests

/-- The label that tells the test of a pod. -/
def testLabel : String := "ci.openshift.io/multi-stage-test"

/-- Where the cluster profile is mounted. -/
def profileMountPath : String := "/var/run/secrets/ci.openshift.io/cluster-profile"

/-- Where the secret of results is mounted. -/
def resultsMountPath : String := "/var/run/secrets/ci.openshift.io/multi-stage"

/-- Where the wrapper is copied to. -/
def wrapperDir : String := "/tmp/secret-wrapper"

def wrapperPath : String := wrapperDir ++ "/secret-wrapper"

/-- The annotation that carries the description of the job. -/
def jobAnnotation : String := "ci.openshift.io/job-spec"

def artifactsVolume : String := "artifacts"
def wrapperVolume : String := "secret-wrapper"
def profileVolume : String := "cluster-profile"

/-- Names that the volume of results may not have. -/
def reservedNames : List String := [artifactsVolume, wrapperVolume, profileVolume]

/-- The selector of all pods of a test. -/
def testSelector (test : String) : String := s!"{testLabel}={test}"

/-- The secret of a test's cluster profile. -/
def profileSecretName (test : String) : String := s!"{test}-cluster-profile"

/-- A cluster profile with the release images that its steps are told. -/
structure ProfileSetting where
  profile : ClusterProfile
  initial : String
  latest : String
  deriving DecidableEq

/-- A pod and the step that it runs. -/
structure StepPod where
  /-- The step, after which the first container is named. -/
  step : String
  pod : Pod
  hasArtifacts : Bool

def StepPod.name (p : StepPod) : String := p.pod.name

/-- What the pods of a test are made from. -/
structure Synthesizer where
  test : String
  config : Config
  job : Job
  profile : Option ProfileSetting

namespace Synthesizer

variable (s : Synthesizer)

def podName (step : Step) : String := s!"{s.test}-{step.name}"

/-- Waits until the artifacts were collected. -/
def keeperScript : String :=
  "#!/bin/sh\nset -eu\ntrap 'kill $(jobs -p); exit 0' TERM\n\n" ++
    "echo \"Waiting for artifacts to be collected\"\n" ++
    s!"while [ ! -f {artifactsDoneFile} ]; do\n\tsleep 5 & wait\ndone\n" ++
    "echo \"Artifacts collected, exiting\"\n"

def messagePolicy : Option String := some "FallbackToLogsOnError"

def wrapperMount : VolumeMount := ⟨wrapperVolume, wrapperDir⟩

/-- The container that keeps the artifacts. -/
def keeper : Container where
  name := artifactsContainer
  image := some s.config.artifactsImage
  command := ["/bin/sh", "-c", keeperScript]
  resources := some
    ⟨none, some (Table.ofList [("cpu", ⟨"10m"⟩), ("memory", ⟨"10Mi"⟩)])⟩
  mounts := [⟨artifactsVolume, artifactsMountPath⟩]
  terminationMessagePolicy := messagePolicy

/-- The container that copies the wrapper before all others start. -/
def wrapperCopier : Container where
  name := "cp-secret-wrapper"
  image := some s.config.secretWrapperImage
  command := ["cp"]
  args := ["/bin/secret-wrapper", wrapperPath]
  mounts := [wrapperMount]
  terminationMessagePolicy := messagePolicy

/-- What an optional part of a pod contributes. -/
def ifSome {α β : Type} (x : Option α) (f : α → List β) : List β :=
  match x with
  | some a => f a
  | none => []

def volumes (step : Step) : List Volume :=
  ifSome step.artifactDir (fun _ => [⟨artifactsVolume, .emptyDir⟩]) ++
    [⟨wrapperVolume, .emptyDir⟩] ++
    ifSome s.profile (fun _ => [⟨profileVolume, .secret (profileSecretName s.test)⟩]) ++
    [⟨s.test, .secret s.test⟩]

def mounts (step : Step) : List VolumeMount :=
  ifSome step.artifactDir (fun dir => [⟨artifactsVolume, dir⟩]) ++
    [wrapperMount] ++
    ifSome s.profile (fun _ => [⟨profileVolume, profileMountPath⟩]) ++
    [⟨s.test, resultsMountPath⟩]

/-- The name of the test with dashes in place of underscores. -/
def safeName : String :=
  String.ofList (s.test.toList.map fun c => if c = '_' then '-' else c)

def env (step : Step) : List EnvVar :=
  ifSome step.artifactDir (fun dir => [⟨"ARTIFACT_DIR", dir⟩]) ++
    [⟨"NAMESPACE", s.job.inNamespace⟩, ⟨"JOB_NAME_SAFE", s.safeName⟩,
      ⟨"JOB_NAME_HASH", s.job.nameHash⟩] ++
    ifSome s.profile (fun p => [⟨"CLUSTER_TYPE", p.profile.clusterType⟩,
      ⟨"KUBECONFIG", resultsMountPath ++ "/kubeconfig"⟩, ⟨"RELEASE_IMAGE_INITIAL", p.initial⟩,
      ⟨"RELEASE_IMAGE_LATEST", p.latest⟩])

/-- The commands of a step as they are run. -/
def script (step : Step) : List String :=
  ["/bin/bash", "-c", s!"#!/bin/bash\nset -eu\n{step.commands}"]

def stepContainer (step : Step) (image : String) (resources : Requirements) : Container where
  name := step.name
  image := some image
  command := [wrapperPath]
  args := script step
  env := s.env step
  resources := some resources
  mounts := s.mounts step
  terminationMessagePolicy := messagePolicy

def labels : Table String := s.job.labels.insert testLabel s.test

def metadata (step : Step) : Metadata where
  name := some (s.podName step)
  inNamespace := some s.job.inNamespace
  labels := some s.labels
  -- A job that could not be written would go without the annotation, and nobody would be told. No
  -- job is such, see `Job.line`.
  annotations := some ((∅ : Table String).insert jobAnnotation s.job.line)
  owners := s.job.owner.map fun o => [o]

def podOf (step : Step) (image : String) (resources : Requirements) : Pod where
  metadata := s.metadata step
  spec := some
    { restartPolicy := some "Never"
      initContainers := [s.wrapperCopier]
      containers := s.stepContainer step image resources ::
        ifSome step.artifactDir (fun _ => [s.keeper])
      volumes := s.volumes step }

def fail {α : Type} (step : Step) (fault : SynthesisFault) : Except SynthesisError α :=
  .error ⟨step.name, s.podName step, fault⟩

/-- The image that a step runs in. -/
def imageOf (step : Step) : String :=
  (s.config.images.classify step.image).reference s.config.imageStream

/-- The pod of a step, or the first reason why there is none. -/
def generatePod (step : Step) : Except SynthesisError StepPod :=
  if reservedNames.contains s.test then s.fail step (.reservedName s.test)
  else if Text.trim step.image = "" then
    s.fail step (.image s!"step {Text.quoted step.name} does not name an image")
  else
    match s.config.presets.requirements step.resources with
    | .error e => s.fail step (.resources e)
    | .ok resources =>
      .ok ⟨step.name, s.podOf step (s.imageOf step) resources, step.artifactDir.isSome⟩

/-- The pods that could be made, and the errors of all other steps. -/
def attempt : List Step → List StepPod × List SynthesisError
  | [] => ([], [])
  | step :: rest =>
    let (pods, errors) := attempt rest
    match s.generatePod step with
    | .ok pod => (pod :: pods, errors)
    | .error e => (pods, e :: errors)

/-- The pods of all steps, or the errors of all steps for which there is none. -/
def generatePods (steps : List Step) : Except (List SynthesisError) (List StepPod) :=
  match s.attempt steps with
  | (pods, []) => .ok pods
  | (_, errors) => .error errors

end Synthesizer

end StagedTests
