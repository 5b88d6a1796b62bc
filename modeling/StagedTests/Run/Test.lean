import StagedTests.Parameter
import StagedTests.Requirement
import StagedTests.Run.Phase

/-!
# Running a staged test

A test first makes sure that it can start: the secret of its cluster profile is there, the release
images are known, and the secret of results is new. Then it sets up, tests if that went well, and
cleans up whatever happened before.
-/

namespace StagedTests

/-- A test that can be run any number of times. The cases are those of the last run. -/
structure StagedTest where
  definition : Definition
  config : Config
  job : Job
  dry : Bool
  subtests : List TestCase := []

namespace StagedTest

variable {σ : Type} (t : StagedTest) (env : Surroundings σ) (params : Parameters σ)

def name : String := t.definition.name

def description : String := s!"Run multi-stage test {t.name}"

/-- The links that must be met before the test can run. -/
def requires (s : σ) : List StepLink :=
  t.definition.requires t.config fun name => params.links name s

/-- The links that are met once the test has run: a test makes nothing for others. -/
def creates (_ : StagedTest) : List StepLink := []

/-- The parameters that the test provides to others, and the link that they wait for. -/
def provides (_ : StagedTest) : Table String × Option StepLink := (∅, none)

/-- Whether the test may be left out: it always runs. -/
def isDone (_ : StagedTest) : Bool := false

/-- What tells the test from others of its name. -/
def inputs (_ : StagedTest) : List String := []

/-- The value of a parameter that the profile asks for. -/
def resolve (name : String) : Task σ (Except ConfigurationError String) := do
  Task.note (.asked name)
  let value ← Task.act (params.get name)
  return value.mapError fun e => .unresolvedParameter name e.message

/-- The release images, if the test has a profile and its secret is there. -/
def resolveProfile : Task σ (Except ConfigurationError (Option ProfileSetting)) := do
  match t.definition.profile with
  | none => return .ok none
  | some profile =>
    let secret := profileSecretName t.name
    match ← Task.call env (.getSecret secret) (env.secrets.get secret) with
    | .error e => return .error (.missingProfileSecret secret e)
    | .ok _ =>
      match ← resolve params initialReleaseParameter with
      | .error e => return .error e
      | .ok initial =>
        match ← resolve params latestReleaseParameter with
        | .error e => return .error e
        | .ok latest => return .ok (some ⟨profile, initial, latest⟩)

/-- The secret that the steps share their results in. -/
def resultsSecret : Secret where
  metadata :=
    { name := some t.name
      inNamespace := some t.job.inNamespace
      labels := some (t.job.labels.insert testLabel t.name) }

/-- Puts a new secret of results in place of an old one. -/
def createResultsSecret : Task σ (Except TestError Unit) := do
  if t.dry then
    Task.note (.recorded "Secret" t.name t.resultsSecret.toJson.sorted)
    return .ok ()
  match ← Task.call env (.deleteSecret t.name) (env.secrets.delete t.name) with
  | .error e => if e.isNotFound then create else return .error (.resultsSecret t.name e)
  | .ok _ => create
where
  create : Task σ (Except TestError Unit) := do
    match ← Task.call env (.createSecret t.resultsSecret) (env.secrets.create t.resultsSecret) with
    | .error e => return .error (.resultsSecret t.name e)
    | .ok _ => return .ok ()

def runner : Runner :=
  ⟨t.name, t.config.artifactDir.map Path.ofString, t.dry, t.config.pollInterval⟩

def synthesizer (profile : Option ProfileSetting) : Synthesizer :=
  ⟨t.name, t.config, t.job, profile⟩

def runPhase (profile : Option ProfileSetting) (phase : Phase) : Task σ PhaseReport :=
  t.runner.runPhase env (t.synthesizer profile) t.description phase (t.definition.steps phase)

/-- Runs the phases: the tests only if the setup passed, the cleanup always. -/
def runPhases (profile : Option ProfileSetting) : Task σ PhaseReport := do
  let pre ← t.runPhase env profile .pre
  let test ← if pre.errors.isEmpty then t.runPhase env profile .test else pure ⟨[], []⟩
  let post ← t.runPhase env profile .post
  let firstErrors := if pre.errors.isEmpty then test.errors else pre.errors
  return ⟨gather firstErrors ++ gather post.errors, pre.cases ++ test.cases ++ post.cases⟩
where
  /-- The errors of a phase as one member of a list, if there are any. -/
  gather (errors : List TestError) : List TestError :=
    if errors.isEmpty then [] else [.aggregate errors]

def prepare : Task σ (Except TestError (Option ProfileSetting)) := do
  match ← t.resolveProfile env params with
  | .error e => return .error (.configuration e)
  | .ok profile =>
    match ← t.createResultsSecret env with
    | .error e => return .error e
    | .ok _ => return .ok profile

/-- One invocation: what came of it, and the cases recorded. -/
def invoke : Task σ (Except TestError Unit × List TestCase) := do
  match ← t.prepare env params with
  | .error e => return (.error e, [])
  | .ok profile =>
    let report ← t.runPhases env profile
    return ((TestError.resultOf report.errors).mapError .aggregate, report.cases)

/-- Runs the test: what came of it, and the test with the cases of this run alone. -/
def run : Task σ (Except TestError Unit × StagedTest) := do
  let (result, cases) ← t.invoke env params
  return (result, { t with subtests := cases })

def describe : String :=
  let test := Text.quoted t.name
  let inNamespace := Text.quoted t.job.inNamespace
  let subtests := t.subtests.length
  s!"MultiStageTestStep \x7b test: {test}, namespace: {inNamespace}, dry: {t.dry}, subtests: {subtests}, .. \x7d"

end StagedTest

end StagedTests
