import StagedTests.Cluster.Client
import StagedTests.Phase

/-!
# Errors

What can keep a staged test from passing, by its cause, and the wording of each cause. Errors of
several steps are gathered in a list, which may itself be a member of another; `flatten` puts the
members of inner lists in their places. An error is marked with the phase in which it arose.
-/

namespace StagedTests

/-- Why no pod can be made for a step. -/
inductive SynthesisFault
  | resources (e : ResourceError)
  | image (reason : String)
  | reservedName (test : String)
  deriving DecidableEq

structure SynthesisError where
  step : String
  pod : String
  fault : SynthesisFault
  deriving DecidableEq

/-- Why the pod of a step did not succeed. -/
inductive ExecutionFault
  | create (e : ClientError)
  | wait (e : ClientError)
  | failed (description : String)
  | deleted
  | cancelled (reason : String)
  deriving DecidableEq

structure ExecutionError where
  test : String
  step : String
  pod : String
  fault : ExecutionFault
  deriving DecidableEq

/-- Why an invocation cannot start. -/
inductive ConfigurationError
  | missingProfileSecret (name : String) (source : ClientError)
  | unresolvedParameter (name reason : String)
  deriving DecidableEq

/-- Why the pods of a cancelled test could not be deleted. -/
structure CleanupError where
  selector : String
  source : ClientError
  deriving DecidableEq

inductive TestError
  | configuration (e : ConfigurationError)
  | synthesis (e : SynthesisError)
  | execution (e : ExecutionError)
  | resultsSecret (name : String) (source : ClientError)
  | inPhase (test : String) (phase : Phase) (source : TestError)
  | aggregate (members : List TestError)

def SynthesisFault.message : SynthesisFault → String
  | .resources e => e.message
  | .image reason => s!"could not resolve image: {reason}"
  | .reservedName test => s!"test name {Text.quoted test} is reserved for a pod volume"

def SynthesisFault.kind : SynthesisFault → String
  | .resources e => e.kind
  | .image _ => "Image"
  | .reservedName _ => "ReservedName"

def SynthesisError.message (e : SynthesisError) : String :=
  s!"step {Text.quoted e.step} (pod {Text.quoted e.pod}): {e.fault.message}"

namespace ExecutionFault

def message : ExecutionFault → String
  | .create e => s!"failed to create or restart pod: {e.message}"
  | .wait e => s!"failed to observe pod: {e.message}"
  | .failed description => description
  | .deleted => "pod was deleted while waiting for it to complete"
  | .cancelled reason => s!"cancelled: {reason}"

def kind : ExecutionFault → String
  | .create _ => "Create"
  | .wait _ => "Wait"
  | .failed _ => "Failed"
  | .deleted => "Deleted"
  | .cancelled _ => "Cancelled"

end ExecutionFault

namespace ExecutionError

def message (e : ExecutionError) : String :=
  s!"{Text.quoted e.test} pod {Text.quoted e.pod} (step {Text.quoted e.step}) failed: {e.fault.message}"

def isCancelled (e : ExecutionError) : Bool :=
  match e.fault with
  | .cancelled _ => true
  | _ => false

end ExecutionError

def ConfigurationError.message : ConfigurationError → String
  | .missingProfileSecret name source =>
    s!"could not find secret {Text.quoted name}: {source.message}"
  | .unresolvedParameter name reason => s!"could not resolve parameter {name}: {reason}"

def CleanupError.message (e : CleanupError) : String :=
  s!"failed to delete pods with label {e.selector}: {e.source.message}"

namespace TestError

/-- The phase that an error is marked with. -/
def phase? : TestError → Option Phase
  | .inPhase _ phase _ => some phase
  | _ => none

/-- The error behind all marks. -/
def root : TestError → TestError
  | .inPhase _ _ source => source.root
  | e => e

def kind : TestError → String
  | .configuration (.missingProfileSecret _ _) => "MissingProfileSecret"
  | .configuration (.unresolvedParameter _ _) => "UnresolvedParameter"
  | .synthesis e => e.fault.kind
  | .execution e => e.fault.kind
  | .resultsSecret _ _ => "ResultsSecret"
  | .inPhase _ _ _ => "InPhase"
  | .aggregate _ => "Aggregate"

/-- Several messages as one: none as nothing, one as it stands, more of them in brackets. -/
def joinMessages : List String → String
  | [] => ""
  | [only] => only
  | many => "[" ++ ", ".intercalate many ++ "]"

mutual

def message : TestError → String
  | .configuration e => e.message
  | .synthesis e => e.message
  | .execution e => e.message
  | .resultsSecret name source => s!"failed to create secret {Text.quoted name}: {source.message}"
  | .inPhase test phase source =>
    s!"{Text.quoted test} {phase.name} steps failed: {source.message}"
  | .aggregate members => joinMessages (messages members)

def messages : List TestError → List String
  | [] => []
  | e :: rest => e.message :: messages rest

end

mutual

/-- An error as a member of a flat list: an inner list gives its members. -/
def spread : TestError → List TestError
  | .aggregate members => flatten members
  | e => [e]

/-- The members of a list with the members of inner lists in their places. -/
def flatten : List TestError → List TestError
  | [] => []
  | e :: rest => e.spread ++ flatten rest

end

/-- Success where no error was gathered, otherwise all of them in one flat list. -/
def resultOf (errors : List TestError) : Except (List TestError) Unit :=
  if errors.isEmpty then .ok () else .error (flatten errors)

end TestError

end StagedTests
