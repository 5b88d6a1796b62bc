import StagedTests.Run.Pod

/-!
# Running a phase

All pods of a phase are made before the first one is run. They are run one after the other, up to
the first failure or to the end, as the phase's policy says. Where the token is cancelled while the
phase is open, the pods of the test are deleted by their label.
-/

namespace StagedTests

/-- What came of a phase: its errors, none if it passed, and its test cases. -/
structure PhaseReport where
  errors : List TestError
  cases : List TestCase

namespace Runner

variable {σ : Type} (r : Runner) (env : Surroundings σ)

/-- What is put before the names of a pod's test cases. -/
def caseText (description : String) (p : StepPod) : String := s!"{description} - {p.name} "

def runAll (policy : Policy) (description : String) :
    List StepPod → Task σ (List ExecutionError × List TestCase)
  | [] => return ([], [])
  | p :: rest => do
    let (result, cases) ← r.attempt env (caseText description p) p
    match result with
    | .ok _ =>
      let (errors, more) ← runAll policy description rest
      return (errors, cases ++ more)
    | .error e =>
      if policy = .shortCircuit then return ([e], cases)
      else
        let (errors, more) ← runAll policy description rest
        return (e :: errors, cases ++ more)

/-- Runs the pods of a phase within a scope that deletes them if the token is cancelled. -/
def runPods (policy : Policy) (description : String) (pods : List StepPod) :
    Task σ (List ExecutionError × List TestCase) := do
  if r.dry then r.runAll env policy description pods
  else
    let reaction := .deletePods (testSelector r.test)
    Task.openScope reaction
    let result ← r.runAll env policy description pods
    Task.closeScope env reaction
    return result

/-- Runs a phase. Every error is marked with it. -/
def runPhase (s : Synthesizer) (description : String) (phase : Phase) (steps : List Step) :
    Task σ PhaseReport := do
  match s.generatePods steps with
  | .error errors => return ⟨errors.map fun e => .inPhase r.test phase (.synthesis e), []⟩
  | .ok [] => return ⟨[], []⟩
  | .ok pods =>
    let (errors, cases) ← r.runPods env (Policy.ofPhase phase) description pods
    return ⟨errors.map fun e => .inPhase r.test phase (.execution e), cases⟩

end Runner

end StagedTests
