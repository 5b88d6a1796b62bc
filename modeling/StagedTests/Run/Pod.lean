import StagedTests.Container.Tracker
import StagedTests.Pod.Synthesis
import StagedTests.Run.Observation

/-!
# Running a pod

A pod of the same name is deleted first, and the new one is created once that is gone. Then the pod
is looked at until it has succeeded, failed or disappeared, or the token is cancelled; events of
its containers are delivered as they are seen. A cancelled pod is left to its phase.
-/

namespace StagedTests

structure Runner where
  test : String
  /-- Artifacts are collected below this directory. -/
  artifactRoot : Option Path
  /-- Pods are recorded, not created. -/
  dry : Bool
  /-- For how many milliseconds to sleep between two looks at a pod. -/
  interval : Nat

/-- The line of a container that did not end well. -/
def failedExit? (s : ContainerStatus) : Option String :=
  match s.state.bind (·.terminated) with
  | none => none
  | some t =>
    if t.exitCode = 0 then none
    else
      let reason := t.reason.getD "Error"
      let line := s!"container {Text.quoted s.name} exited with code {t.exitCode}, reason {reason}"
      let message := Text.trim (t.message.getD "")
      some (if message = "" then line else line ++ ": " ++ message)

/-- Why a pod failed: what its containers say, else what the pod says. -/
def describeFailure (p : Pod) : String :=
  match p.containerStatuses.filterMap failedExit? with
  | [] =>
    match p.status.bind fun s => s.message.or s.reason with
    | some message => s!"the pod failed: {message}"
    | none => "the pod failed"
  | lines => "\n".intercalate lines

namespace Runner

variable {σ : Type} (r : Runner) (env : Surroundings σ)

/-- The observer for a pod. Artifacts are not collected from pods that are not created. -/
def observerFor (p : StepPod) : Observer where
  nested :=
    if p.hasArtifacts && !r.dry then
      .collector (.fresh p.name p.step
        (r.artifactRoot.map fun root =>
          Path.join (Path.join root (Path.ofString r.test)) (Path.ofString p.step)))
    else .silent
  record := .fresh

def error (p : StepPod) (fault : ExecutionFault) : ExecutionError := ⟨r.test, p.step, p.name, fault⟩

/-- The pod was not run to its end because the token was cancelled. -/
def cancelled (p : StepPod) : Task σ (Except ExecutionError Unit) := do
  let reason ← Task.look fun w => w.token.reason
  return .error (r.error p (.cancelled reason))

/-- How often a pod may be looked at in a row before others get their turn. -/
def looksInRow : Nat := 128

/-- Sleeps between two looks at a pod, given how many more there may be. Others act meanwhile; where
there is no time to sleep they come to it only now and then. -/
def sleep (looks : Nat) : Task σ Unit :=
  if r.interval = 0 ∧ looks % looksInRow ≠ 0 then Task.done () else Task.pause env .sleeping

/-- Waits until there is no pod of a name. -/
def awaitGone (name : String) : Nat → Task σ (Except ClientError Unit)
  | 0 => Task.stall
  | n + 1 => do
    match ← Task.call env (.getPod name) (env.pods.get name) with
    | .error e => return if e.isNotFound then .ok () else .error e
    | .ok _ =>
      r.sleep env n
      awaitGone name n

def create (p : StepPod) : Task σ (Except ClientError Unit) := do
  match ← Task.call env (.createPod p.pod) (env.pods.create p.pod) with
  | .ok _ => return .ok ()
  | .error e => return .error e

/-- Creates a pod in place of one that may be left over. -/
def createOrRestart (p : StepPod) : Task σ (Except ClientError Unit) := do
  match ← Task.call env (.deletePod p.name) (env.pods.delete p.name) with
  | .ok _ =>
    match ← r.awaitGone env p.name env.patience with
    | .ok _ => create env p
    | .error e => return .error e
  | .error e => if e.isNotFound then create env p else return .error e

/-- Delivers events one after the other; false if the token was cancelled before the end. -/
def deliverAll : List ContainerEvent → Task σ Bool
  | [] => return true
  | e :: rest => do
    match ← Task.race env (Observer.deliver env e) with
    | none => return false
    | some _ => deliverAll rest

/-- Looks at a pod until its fate is known. -/
def watch (p : StepPod) : Nat → Tracker → Task σ (Except ExecutionError Unit)
  | 0, _ => Task.stall
  | n + 1, t => do
    match ← Task.race env (Task.call env (.getPod p.name) (env.pods.get p.name)) with
    | none => r.cancelled p
    | some (.error e) =>
      return .error (r.error p (if e.isNotFound then .deleted else .wait e))
    | some (.ok pod) =>
      let (t, events) := t.diff p.name pod
      if ← deliverAll env events then
        match PodPhase.ofStatus pod.phaseText with
        | .succeeded => return .ok ()
        | .failed => return .error (r.error p (.failed (describeFailure pod)))
        | _ =>
          match ← Task.race env (r.sleep env n) with
          | none => r.cancelled p
          | some _ => watch p n t
      else r.cancelled p

def report (result : Except ExecutionError Unit) : Task σ Unit :=
  match result with
  | .ok _ => return
  | .error e => Task.warn s!"Pod did not succeed: {e.message}"

/-- Runs a pod to its end. -/
def run (p : StepPod) : Task σ (Except ExecutionError Unit) := do
  if r.dry then
    Task.note (.recorded "Pod" p.name p.pod.toJson.sorted)
    return .ok ()
  if ← Task.isCancelled env then r.cancelled p
  else
    match ← r.createOrRestart env p with
    | .error e => return .error (r.error p (.create e))
    | .ok _ =>
      Task.openScope .cancelObserver
      let result ← r.watch env p env.patience .fresh
      Task.closeScope env .cancelObserver
      report result
      return result

/-- Runs a pod with an observer of its own; what came of it, and the test cases. -/
def attempt (text : String) (p : StepPod) : Task σ (Except ExecutionError Unit × List TestCase) := do
  Task.change fun w => { w with observer := r.observerFor p }.note (.began p)
  let result ← r.run env p
  Task.note (.finished p result)
  let cases ← Task.look fun w => w.observer.record.subtests text
  return (result, cases)

end Runner

end StagedTests
