import StagedTests.Cluster.Memory
import StagedTests.Cluster.Script
import StagedTests.Parameter.Answers
import StagedTests.Run.Test

/-!
# Rehearsals

Runs against clusters that are no more than values. One task acts at a time: others act only where
the run is suspended, and there every watcher gets its turn. Calls are answered without a
suspension unless they hang.
-/

namespace StagedTests

namespace Moment

/-- Whether a run is suspended at a moment. -/
def suspends : Moment → Bool
  | .calling _ => false
  | .checking => false
  | _ => true

end Moment

def everyTurn (watchers : Nat) : List Happening := (List.range watchers).map .turn

/-- How often a rehearsed run waits before it is given up. -/
def rehearsalPatience : Nat := 1000000

namespace Script

/-- The surroundings of a scripted cluster. Its orders cancel the token at calls on pods. -/
def surroundings (now : Instant) : Surroundings Script where
  pods := podClient
  secrets := secretClient
  clock := fun _ => now
  meanwhile := fun m watchers s =>
    match m with
    | .calling c =>
      match c.podLine? with
      | some line =>
        let (reasons, s) := s.count line
        (⟨false, reasons.map .cancel⟩, s)
      | none => (⟨false, []⟩, s)
    | m => (⟨m.suspends, if m.suspends then everyTurn watchers else []⟩, s)
  patience := rehearsalPatience

/-- The surroundings of a scripted cluster where someone may wait to cancel the observer of the pod
at the next suspension. -/
def stoppingSurroundings (now : Instant) : Surroundings (Script × Bool) where
  pods := podClient.first
  secrets := secretClient.first
  clock := fun _ => now
  meanwhile := fun m watchers (s, waiting) =>
    let (p, s) := (surroundings now).meanwhile m watchers s
    if p.suspended && waiting then (⟨true, p.happenings ++ [.cancelObserver]⟩, s, false)
    else (p, s, waiting)
  patience := rehearsalPatience

end Script

namespace Rehearsal

def now : Instant := .midnight 20089

def job : Job := { inNamespace := "ci-op-abcdef", name := "periodic-ci-e2e", buildId := "1234" }

/-- A configuration that does not wait. -/
def quickConfig : Config := { Config.standard with pollInterval := 1 }

/-- An observer that takes in an event, and is cancelled at the first suspension on the way, or
afterwards if there is none. -/
def observeStopped (w : World (Script × Bool)) (e : ContainerEvent) (midway : Bool) :
    World (Script × Bool) :=
  let (_, w) := Observer.notify (Script.stoppingSurroundings now) e
    { w with cluster := (w.cluster.1, midway) }
  let w := if w.cluster.2 then { w with observer := w.observer.cancel now } else w
  { w with cluster := (w.cluster.1, false) }

end Rehearsal

/-- A cluster in memory, and someone who cancels the run once a pod was created. -/
structure Rehearsed where
  pods : PodStore
  secrets : SecretStore
  /-- The pod whose creation is waited for, and the reason given then. -/
  canceller : Option (String × String) := none

namespace Rehearsed

def onPods {α : Type} (op : PodStore → α × PodStore) (r : Rehearsed) : α × Rehearsed :=
  let (a, pods) := op r.pods
  (a, { r with pods := pods })

def onSecrets {α : Type} (op : SecretStore → α × SecretStore) (r : Rehearsed) : α × Rehearsed :=
  let (a, secrets) := op r.secrets
  (a, { r with secrets := secrets })

/-- The canceller acts at the first suspension behind the creation. -/
def act (r : Rehearsed) : List Happening × Rehearsed :=
  match r.canceller with
  | some (pod, reason) =>
    if r.pods.created.contains pod then ([.cancel reason], { r with canceller := none })
    else ([], r)
  | none => ([], r)

def surroundings : Surroundings Rehearsed where
  pods :=
    { create := fun pod => onPods (PodStore.create pod)
      get := fun name => onPods (PodStore.get name)
      delete := fun name => onPods (PodStore.delete name)
      deleteCollection := fun selector => onPods (PodStore.deleteCollection selector)
      exec := fun pod container command => onPods (PodStore.exec pod container command) }
  secrets :=
    { get := fun name => onSecrets (SecretStore.get name)
      create := fun secret => onSecrets (SecretStore.create secret)
      delete := fun name => onSecrets (SecretStore.delete name) }
  clock := fun r => r.pods.now
  meanwhile := fun m watchers r =>
    if m.suspends then
      let (happenings, r) := r.act
      (⟨true, happenings ++ everyTurn watchers⟩, r)
    else (⟨false, []⟩, r)
  patience := rehearsalPatience

end Rehearsed

/-- Surroundings whose state is the first part of a greater one. -/
def Surroundings.first {σ τ : Type} (env : Surroundings σ) : Surroundings (σ × τ) where
  pods := env.pods.first
  secrets := env.secrets.first
  clock := fun (s, _) => env.clock s
  meanwhile := fun m watchers => onFirst (env.meanwhile m watchers)
  patience := env.patience

/-- Parameters whose state is the second part of a greater one. -/
def Parameters.second {σ τ : Type} (p : Parameters τ) : Parameters (σ × τ) where
  get name := onSecond (p.get name)
  links name := fun (_, s) => p.links name s

namespace Runner

variable {σ : Type} (r : Runner) (env : Surroundings σ)

/-- Runs phases one after the other. The cases of each follow those of all before it. -/
def rehearsePhases (s : Synthesizer) (description : String) (d : Definition) :
    List Phase → List TestCase → World σ → List (Outcome PhaseReport) × World σ
  | [], _, w => ([], w)
  | phase :: rest, cases, w =>
    match r.runPhase env s description phase (d.steps phase) w with
    | (.returned report, w) =>
      let cases := cases ++ report.cases
      let (more, w) := rehearsePhases s description d rest cases w
      (.returned ⟨report.errors, cases⟩ :: more, w)
    | (outcome, w) =>
      let (more, w) := rehearsePhases s description d rest cases w
      (outcome :: more, w)

/-- What came of the pod of one step: none if it could not be made, otherwise the result of its
run, its test cases, and whether its observer was cancelled. -/
abbrev StepOutcome :=
  Except SynthesisError (Outcome (Except ExecutionError Unit × List TestCase × Bool))

/-- Runs the pods of steps one after the other, whatever comes of them. -/
def rehearsePods (s : Synthesizer) (text : String) :
    List Step → World σ → List StepOutcome × World σ
  | [], w => ([], w)
  | step :: rest, w =>
    match s.generatePod step with
    | .error e =>
      let (more, w) := rehearsePods s text rest w
      (.error e :: more, w)
    | .ok p =>
      let attempt : Task σ (Except ExecutionError Unit × List TestCase × Bool) := do
        let (result, cases) ← r.attempt env text p
        return (result, cases, ← Task.look fun w => w.observer.record.cancelled)
      let (outcome, w) := attempt w
      let (more, w) := rehearsePods s text rest w
      (.ok outcome :: more, w)

end Runner

namespace StagedTest

variable {σ : Type}

/-- Runs a test a number of times in the same world, and gives what came of each run. -/
def rehearse (env : Surroundings σ) (params : Parameters σ) :
    Nat → StagedTest → World σ → List (Outcome (Except TestError Unit × StagedTest)) × World σ
  | 0, _, w => ([], w)
  | n + 1, t, w =>
    let (outcome, w) := t.run env params w
    let next := match outcome with
      | .returned (_, t) => t
      | _ => t
    let (more, w) := rehearse env params n next w
    (outcome :: more, w)

end StagedTest

end StagedTests
