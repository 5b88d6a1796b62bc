import StagedTests.Cluster.Object
import StagedTests.Container.Event

/-!
# Tracking containers

The same states of containers are reported at every look at a pod. The tracker turns them into
events, each once: a start for the first state that is not merely waiting, and a termination for
the first terminated one, always behind the start.
-/

namespace StagedTests

/-- The containers whose start, and those whose termination, has been reported. -/
structure Tracker where
  started : List String
  terminated : List String
  deriving DecidableEq

namespace Tracker

def fresh : Tracker := ⟨[], []⟩

/-- Reports the start of a container unless that was done. -/
def start (t : Tracker) (pod container : String) (startedAt : Option Instant) :
    Tracker × List ContainerEvent :=
  if t.started.contains container then (t, [])
  else ({ t with started := container :: t.started }, [.started pod container startedAt])

/-- Reports the termination of a container unless that was done. -/
def finish (t : Tracker) (pod container : String) (e : Terminated) :
    Tracker × List ContainerEvent :=
  if t.terminated.contains container then (t, [])
  else
    ({ t with terminated := container :: t.terminated },
      [.terminated pod container e.startedAt e.finishedAt e.exitCode e.reason e.message])

def observeRunning (t : Tracker) (pod container : String) :
    Option Running → Tracker × List ContainerEvent
  | none => (t, [])
  | some r => t.start pod container r.startedAt

def observeTerminated (t : Tracker) (pod container : String) :
    Option Terminated → Tracker × List ContainerEvent
  | none => (t, [])
  | some e =>
    let (t, starts) := t.start pod container e.startedAt
    let (t, ends) := t.finish pod container e
    (t, starts ++ ends)

def observe (t : Tracker) (pod : String) (s : ContainerStatus) : Tracker × List ContainerEvent :=
  match s.state with
  | none => (t, [])
  | some state =>
    let (t, first) := t.observeRunning pod s.name state.running
    let (t, second) := t.observeTerminated pod s.name state.terminated
    (t, first ++ second)

def observeAll (t : Tracker) (pod : String) : List ContainerStatus → Tracker × List ContainerEvent
  | [] => (t, [])
  | s :: rest =>
    let (t, events) := t.observe pod s
    let (t, more) := t.observeAll pod rest
    (t, events ++ more)

/-- The events that a look at a pod has not yet reported. -/
def diff (t : Tracker) (name : String) (pod : Pod) : Tracker × List ContainerEvent :=
  t.observeAll name pod.containerStatuses

end Tracker

end StagedTests
