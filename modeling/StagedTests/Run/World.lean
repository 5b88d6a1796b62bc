import StagedTests.Artifact.Collector
import StagedTests.Cancellation.Scope
import StagedTests.Disk
import StagedTests.DryRun
import StagedTests.Pod.Synthesis
import StagedTests.TestCase.Record

/-!
# What a run acts on

A run calls the clients of a cluster, watches one pod at a time and keeps files; others may cancel
its token, and watchers of that token act on their own. `Surroundings` says how the cluster answers
and what others do at the points where a run lets them; `World` is everything that the run and the
others change. The journal lists what has happened, the first entry first.
-/

namespace StagedTests

/-- The points at which others may act. -/
inductive Moment
  /-- A call was made and has not yet taken effect. -/
  | calling (c : Call)
  /-- The token is about to be looked at. -/
  | checking
  /-- Between two looks at a pod. -/
  | sleeping
  /-- A call is not answered. -/
  | hanging
  /-- Local files are at work. -/
  | filing
  /-- The watchers of a scope are awaited. -/
  | closing

inductive Happening
  | cancel (reason : String)
  /-- A watcher gets its turn. -/
  | turn (watcher : Nat)
  /-- The observer of the pod is cancelled. -/
  | cancelObserver

/-- What happens at a moment, and whether the run is suspended there. -/
structure Pause where
  suspended : Bool
  happenings : List Happening

/-- The cluster and everyone else, with a state of type `σ`. -/
structure Surroundings (σ : Type) where
  pods : PodClient σ
  secrets : SecretClient σ
  clock : σ → Instant
  /-- What happens at a moment, given the number of watchers. -/
  meanwhile : Moment → Nat → σ → Pause × σ
  /-- How often a run waits for the same thing before it is given up as never coming. -/
  patience : Nat

/-- What an observer passes events on to. -/
inductive Nested
  | silent
  | tally (events cancels : Nat)
  | collector (c : Collector)

namespace Nested

/-- Takes notice of an event. What a collector does about it is not done here. -/
def notice : Nested → Nested
  | .tally events cancels => .tally (events + 1) cancels
  | n => n

def cancel : Nested → Nested
  | .silent => .silent
  | .tally events cancels => .tally events (cancels + 1)
  | .collector c => .collector c.cancel

/-- Whether a collection that goes on is to be abandoned. -/
def isStopped : Nested → Bool
  | .collector c => c.stop.isCancelled
  | _ => false

end Nested

/-- Observes the containers of one pod. -/
structure Observer where
  nested : Nested
  record : Record

namespace Observer

def silent : Observer := ⟨.silent, .fresh⟩

instance : Inhabited Observer := ⟨silent⟩

def observe (now : Instant) (o : Observer) (e : ContainerEvent) : Observer :=
  ⟨o.nested.notice, o.record.observe now e⟩

def cancel (now : Instant) (o : Observer) : Observer :=
  ⟨o.nested.cancel, o.record.cancel now⟩

end Observer

/-- What a watcher does when the token is cancelled. -/
inductive Reaction
  | deletePods (selector : String)
  | cancelObserver
  deriving DecidableEq

inductive Entry
  | called (c : Call)
  /-- A call took effect, or was refused because of a problem. -/
  | answered (c : Call) (problem : Option ClientError)
  /-- The value of a parameter was asked for. -/
  | asked (parameter : String)
  | cancelled (reason : String)
  | began (p : StepPod)
  | finished (p : StepPod) (result : Except ExecutionError Unit)
  | delivered (e : ContainerEvent)
  /-- A scope with one watcher was opened, began to close, and was closed. -/
  | opened (r : Reaction)
  | closing (r : Reaction)
  | closed (r : Reaction)
  | recorded (kind name : String) (object : Json)
  | warned (message : String)

structure World (σ : Type) where
  cluster : σ
  token : Token
  /-- The watchers of the scopes, those of inner scopes last. -/
  watchers : List (Watcher Reaction)
  /-- Whether the innermost scope is closed, and its watcher awaited. -/
  closing : Bool
  /-- The observer of the pod that is being run. -/
  observer : Observer
  disk : Disk
  journal : List Entry
  /-- Whether what is being done ends with the token. -/
  racing : Bool
  /-- Whether a collection is going on. -/
  collecting : Bool

namespace World

variable {σ : Type}

def start (cluster : σ) (token : Token) (disk : Disk) : World σ :=
  ⟨cluster, token, [], false, .silent, disk, [], false, false⟩

def note (w : World σ) (e : Entry) : World σ := { w with journal := w.journal ++ [e] }

def warn (w : World σ) (message : String) : World σ := w.note (.warned message)

/-- Whether the scope of a watcher is closed. Only that of the innermost one can be. -/
def isClosed (w : World σ) (i : Nat) : Bool := w.closing && i + 1 == w.watchers.length

def podCalls (w : World σ) : List String :=
  w.journal.filterMap fun
    | .called c => c.podLine?
    | _ => none

def secretCalls (w : World σ) : List String :=
  w.journal.filterMap fun
    | .called c => c.secretLine?
    | _ => none

def selectors (w : World σ) : List String :=
  w.journal.filterMap fun
    | .called c => c.selector?
    | _ => none

def warnings (w : World σ) : List String :=
  w.journal.filterMap fun
    | .warned message => some message
    | _ => none

def recordedObjects (w : World σ) : DryRecord :=
  w.journal.filterMap fun
    | .recorded kind name object => some ⟨kind, name, object⟩
    | _ => none

def cancel (w : World σ) (reason : String) : World σ :=
  if w.token.isCancelled then w
  else { w with token := w.token.cancel reason }.note (.cancelled reason)

/-- A call takes effect. One that is never answered leaves nothing in the journal. -/
def answer {α : Type} (w : World σ) (c : Call) (op : σ → Reply α × σ) : Reply α × World σ :=
  match op w.cluster with
  | (.hangs, s) => (.hangs, { w with cluster := s })
  | (reply, s) => (reply, { w with cluster := s }.note (.answered c reply.problem?))

end World

variable {σ : Type}

/-- A reaction, and how far its watcher comes by it. -/
def Surroundings.react (env : Surroundings σ) (w : World σ) : Reaction → World σ × Watch
  | .cancelObserver =>
    ({ w with observer := w.observer.cancel (env.clock w.cluster) }, .reacted)
  | .deletePods selector =>
    let w := w.note (.called (.deletePods selector))
    match w.answer (.deletePods selector) (env.pods.deleteCollection selector) with
    | (.answered (.ok _), w) => (w, .reacted)
    | (.answered (.error e), w) =>
      let error : CleanupError := ⟨selector, e⟩
      (w.warn s!"Cleanup after cancellation failed: {error.message}", .reacted)
    | (.hangs, w) => (w, .reacting)

/-- A turn of one watcher. Its reaction begins if that is due, and may not end. -/
def Surroundings.turn (env : Surroundings σ) (w : World σ) (i : Nat) : World σ :=
  match w.watchers[i]? with
  | none => w
  | some x =>
    match x.turn w.token.isCancelled (w.isClosed i) with
    | (x, some reaction) =>
      let (w, watch) := env.react w reaction
      { w with watchers := w.watchers.set i { x with watch := watch } }
    | (x, none) => { w with watchers := w.watchers.set i x }

def Surroundings.happen (env : Surroundings σ) (w : World σ) : Happening → World σ
  | .cancel reason => w.cancel reason
  | .turn i => env.turn w i
  | .cancelObserver => { w with observer := w.observer.cancel (env.clock w.cluster) }

end StagedTests
