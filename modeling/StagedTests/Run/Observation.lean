import StagedTests.Run.Task

/-!
# Observing a pod

Events are delivered to the observer of a pod one after the other. A collector among its layers
acts first: it fetches the artifacts behind the termination it waits for and then lets their
container go, whatever became of the artifacts.
-/

namespace StagedTests

namespace Collector

variable {σ : Type} (env : Surroundings σ) (c : Collector)

/-- Runs a command in the container that keeps the artifacts. -/
def command (words : List String) : Task σ (Except ClientError CommandOutput) :=
  Task.call env (.exec c.pod artifactsContainer words) (env.pods.exec c.pod artifactsContainer words)

/-- Unpacks an archive below a directory. The archive is kept there while it is unpacked. -/
def unpack (directory : Path) (output : CommandOutput) : Task σ (Except ClientError Unit) := do
  let made ← Task.editDisk fun d => d.makeDirectories directory.length directory
  Task.pause env .filing
  if !made then return .error (.io "the directory cannot be made")
  let archive := Path.join directory archiveName
  let written ← Task.editDisk fun d => d.write Disk.root archive output.printed Disk.maxLinks
  Task.pause env .filing
  if !written then return .error (.io "Is a directory (os error 21)")
  let unpacked ← Task.editDisk fun d => d.unpack directory output.contents
  Task.pause env .filing
  let removed ← Task.editDisk fun d =>
    match d.removeFile Disk.root archive with
    | .ok d => (d, true)
    | .error _ => (d, false)
  Task.pause env .filing
  if !removed then return .error (.io "Is a directory (os error 21)")
  if unpacked then return .ok () else return .error (.io "could not extract artifacts")

def fetch (directory : Path) : Task σ (Except ClientError Unit) := do
  match ← c.command env packCommand with
  | .error e => return .error e
  | .ok output => unpack env directory output

/-- Fetches the artifacts, if they have a place, and lets their container go. -/
def collect : Task σ Unit := do
  match c.directory with
  | none => pure ()
  | some directory =>
    match ← c.fetch env directory with
    | .ok _ => pure ()
    | .error e => Task.warn s!"Failed to collect artifacts: {e.message}"
  match ← c.command env releaseCommand with
  | .ok _ => pure ()
  | .error e => Task.warn s!"Failed to release artifacts container: {e.message}"

def startsAt (e : ContainerEvent) : Bool :=
  e.isTerminal && e.container == c.container && !c.collected && !c.cancelled

def abandon : Task σ Unit := Task.warn "Artifact collection abandoned"

/-- Does a collection that ends with the cancellation of the observer. -/
def untilStopped (t : Task σ Unit) : Task σ Unit := fun w =>
  match t { w with collecting := true } with
  | (.returned _, w) => (.returned (), { w with collecting := false })
  | (.abandoned, w) => abandon { w with collecting := false }
  | (.dropped, w) => (.dropped, { w with collecting := false })
  | (.stalled, w) => (.stalled, w)

def observe (e : ContainerEvent) : Task σ Unit := do
  if c.startsAt e then
    Task.change fun w =>
      { w with observer := { w.observer with nested := .collector { c with collected := true } } }
    Task.pass env .checking
    if ← Task.look fun w => w.observer.nested.isStopped then abandon
    else untilStopped (c.collect env)

end Collector

namespace Observer

variable {σ : Type} (env : Surroundings σ)

/-- Lets the collector, if there is one, see an event. -/
def notify (e : ContainerEvent) : Task σ Unit := do
  match ← Task.look fun w => w.observer.nested with
  | .collector c => c.observe env e
  | _ => pure ()

def deliver (e : ContainerEvent) : Task σ Unit := do
  notify env e
  Task.change fun w =>
    { w with observer := w.observer.observe (env.clock w.cluster) e }.note (.delivered e)

end Observer

end StagedTests
