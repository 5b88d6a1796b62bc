import StagedTests.Cluster.Client
import StagedTests.Cluster.Selector

/-!
# Clusters in memory

A cluster that keeps its objects and plays their lives: a pod runs at the first look and has
reached its planned outcome at the second. All calls that change something are listed. Nothing is
known of pods that were not created here, so the objects themselves are never changed.
-/

namespace StagedTests

/-- What becomes of a pod behind its first look. -/
inductive PodOutcome
  /-- All containers end well. -/
  | succeed
  /-- The first container fails with a message, all others end well. -/
  | fail (message : String)
  /-- All containers go on. -/
  | hang
  /-- The first container ends well, all others go on. -/
  | stepExited
  deriving DecidableEq

structure StoredPod where
  pod : Pod
  /-- How often it was looked at. -/
  polls : Nat

structure ExecCall where
  pod : String
  container : String
  command : List String
  deriving DecidableEq

structure PodStore where
  /-- The time at which everything happens. -/
  now : Instant
  pods : Table StoredPod := ∅
  outcomes : Table PodOutcome := ∅
  /-- Pods that cannot be created. -/
  refused : TextSet := ∅
  /-- What commands print, by their first word. -/
  outputs : Table CommandOutput := ∅
  /-- Commands that never end, by their first word. -/
  hanging : TextSet := ∅
  created : List String := []
  deleted : List String := []
  collectionsDeleted : List String := []
  execs : List ExecCall := []

namespace PodStore

def runningStatus (now : Instant) (name : String) : ContainerStatus where
  name := name
  state := some { running := some ⟨some now⟩ }

def endedStatus (now : Instant) (exitCode : Int) (message : Option String) (name : String) :
    ContainerStatus where
  name := name
  state := some
    { terminated := some
        { exitCode := exitCode
          reason := some (if exitCode = 0 then "Completed" else "Error")
          message := message
          startedAt := some now
          finishedAt := some now } }

/-- The states of containers of which the first may differ from the others. -/
def statuses (first others : String → ContainerStatus) : List String → List ContainerStatus
  | [] => []
  | name :: rest => first name :: rest.map others

/-- The status that a pod has reached after a number of looks. -/
def simulate (now : Instant) (polls : Nat) (outcome : PodOutcome) (pod : Pod) : PodStatus :=
  let names := pod.containerNames
  let runs := runningStatus now
  let ends := endedStatus now 0 none
  if polls ≤ 1 then { phase := some "Running", containers := some (names.map runs) }
  else match outcome with
    | .hang => { phase := some "Running", containers := some (names.map runs) }
    | .stepExited => { phase := some "Running", containers := some (statuses ends runs names) }
    | .succeed => { phase := some "Succeeded", containers := some (names.map ends) }
    | .fail message =>
      { phase := some "Failed"
        containers := some (statuses (endedStatus now 1 (some message)) ends names) }

def create (pod : Pod) (s : PodStore) : Reply Pod × PodStore :=
  let name := pod.name
  if s.refused.contains name then
    (.error (.api s!"admission webhook denied pod {name}"), s)
  else if s.pods.contains name then (.error (.alreadyExists .pod name), s)
  else
    (.ok pod, { s with pods := s.pods.insert name ⟨pod, 0⟩, created := s.created ++ [name] })

def get (name : String) (s : PodStore) : Reply Pod × PodStore :=
  match s.pods.get? name with
  | none => (.error (.notFound .pod name), s)
  | some stored =>
    let stored := { stored with polls := stored.polls + 1 }
    let outcome := (s.outcomes.get? name).getD .succeed
    (.ok { stored.pod with status := some (simulate s.now stored.polls outcome stored.pod) },
      { s with pods := s.pods.insert name stored })

def delete (name : String) (s : PodStore) : Reply Unit × PodStore :=
  if s.pods.contains name then
    (.ok (), { s with pods := s.pods.erase name, deleted := s.deleted ++ [name] })
  else (.error (.notFound .pod name), s)

def deleteCollection (selector : String) (s : PodStore) : Reply Unit × PodStore :=
  (.ok (),
    { s with
      pods := s.pods.filter fun _ stored => !Selector.selects selector stored.pod
      collectionsDeleted := s.collectionsDeleted ++ [selector] })

def exec (pod container : String) (command : List String) (s : PodStore) :
    Reply CommandOutput × PodStore :=
  let program := command.headD ""
  let s := { s with execs := s.execs ++ [⟨pod, container, command⟩] }
  if s.hanging.contains program then (.hangs, s)
  else (.ok ((s.outputs.get? program).getD (.bytes [])), s)

/-- Puts a pod there that was not created. -/
def withExisting (s : PodStore) (pod : Pod) : PodStore :=
  { s with pods := s.pods.insert pod.name ⟨pod, 0⟩ }

def pod? (s : PodStore) (name : String) : Option Pod :=
  (s.pods.get? name).map (·.pod)

def client : PodClient PodStore := ⟨create, get, delete, deleteCollection, exec⟩

end PodStore

structure SecretStore where
  secrets : Table Secret := ∅
  /-- Whether no secret can be created. -/
  refusing : Bool := false
  /-- The calls so far. -/
  calls : List String := []

namespace SecretStore

def note (s : SecretStore) (verb name : String) : SecretStore :=
  { s with calls := s.calls ++ [s!"{verb} {name}"] }

def get (name : String) (s : SecretStore) : Reply Secret × SecretStore :=
  let s := s.note "get" name
  match s.secrets.get? name with
  | some secret => (.ok secret, s)
  | none => (.error (.notFound .secret name), s)

def create (secret : Secret) (s : SecretStore) : Reply Secret × SecretStore :=
  let name := secret.name
  let s := s.note "create" name
  if s.refusing then (.error (.api "secrets are forbidden"), s)
  else if s.secrets.contains name then (.error (.alreadyExists .secret name), s)
  else (.ok secret, { s with secrets := s.secrets.insert name secret })

def delete (name : String) (s : SecretStore) : Reply Unit × SecretStore :=
  let s := s.note "delete" name
  if s.secrets.contains name then (.ok (), { s with secrets := s.secrets.erase name })
  else (.error (.notFound .secret name), s)

def withSecret (s : SecretStore) (name : String) : SecretStore :=
  { s with secrets := s.secrets.insert name { metadata := { name := some name } } }

def client : SecretClient SecretStore := ⟨get, create, delete⟩

end SecretStore

end StagedTests
