import StagedTests.Cluster.Client

/-!
# Clusters that answer by a script

A script says for each pod what every operation on it answers and what is found at each look at
it. Where it says nothing, pods can be created, run to a good end at once, and are gone when they
are deleted; commands print nothing.
-/

namespace StagedTests

/-- What one look at a created pod finds. -/
inductive Poll
  | status (s : Option PodStatus)
  | error (e : ClientError)
  | gone
  | hang

/-- What is said of one pod, and how far that has been played. -/
structure PodScript where
  /-- How often a pod left over from before is still found once it was deleted. -/
  existing : Option Nat := none
  deleteError : Option ClientError := none
  /-- What is answered for a pod that is gone. -/
  goneError : Option ClientError := none
  createError : Option ClientError := none
  polls : List Poll := []
  /-- The pod, if it was created and not deleted since. -/
  created : Option Pod := none
  /-- Whether there is a pod to delete. -/
  present : Bool := false

/-- A pod left over from before, found for some looks behind its deletion. -/
def PodScript.leftOver (looks : Nat) : PodScript := { existing := some looks, present := true }

structure SecretScript where
  present : TextSet := ∅
  getErrors : Table ClientError := ∅
  deleteErrors : Table ClientError := ∅
  createErrors : Table ClientError := ∅
  created : List Secret := []

/-- Cancels the invocation at the call of a line for the given time. -/
structure CancelOrder where
  line : String
  nth : Nat
  reason : String

structure Script where
  pods : Table PodScript := ∅
  exec : Table (Reply CommandOutput) := ∅
  deleteCollectionError : Option ClientError := none
  secrets : SecretScript := {}
  orders : List CancelOrder := []
  /-- How often each line was called. -/
  counts : Table Nat := ∅
  created : List Pod := []

namespace Script

/-- The end of a pod of which nothing more is said. -/
def succeeded (pod : Pod) : PodStatus where
  phase := some "Succeeded"
  containers := some (pod.containerNames.map fun name =>
    { name := name
      state := some
        { terminated := some
            { exitCode := 0
              reason := some "Completed"
              message := none
              startedAt := some (.midnight 18262)
              finishedAt := some ⟨18262, 30, 0, by decide, by decide⟩ } } })

def podScript (s : Script) (name : String) : PodScript := (s.pods.get? name).getD {}

def withPod (s : Script) (name : String) (p : PodScript) : Script :=
  { s with pods := s.pods.insert name p }

def create (pod : Pod) (s : Script) : Reply Pod × Script :=
  let p := s.podScript pod.name
  match p.createError with
  | some e => (.error e, s)
  | none =>
    let s := s.withPod pod.name { p with created := some pod, present := true }
    (.ok pod, { s with created := s.created ++ [pod] })

def poll (name : String) (pod : Pod) (p : PodScript) (s : Script) : Reply Pod × Script :=
  match p.polls with
  | [] => (.ok { pod with status := some (succeeded pod) }, s)
  | next :: rest =>
    let s := s.withPod name { p with polls := rest }
    match next with
    | .status status => (.ok { pod with status := status }, s)
    | .error e => (.error e, s)
    | .gone => (.error (.notFound .pod name), s)
    | .hang => (.hangs, s)

def get (name : String) (s : Script) : Reply Pod × Script :=
  let p := s.podScript name
  match p.created with
  | some pod => poll name pod p s
  | none =>
    match p.existing with
    | some (k + 1) =>
      (.ok { metadata := { name := some name } }, s.withPod name { p with existing := some k })
    | _ => (.error (p.goneError.getD (.notFound .pod name)), s)

def delete (name : String) (s : Script) : Reply Unit × Script :=
  let p := s.podScript name
  match p.deleteError with
  | some e => (.error e, s)
  | none =>
    if p.present then (.ok (), s.withPod name { p with created := none, present := false })
    else (.error (.notFound .pod name), s)

def deleteCollection (_ : String) (s : Script) : Reply Unit × Script :=
  match s.deleteCollectionError with
  | some e => (.error e, s)
  | none => (.ok (), s)

def execute (_ _ : String) (command : List String) (s : Script) : Reply CommandOutput × Script :=
  ((s.exec.get? (command.headD "")).getD (.ok (.bytes [])), s)

def podClient : PodClient Script := ⟨create, get, delete, deleteCollection, execute⟩

def getSecret (name : String) (s : Script) : Reply Secret × Script :=
  match s.secrets.getErrors.get? name with
  | some e => (.error e, s)
  | none =>
    if s.secrets.present.contains name then (.ok { metadata := { name := some name } }, s)
    else (.error (.notFound .secret name), s)

def createSecret (secret : Secret) (s : Script) : Reply Secret × Script :=
  match s.secrets.createErrors.get? secret.name with
  | some e => (.error e, s)
  | none =>
    (.ok secret,
      { s with secrets :=
        { s.secrets with
          present := s.secrets.present.insert secret.name ()
          created := s.secrets.created ++ [secret] } })

def deleteSecret (name : String) (s : Script) : Reply Unit × Script :=
  match s.secrets.deleteErrors.get? name with
  | some e => (.error e, s)
  | none =>
    if s.secrets.present.contains name then
      (.ok (), { s with secrets := { s.secrets with present := s.secrets.present.erase name } })
    else (.error (.notFound .secret name), s)

def secretClient : SecretClient Script := ⟨getSecret, createSecret, deleteSecret⟩

/-- Counts a call, and gives the reasons for which it cancels the invocation. -/
def count (line : String) (s : Script) : List String × Script :=
  let n := (s.counts.get? line).getD 0 + 1
  ((s.orders.filter fun o => o.line = line && o.nth = n).map (·.reason),
    { s with counts := s.counts.insert line n })

end Script

end StagedTests
