import StagedTests.Cluster.Object
import StagedTests.Text.Quoted

/-!
# Clients of a cluster

The operations on pods and secrets of one namespace. A client answers from a state, and a call
may change that state; a call may also never be answered.
-/

namespace StagedTests

inductive ObjectKind
  | pod
  | secret
  deriving DecidableEq

def ObjectKind.name : ObjectKind → String
  | .pod => "pod"
  | .secret => "secret"

inductive ClientError
  | notFound (kind : ObjectKind) (name : String)
  | alreadyExists (kind : ObjectKind) (name : String)
  | api (reason : String)
  | io (reason : String)
  deriving DecidableEq

namespace ClientError

def message : ClientError → String
  | .notFound kind name => s!"{kind.name} {Text.quoted name} not found"
  | .alreadyExists kind name => s!"{kind.name} {Text.quoted name} already exists"
  | .api reason => s!"api error: {reason}"
  | .io reason => s!"IO error: {reason}"

/-- The kind of an error in one word. -/
def kind : ClientError → String
  | .notFound _ _ => "NotFound"
  | .alreadyExists _ _ => "AlreadyExists"
  | .api _ => "Api"
  | .io _ => "Io"

def isNotFound : ClientError → Bool
  | .notFound _ _ => true
  | _ => false

end ClientError

/-- What a command in a container has printed: an archive of files, or bytes that are none. -/
inductive CommandOutput
  | bytes (l : List UInt8)
  | archive (files : Table String)

/-- What becomes of a call. -/
inductive Reply (α : Type)
  | answered (answer : Except ClientError α)
  | hangs

namespace Reply

variable {α : Type}

def ok (x : α) : Reply α := .answered (.ok x)

def error (e : ClientError) : Reply α := .answered (.error e)

def problem? : Reply α → Option ClientError
  | .answered (.error e) => some e
  | _ => none

end Reply

structure PodClient (σ : Type) where
  create : Pod → σ → Reply Pod × σ
  get : String → σ → Reply Pod × σ
  delete : String → σ → Reply Unit × σ
  /-- Deletes every pod that a label selector matches. -/
  deleteCollection : String → σ → Reply Unit × σ
  /-- Runs a command in a container of a pod. -/
  exec : String → String → List String → σ → Reply CommandOutput × σ

structure SecretClient (σ : Type) where
  get : String → σ → Reply Secret × σ
  create : Secret → σ → Reply Secret × σ
  delete : String → σ → Reply Unit × σ

def onFirst {σ τ α : Type} (op : σ → α × σ) : σ × τ → α × (σ × τ) := fun (s, t) =>
  let (a, s) := op s
  (a, s, t)

def onSecond {σ τ α : Type} (op : τ → α × τ) : σ × τ → α × (σ × τ) := fun (s, t) =>
  let (a, t) := op t
  (a, s, t)

namespace PodClient

variable {σ τ : Type} (c : PodClient σ)

def first : PodClient (σ × τ) where
  create pod := onFirst (c.create pod)
  get name := onFirst (c.get name)
  delete name := onFirst (c.delete name)
  deleteCollection selector := onFirst (c.deleteCollection selector)
  exec pod container command := onFirst (c.exec pod container command)

end PodClient

namespace SecretClient

variable {σ τ : Type}

def first (c : SecretClient σ) : SecretClient (σ × τ) where
  get name := onFirst (c.get name)
  create secret := onFirst (c.create secret)
  delete name := onFirst (c.delete name)

def second (c : SecretClient τ) : SecretClient (σ × τ) where
  get name := onSecond (c.get name)
  create secret := onSecond (c.create secret)
  delete name := onSecond (c.delete name)

end SecretClient

inductive Call
  | createPod (pod : Pod)
  | getPod (name : String)
  | deletePod (name : String)
  | deletePods (selector : String)
  | exec (pod container : String) (command : List String)
  | getSecret (name : String)
  | createSecret (secret : Secret)
  | deleteSecret (name : String)

namespace Call

/-- A call on a single pod as one line. -/
def podLine? : Call → Option String
  | .createPod pod => some s!"create {pod.name}"
  | .getPod name => some s!"get {name}"
  | .deletePod name => some s!"delete {name}"
  | .exec pod container command =>
    some (" ".intercalate ("exec" :: pod :: container :: command))
  | _ => none

/-- A call on a secret as one line. -/
def secretLine? : Call → Option String
  | .getSecret name => some s!"get {name}"
  | .createSecret secret => some s!"create {secret.name}"
  | .deleteSecret name => some s!"delete {name}"
  | _ => none

/-- The selector of a call that deletes all pods it matches. -/
def selector? : Call → Option String
  | .deletePods selector => some selector
  | _ => none

end Call

end StagedTests
