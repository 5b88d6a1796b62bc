import StagedTests.Cluster.Schema
import StagedTests.Resource.Request

/-!
# Cluster objects

Pods and secrets with the fields that synthesis sets and the runner reads. Whatever else an object
has that comes from the cluster is kept beside them, so that the object can be written back. An
object is read by its shape, and only then are the fields taken out of it: `ofJson` is meant for
values in the form in which the shape writes them.
-/

namespace StagedTests

/-- Members of an object of which nothing is known here. -/
abbrev OtherMembers := List (String × Json)

/-- A list as a member, unless it is empty. -/
def listMember {α : Type} (name : String) (f : α → Json) (l : List α) : String × Option Json :=
  (name, if l.isEmpty then none else some (.array (l.map f)))

/-- The members of an object apart from those with given names. -/
def membersExcept (names : List String) (v : Json) : OtherMembers :=
  match v with
  | .object members => members.filter fun m => !names.contains m.1
  | _ => []

def stringMember? (name : String) (v : Json) : Option String :=
  match v.get? name with
  | some (.string s) => some s
  | _ => none

def itemsOf : Option Json → List Json
  | some (.array items) => items
  | _ => []

def textTable : Json → Table String
  | .object members => Table.ofList (members.filterMap fun m =>
      match m.2 with
      | .string s => some (m.1, s)
      | _ => none)
  | _ => ∅

def objectWith (members : List (String × Option Json)) (others : OtherMembers) : Json :=
  .object (members.filterMap (fun m => m.2.map (m.1, ·)) ++ others)

/-- The object on whose behalf others are created. -/
structure Owner where
  apiVersion : String
  kind : String
  name : String
  uid : String
  controller : Option Bool
  blockOwnerDeletion : Option Bool
  deriving DecidableEq

namespace Owner

def ofJson (v : Json) : Owner where
  apiVersion := (stringMember? "apiVersion" v).getD ""
  kind := (stringMember? "kind" v).getD ""
  name := (stringMember? "name" v).getD ""
  uid := (stringMember? "uid" v).getD ""
  controller := match v.get? "controller" with
    | some (.bool b) => some b
    | _ => none
  blockOwnerDeletion := match v.get? "blockOwnerDeletion" with
    | some (.bool b) => some b
    | _ => none

def toJson (o : Owner) : Json :=
  Json.objectOf [("apiVersion", some (.string o.apiVersion)), ("kind", some (.string o.kind)),
    ("name", some (.string o.name)), ("uid", some (.string o.uid)),
    ("controller", o.controller.map .bool), ("blockOwnerDeletion", o.blockOwnerDeletion.map .bool)]

def decoder : Json.Decoder Owner := .map ofJson Schema.ownerReference.decoder

end Owner

structure Metadata where
  name : Option String := none
  inNamespace : Option String := none
  labels : Option (Table String) := none
  annotations : Option (Table String) := none
  owners : Option (List Owner) := none
  others : OtherMembers := []

namespace Metadata

def ofJson (v : Json) : Metadata where
  name := stringMember? "name" v
  inNamespace := stringMember? "namespace" v
  labels := (v.get? "labels").map textTable
  annotations := (v.get? "annotations").map textTable
  owners := (v.get? "ownerReferences").map fun l => (itemsOf (some l)).map Owner.ofJson
  others := membersExcept ["name", "namespace", "labels", "annotations", "ownerReferences"] v

def toJson (m : Metadata) : Json :=
  objectWith [("name", m.name.map .string), ("namespace", m.inNamespace.map .string),
    ("labels", m.labels.map (Json.ofTable .string)),
    ("annotations", m.annotations.map (Json.ofTable .string)),
    ("ownerReferences", m.owners.map fun l => .array (l.map Owner.toJson))] m.others

/-- The name, which an object not yet named has not. -/
def nameOrEmpty (m : Metadata) : String := m.name.getD ""

end Metadata

structure EnvVar where
  name : String
  value : String
  deriving DecidableEq

structure VolumeMount where
  name : String
  path : String
  deriving DecidableEq

/-- What a volume holds. -/
inductive VolumeSource
  | emptyDir
  | secret (name : String)
  deriving DecidableEq

structure Volume where
  name : String
  source : VolumeSource
  deriving DecidableEq

structure Container where
  name : String
  image : Option String := none
  command : List String := []
  args : List String := []
  env : List EnvVar := []
  resources : Option Requirements := none
  mounts : List VolumeMount := []
  terminationMessagePolicy : Option String := none
  others : OtherMembers := []

structure PodSpec where
  restartPolicy : Option String := none
  initContainers : List Container := []
  containers : List Container := []
  volumes : List Volume := []
  others : OtherMembers := []

def EnvVar.toJson (e : EnvVar) : Json :=
  .object [("name", .string e.name), ("value", .string e.value)]

def VolumeMount.toJson (m : VolumeMount) : Json :=
  .object [("name", .string m.name), ("mountPath", .string m.path)]

def Volume.toJson (v : Volume) : Json :=
  match v.source with
  | .emptyDir => .object [("name", .string v.name), ("emptyDir", .object [])]
  | .secret s =>
    .object [("name", .string v.name), ("secret", .object [("secretName", .string s)])]

namespace Container

def toJson (c : Container) : Json :=
  objectWith [("name", some (.string c.name)), ("image", c.image.map .string),
    listMember "command" .string c.command, listMember "args" .string c.args,
    listMember "env" EnvVar.toJson c.env, ("resources", c.resources.map Requirements.toJson),
    listMember "volumeMounts" VolumeMount.toJson c.mounts,
    ("terminationMessagePolicy", c.terminationMessagePolicy.map .string)] c.others

/-- A container of which only the name is looked at. -/
def ofJson (v : Json) : Container where
  name := (stringMember? "name" v).getD ""
  others := membersExcept ["name"] v

end Container

namespace PodSpec

def toJson (s : PodSpec) : Json :=
  objectWith [("restartPolicy", s.restartPolicy.map .string),
    listMember "initContainers" Container.toJson s.initContainers,
    ("containers", some (.array (s.containers.map Container.toJson))),
    listMember "volumes" Volume.toJson s.volumes] s.others

def ofJson (v : Json) : PodSpec where
  containers := (itemsOf (v.get? "containers")).map Container.ofJson
  others := membersExcept ["containers"] v

end PodSpec

/-! ## Status -/

structure Running where
  startedAt : Option Instant
  deriving DecidableEq

structure Terminated where
  exitCode : Int
  reason : Option String
  message : Option String
  startedAt : Option Instant
  finishedAt : Option Instant
  others : OtherMembers := []

structure ContainerState where
  running : Option Running := none
  terminated : Option Terminated := none
  others : OtherMembers := []

structure ContainerStatus where
  name : String
  state : Option ContainerState
  others : OtherMembers := []

structure PodStatus where
  phase : Option String := none
  message : Option String := none
  reason : Option String := none
  containers : Option (List ContainerStatus) := none
  others : OtherMembers := []

def instantMember? (name : String) (v : Json) : Option Instant :=
  (stringMember? name v).bind fun s => (Rfc3339.read s).toOption

/-- An instant cut off to whole seconds. -/
def secondsJson (t : Instant) : Json := .string (Rfc3339.writeSeconds t)

namespace Running

def ofJson (v : Json) : Running := ⟨instantMember? "startedAt" v⟩

def toJson (r : Running) : Json :=
  Json.objectOf [("startedAt", r.startedAt.map secondsJson)]

end Running

namespace Terminated

def ofJson (v : Json) : Terminated where
  exitCode := match v.get? "exitCode" with
    | some (.number (.whole i)) => i
    | _ => 0
  reason := stringMember? "reason" v
  message := stringMember? "message" v
  startedAt := instantMember? "startedAt" v
  finishedAt := instantMember? "finishedAt" v
  others := membersExcept ["exitCode", "reason", "message", "startedAt", "finishedAt"] v

def toJson (t : Terminated) : Json :=
  objectWith [("exitCode", some (.int t.exitCode)), ("reason", t.reason.map .string),
    ("message", t.message.map .string), ("startedAt", t.startedAt.map secondsJson),
    ("finishedAt", t.finishedAt.map secondsJson)] t.others

end Terminated

namespace ContainerState

def ofJson (v : Json) : ContainerState where
  running := (v.get? "running").map Running.ofJson
  terminated := (v.get? "terminated").map Terminated.ofJson
  others := membersExcept ["running", "terminated"] v

def toJson (s : ContainerState) : Json :=
  objectWith [("running", s.running.map Running.toJson),
    ("terminated", s.terminated.map Terminated.toJson)] s.others

end ContainerState

namespace ContainerStatus

def ofJson (v : Json) : ContainerStatus where
  name := (stringMember? "name" v).getD ""
  state := (v.get? "state").map ContainerState.ofJson
  others := membersExcept ["name", "state"] v

def toJson (s : ContainerStatus) : Json :=
  objectWith [("name", some (.string s.name)), ("state", s.state.map ContainerState.toJson)] s.others

end ContainerStatus

namespace PodStatus

def ofJson (v : Json) : PodStatus where
  phase := stringMember? "phase" v
  message := stringMember? "message" v
  reason := stringMember? "reason" v
  containers := (v.get? "containerStatuses").map fun l =>
    (itemsOf (some l)).map ContainerStatus.ofJson
  others := membersExcept ["phase", "message", "reason", "containerStatuses"] v

def toJson (s : PodStatus) : Json :=
  objectWith [("phase", s.phase.map .string), ("message", s.message.map .string),
    ("reason", s.reason.map .string),
    ("containerStatuses", s.containers.map fun l => .array (l.map ContainerStatus.toJson))] s.others

def decoder : Json.Decoder PodStatus := .map ofJson Schema.podStatus.decoder

end PodStatus

/-! ## Objects -/

structure Pod where
  metadata : Metadata := {}
  spec : Option PodSpec := none
  status : Option PodStatus := none

namespace Pod

def ofJson (v : Json) : Pod where
  metadata := ((v.get? "metadata").map Metadata.ofJson).getD {}
  spec := (v.get? "spec").map PodSpec.ofJson
  status := (v.get? "status").map PodStatus.ofJson

def toJson (p : Pod) : Json :=
  Json.objectOf [("apiVersion", some (.string "v1")), ("kind", some (.string "Pod")),
    ("metadata", some p.metadata.toJson), ("spec", p.spec.map PodSpec.toJson),
    ("status", p.status.map PodStatus.toJson)]

def decoder : Json.Decoder Pod := .map ofJson Schema.pod.decoder

def name (p : Pod) : String := p.metadata.nameOrEmpty

def containerNames (p : Pod) : List String :=
  match p.spec with
  | none => []
  | some s => s.containers.map (·.name)

/-- The states of the pod's containers as last reported. -/
def containerStatuses (p : Pod) : List ContainerStatus :=
  (p.status.bind (·.containers)).getD []

/-- The phase that the pod's status names. -/
def phaseText (p : Pod) : Option String :=
  p.status.bind (·.phase)

def label? (p : Pod) (key : String) : Option String :=
  p.metadata.labels.bind fun t => t.get? key

end Pod

structure Secret where
  metadata : Metadata := {}
  others : OtherMembers := []

namespace Secret

def ofJson (v : Json) : Secret where
  metadata := ((v.get? "metadata").map Metadata.ofJson).getD {}
  others := membersExcept ["apiVersion", "kind", "metadata"] v

def toJson (s : Secret) : Json :=
  objectWith [("apiVersion", some (.string "v1")), ("kind", some (.string "Secret")),
    ("metadata", some s.metadata.toJson)] s.others

def decoder : Json.Decoder Secret := .map ofJson Schema.secret.decoder

def name (s : Secret) : String := s.metadata.nameOrEmpty

end Secret

end StagedTests
