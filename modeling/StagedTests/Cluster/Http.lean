import StagedTests.Cluster.Address
import StagedTests.Cluster.Response

/-!
# Clients over HTTP

The operations on pods and secrets as requests to the interface of a cluster.
-/

namespace StagedTests.Http

structure Request where
  method : String
  address : Address
  body : Option Json := none

/-- Something that answers requests. -/
abbrev Service (σ : Type) := Request → σ → Response × σ

/-- Why a request cannot be built. -/
inductive RequestFault
  | address (fault : AddressFault)
  | noName
  deriving DecidableEq

def RequestFault.message : RequestFault → String
  | .address fault => s!"Failed to build request: failed to build request: {fault.message}"
  | .noName => "Failed to build request: failed to validate request: A non-empty name is required"

variable {σ α : Type}

/-- Sends a request, unless it has no address. -/
def send (service : Service σ) (method target : String) (body : Option Json) (s : σ) :
    Except RequestFault Response × σ :=
  match Address.read target with
  | .error f => (.error (.address f), s)
  | .ok address =>
    let (response, s) := service ⟨method, address, body⟩ s
    (.ok response, s)

/-- What comes back about an object: a refusal, or what is read from the response. -/
def answer (kind : ObjectKind) (name : String) (read : Response → Except String α) :
    Except RequestFault Response → Except ClientError α
  | .error f => .error (.api f.message)
  | .ok response =>
    if response.refuses then .error ((Refusal.ofResponse response).toError kind name)
    else (read response).mapError .api

/-- Does something about a named object. -/
def named (name : String) (op : σ → Reply α × σ) (s : σ) : Reply α × σ :=
  if name = "" then (.error (.api RequestFault.noName.message), s) else op s

/-- The objects of a kind in a namespace. -/
def collection (inNamespace : String) (kind : ObjectKind) : String :=
  s!"/api/v1/namespaces/{inNamespace}/{kind.name}s"

def member (inNamespace : String) (kind : ObjectKind) (name : String) : String :=
  let all := collection inNamespace kind
  s!"{all}/{name}"

def withParameters (target : String) (parameters : List (String × String)) : String :=
  target ++ "?" ++ Text.Form.appended parameters

def create (service : Service σ) (inNamespace : String) (kind : ObjectKind) (name : String)
    (object : Json) (d : Json.Decoder α) (s : σ) : Reply α × σ :=
  let target := withParameters (collection inNamespace kind) []
  let (response, s) := send service "POST" target (some object) s
  (.answered (answer kind name (·.read d) response), s)

def get (service : Service σ) (inNamespace : String) (kind : ObjectKind) (name : String)
    (d : Json.Decoder α) : σ → Reply α × σ :=
  named name fun s =>
    let (response, s) := send service "GET" (member inNamespace kind name) none s
    (.answered (answer kind name (·.read d) response), s)

def delete (service : Service σ) (inNamespace : String) (kind : ObjectKind) (name : String)
    (d : Json.Decoder α) : σ → Reply Unit × σ :=
  named name fun s =>
    let target := withParameters (member inNamespace kind name) []
    let (response, s) := send service "DELETE" target (some (.object [])) s
    (.answered (answer kind name (·.readDeleted d) response), s)

def deletePods (service : Service σ) (inNamespace selector : String) (s : σ) : Reply Unit × σ :=
  let target := withParameters (collection inNamespace .pod) [("labelSelector", selector)]
  let (response, s) := send service "DELETE" target none s
  (.answered (answer .pod selector (·.readDeleted podList) response), s)

/-- A command is run over a connection that the response must agree to. Here none does. -/
def refuseUpgrade : Except RequestFault Response → ClientError
  | .error f => .api f.message
  | .ok response =>
    let why := if response.status = 101 then "upgrade header was not set to websocket"
      else "failed to switch protocol: " ++ statusText response.status
    .api s!"failed to upgrade to a WebSocket connection: {why}"

/-- Runs a command. The name of the pod may be empty here. -/
def execute (service : Service σ) (inNamespace pod container : String) (command : List String)
    (s : σ) : Reply CommandOutput × σ :=
  let target := withParameters (member inNamespace .pod pod ++ "/exec")
    (("stdout", "true") :: ("container", container) :: command.map ("command", ·))
  let (response, s) := send service "GET" target none s
  (.error (refuseUpgrade response), s)

def podClient (inNamespace : String) (service : Service σ) : PodClient σ where
  create pod := create service inNamespace .pod pod.name pod.toJson Pod.decoder
  get name := get service inNamespace .pod name Pod.decoder
  delete name := delete service inNamespace .pod name Pod.decoder
  deleteCollection := deletePods service inNamespace
  exec := execute service inNamespace

def secretClient (inNamespace : String) (service : Service σ) : SecretClient σ where
  get name := get service inNamespace .secret name Secret.decoder
  create secret := create service inNamespace .secret secret.name secret.toJson Secret.decoder
  delete name := delete service inNamespace .secret name Secret.decoder

/-- A client in words. -/
def describe (client inNamespace : String) : String :=
  let quoted := Text.quoted inNamespace
  s!"{client} \x7b namespace: {quoted}, .. \x7d"

/-- The two clients of a namespace in words. -/
def descriptions (inNamespace : String) : List String :=
  [describe "KubePodClient" inNamespace, describe "KubeSecretClient" inNamespace]

end StagedTests.Http
