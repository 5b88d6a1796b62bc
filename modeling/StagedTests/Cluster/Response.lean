import StagedTests.Cluster.Client
import StagedTests.Json.Decode

/-!
# Responses

What the responses of a cluster mean. A response that refuses a request says why in an object with
a code of its own: 404 means that there is no such object, 409 that there is one already. Any
other response holds what was asked for; one to a deletion holds the object as it was, or a mere
acknowledgement.
-/

namespace StagedTests.Http

structure Response where
  status : Nat
  text : String

def reasonPhrases : List (Nat × String) :=
  [(100, "Continue"), (101, "Switching Protocols"), (102, "Processing"), (103, "Early Hints"),
    (200, "OK"), (201, "Created"), (202, "Accepted"), (203, "Non Authoritative Information"),
    (204, "No Content"), (205, "Reset Content"), (206, "Partial Content"), (207, "Multi-Status"),
    (208, "Already Reported"), (226, "IM Used"), (300, "Multiple Choices"),
    (301, "Moved Permanently"), (302, "Found"), (303, "See Other"), (304, "Not Modified"),
    (305, "Use Proxy"), (307, "Temporary Redirect"), (308, "Permanent Redirect"),
    (400, "Bad Request"), (401, "Unauthorized"), (402, "Payment Required"), (403, "Forbidden"),
    (404, "Not Found"), (405, "Method Not Allowed"), (406, "Not Acceptable"),
    (407, "Proxy Authentication Required"), (408, "Request Timeout"), (409, "Conflict"),
    (410, "Gone"), (411, "Length Required"), (412, "Precondition Failed"),
    (413, "Payload Too Large"), (414, "URI Too Long"), (415, "Unsupported Media Type"),
    (416, "Range Not Satisfiable"), (417, "Expectation Failed"), (418, "I'm a teapot"),
    (421, "Misdirected Request"), (422, "Unprocessable Entity"), (423, "Locked"),
    (424, "Failed Dependency"), (425, "Too Early"), (426, "Upgrade Required"),
    (428, "Precondition Required"), (429, "Too Many Requests"),
    (431, "Request Header Fields Too Large"), (451, "Unavailable For Legal Reasons"),
    (500, "Internal Server Error"), (501, "Not Implemented"), (502, "Bad Gateway"),
    (503, "Service Unavailable"), (504, "Gateway Timeout"), (505, "HTTP Version Not Supported"),
    (506, "Variant Also Negotiates"), (507, "Insufficient Storage"), (508, "Loop Detected"),
    (510, "Not Extended"), (511, "Network Authentication Required")]

def statusText (status : Nat) : String :=
  let phrase := ((reasonPhrases.find? fun p => p.1 = status).map (·.2)).getD "<unknown status code>"
  s!"{status} {phrase}"

/-! ## Refusals -/

/-- Why a request was refused, as the response says it. -/
structure Refusal where
  status : String
  message : String
  reason : String
  code : Nat
  deriving DecidableEq

namespace Refusal

def fields : Json.Fields Refusal :=
  (Json.Fields.nil Refusal.mk)
    |>.required "status" .string
    |>.defaulted "message" .string ""
    |>.defaulted "reason" .string ""
    |>.required "code" (.map Int.toNat (.whole "u16" 0 65535))

/-- What a response that refuses says. One that does not say it in an object is quoted. -/
def ofResponse (r : Response) : Refusal :=
  match Json.decodeText (fields.decoder "struct ErrorResponse") r.text with
  | .ok refusal => refusal
  | .error _ => ⟨statusText r.status, Text.quoted r.text, "Failed to parse error data", r.status⟩

def describe (e : Refusal) : String :=
  let status := Text.quoted e.status
  let message := Text.quoted e.message
  let reason := Text.quoted e.reason
  s!"ApiError: {e.message}: {e.reason} (ErrorResponse \x7b status: {status}, message: {message}, reason: {reason}, code: {e.code} \x7d)"

/-- What a refusal means for an object. -/
def toError (e : Refusal) (kind : ObjectKind) (name : String) : ClientError :=
  if e.code = 404 then .notFound kind name
  else if e.code = 409 then .alreadyExists kind name
  else .api e.describe

end Refusal

/-! ## Acknowledgements -/

/-- A part of a request that was noticed on the way. -/
structure Cause where
  reason : String
  message : String
  field : String

def Cause.fields : Json.Fields Cause :=
  (Json.Fields.nil Cause.mk)
    |>.defaulted "reason" .string ""
    |>.defaulted "message" .string ""
    |>.defaulted "field" .string ""

/-- What an acknowledgement is about. -/
structure Details where
  name : String
  group : String
  kind : String
  uid : String
  causes : List Cause
  retryAfterSeconds : Nat

def Details.fields : Json.Fields Details :=
  (Json.Fields.nil Details.mk)
    |>.defaulted "name" .string ""
    |>.defaulted "group" .string ""
    |>.defaulted "kind" .string ""
    |>.defaulted "uid" .string ""
    |>.defaulted "causes" (.list (Cause.fields.decoder "struct StatusCause")) []
    |>.defaulted "retryAfterSeconds" (.map Int.toNat (.whole "u32" 0 (Int.pow 2 32 - 1))) 0

structure Acknowledgement where
  success : Option Bool
  code : Nat
  message : String
  reason : String
  details : Option Details

def Acknowledgement.fields : Json.Fields Acknowledgement :=
  (Json.Fields.nil Acknowledgement.mk)
    |>.nullable "status" (.enumeration [("Success", true), ("Failure", false)])
    |>.defaulted "code" (.map Int.toNat (.whole "u16" 0 65535)) 0
    |>.defaulted "message" .string ""
    |>.defaulted "reason" .string ""
    |>.nullable "details" (Details.fields.decoder "struct StatusDetails")

def Acknowledgement.decoder : Json.Decoder Acknowledgement :=
  fields.decoder "struct Status"

/-! ## Lists -/

/-- The pods of a list. All else that the list has is passed over. -/
def podListFields : Json.Fields (List Pod) :=
  (Json.Fields.nil fun (_ : Json) (pods : Option (List Pod)) => pods.getD [])
    |>.defaulted "metadata" Schema.listMeta.decoder .null
    |>.required "items" (Json.Decoder.list Pod.decoder).nullable

def podList : Json.Decoder (List Pod) := fun origin s =>
  match s with
  | .object p _ members e => podListFields.ofMembers origin p.stop members e
  | s => Json.mistyped "struct ObjectList" s

/-! ## Bodies -/

namespace Response

variable {α : Type}

/-- A response refuses if its status says that the client or the cluster has failed. -/
def refuses (r : Response) : Bool := 400 ≤ r.status && r.status < 600

def complaint (r : Response) (what : String) (place : Nat) : String :=
  let (line, column) := Json.lineAndColumn r.text place
  s!"Error deserializing response: {what} at line {line} column {column}"

/-- What is read from the body of a response. -/
def read (d : Json.Decoder α) (r : Response) : Except String α :=
  (Json.decodePlaced d r.text).mapError fun p => r.complaint p.what.message p.place

/-- Reads the body of a response to a deletion. -/
def readDeleted (d : Json.Decoder α) (r : Response) : Except String Unit :=
  match Json.ofText r.text with
  | .error f => .error (r.complaint f.what.message f.place)
  | .ok v =>
    if stringMember? "kind" v = some "Status" then
      (r.read Acknowledgement.decoder).map fun _ => ()
    else (r.read d).map fun _ => ()

end Response

end StagedTests.Http
