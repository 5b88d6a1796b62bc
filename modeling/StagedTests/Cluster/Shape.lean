import StagedTests.Text.Base64
import StagedTests.Time.Rfc3339

/-!
# Shapes of cluster objects

A shape says what the parts of an object look like, and is all that is needed to read one:
`Shape.decoder` brings an object into the form in which it is written back. Members that a record
does not know and optional ones that are null are left out, required ones that are missing or null
take the least value of their shape, and of several members of one name the last one counts.
-/

namespace StagedTests

open Json (Decoded Placed Source complain blame mistyped orFault)

/-- How a member takes part in a record. -/
inductive Presence
  | optional
  | required
  /-- Always of one text, which may be left unsaid. -/
  | fixed (text : String)
  deriving DecidableEq

inductive Shape
  | text
  | flag
  | int32
  | int64
  /-- An instant that keeps its fraction of a second. -/
  | instant
  /-- An instant cut off to whole seconds. -/
  | second
  /-- An instant cut off to microseconds. -/
  | micro
  /-- A whole number or a name. -/
  | numberOrName
  /-- Bytes as a text in base 64. -/
  | bytes
  | anything
  | list (item : Shape)
  /-- An object of any names. -/
  | table (item : Shape)
  | record (name : String) (members : List (String × Presence × Shape))
  deriving Inhabited

namespace Shape

abbrev Members := List (String × Presence × Shape)

mutual

def least : Shape → Json
  | .text | .bytes => .string ""
  | .flag => .bool false
  | .int32 | .int64 | .numberOrName => .int 0
  | .instant | .second => .string "1970-01-01T00:00:00Z"
  | .micro => .string "1970-01-01T00:00:00.000000Z"
  | .anything => .null
  | .list _ => .array []
  | .table _ => .object []
  | .record _ members => .object (leastMembers members)

/-- The members of a record that is empty otherwise. -/
def leastMembers : Members → List (String × Json)
  | [] => []
  | (_, .optional, _) :: rest => leastMembers rest
  | (name, .required, shape) :: rest => (name, shape.least) :: leastMembers rest
  | (name, .fixed word, _) :: rest => (name, .string word) :: leastMembers rest

end

/-- The members of a record by what was found for them. -/
def writeMembers (found : Table Json) : Members → List (String × Json)
  | [] => []
  | (name, presence, shape) :: rest =>
    let value := match presence, (found.get? name).getD .null with
      | .optional, .null => none
      | .required, .null => some shape.least
      | .fixed word, _ => some (.string word)
      | _, v => some v
    match value with
    | some v => (name, v) :: writeMembers found rest
    | none => writeMembers found rest

def asInstant (write : Instant → String) (origin : Json.Origin) (s : Source) : Decoded Json :=
  (Rfc3339.decoder origin s).map fun t => .string (write t)

/-- A whole number of 32 bits or a text. An array or object is entered before it is refused. -/
def asNumberOrName (s : Source) : Decoded Json :=
  match s with
  | .string _ t => .ok (.string t)
  | .number p (.whole i) =>
    if -Int.pow 2 31 ≤ i ∧ i < Int.pow 2 31 then .ok (.int i)
    else complain (.wrongValue (.number (.whole i)) "a 32-bit integer") p.stop
  | .array _ inner _ _ => complain (.wrongType .sequence "IntOrString") inner
  | .object _ inner _ _ => complain (.wrongType .map "IntOrString") inner
  | s => mistyped "IntOrString" s

def asBytes (s : Source) : Decoded Json :=
  match s with
  | .null _ => .ok (.string "")
  | .unreadable _ .null f _ => blame f
  | .string p t =>
    match Base64.flaw? t.toUTF8.data.toList with
    | none => .ok (.string t)
    | some f => complain (.refused f.message) p.stop
  | s => mistyped "a base64-encoded string" s

def readPlain (origin : Json.Origin) (shape : Shape) (s : Source) : Decoded Json :=
  match shape with
  | .text => (Json.Decoder.string origin s).map .string
  | .flag =>
    match s with
    | .bool _ b => .ok (.bool b)
    | s => mistyped "a boolean" s
  | .int32 => (Json.Decoder.signed32 origin s).map .int
  | .int64 => (Json.Decoder.whole "i64" (-Int.pow 2 63) (Int.pow 2 63 - 1) origin s).map .int
  | .instant => asInstant Rfc3339.write origin s
  | .second => asInstant Rfc3339.writeSeconds origin s
  | .micro => asInstant Rfc3339.writeMicros origin s
  | .numberOrName => asNumberOrName s
  | .bytes => asBytes s
  | .anything =>
    match s.toJson with
    | .ok v => .ok v
    | .error f => blame f
  | .list _ => mistyped "a sequence" s
  | .table _ => mistyped "a map" s
  | .record name _ =>
    match s with
    | .array _ inner _ _ => complain (.wrongType .sequence name) inner
    | s => mistyped name s

/-- The text that a member must have, if it must have one, compared with what it has. A refusal is
noticed at the end of the object where the member is its last. -/
def checkFixed (presence : Presence) (v : Json) (s : Source) (last : Bool) : Decoded Unit :=
  match presence, v with
  | .fixed word, .string t =>
    if t = word then .ok ()
    else complain (.wrongValue (.string t) word) (s.span.next + if last then 1 else 0)
  | _, _ => .ok ()

mutual

def read (origin : Json.Origin) : Source → Shape → Decoded Json
  | .array _ _ items e, .list shape => do
    let items ← readItems origin shape items
    orFault e
    .ok (.array items)
  | .object _ _ members e, .table shape => do
    let found ← readEntries origin shape members
    orFault e
    .ok (.object (Table.ofList found).entries)
  | .object _ _ members e, .record _ known => do
    let found ← readMembers origin known e.isNone members
    orFault e
    .ok (.object (writeMembers (Table.ofList found) known))
  | s, shape => readPlain origin shape s

def readItems (origin : Json.Origin) (shape : Shape) : List Source → Decoded (List Json)
  | [] => .ok []
  | s :: rest => do
    let v ← read origin s shape
    let rest ← readItems origin shape rest
    .ok (v :: rest)

def readEntries (origin : Json.Origin) (shape : Shape) :
    List (Source × Source) → Decoded (List (String × Json))
  | [] => .ok []
  | (.string _ k, s) :: rest => do
    let v ← read origin s shape
    let rest ← readEntries origin shape rest
    .ok ((k, v) :: rest)
  | (name, _) :: _ => blame name.stringFault

/-- The members of an object that are known, in the order of the document. Null stands for none,
but for a member that is always of one text. -/
def readMembers (origin : Json.Origin) (known : Members) (closed : Bool) :
    List (Source × Source) → Decoded (List (String × Json))
  | [] => .ok []
  | (.string _ k, s) :: rest => do
    let found ← match known.find? (·.1 = k) with
      | none => do
        orFault s.skip
        pure []
      | some (_, presence, shape) => do
        let v ← match presence, s with
          | .fixed _, s => read origin s shape
          | _, .null _ => .ok .null
          | _, .unreadable _ .null f _ => blame f
          | _, s => read origin s shape
        checkFixed presence v s (rest.isEmpty && closed)
        pure [(k, v)]
    let rest ← readMembers origin known closed rest
    .ok (found ++ rest)
  | (name, _) :: _ => blame name.stringFault

end

/-- Reads an object of a shape into the form in which it is written. -/
def decoder (shape : Shape) : Json.Decoder Json := fun origin s => shape.read origin s

end Shape

end StagedTests
