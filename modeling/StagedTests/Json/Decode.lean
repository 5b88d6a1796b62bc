import StagedTests.Json.Reader
import StagedTests.Number.Decimal
import StagedTests.Text.Quoted

/-!
# Decoding

A `Decoder` reads a value of some type from a source, and reports the first problem it meets. A
record is described by its `Fields`, from which both its written forms are read: an object, whose
members are taken in the order of the document, or an array of the fields in their declared order.
A problem comes with the place of the text at which it is noticed.
A sum whose cases carry fields is told apart by a tag among the members; there all other members
are first read whatever they are, and only then decoded.
-/

namespace StagedTests.Json

/-- What a value is found to be. -/
inductive Found
  | null
  | bool (b : Bool)
  | number (n : Number)
  | string (s : String)
  | sequence
  | map
  deriving DecidableEq

def Found.describe : Found → String
  | .null => "null"
  | .bool true => "boolean `true`"
  | .bool false => "boolean `false`"
  | .number (.whole i) => s!"integer `{i}`"
  | .number (.real x) => s!"floating point `{x.toText}`"
  | .string s => s!"string {Text.quoted s}"
  | .sequence => "sequence"
  | .map => "map"

/-- Why a text or value is not accepted. -/
inductive Problem
  | text (fault : Fault)
  | missingField (name : String)
  | duplicateField (name : String)
  | unknownVariant (name : String) (known : List String)
  | wrongType (found : Found) (expected : String)
  | wrongValue (found : Found) (expected : String)
  | wrongLength (length : Nat) (expected : String)
  | refused (reason : String)
  deriving DecidableEq

/-- Which of three kinds a problem is of. -/
inductive Category
  | ended
  | malformed
  | data
  deriving DecidableEq

def Problem.category : Problem → Category
  | .text f => if f.isEnd then .ended else .malformed
  | _ => .data

/-- The names that were possible. -/
def describeKnown : List String → String
  | [] => "there are no variants"
  | [a] => s!"expected `{a}`"
  | [a, b] => s!"expected `{a}` or `{b}`"
  | names => "expected one of " ++ ", ".intercalate (names.map fun a => s!"`{a}`")

def Problem.message : Problem → String
  | .text fault => fault.message
  | .missingField name => s!"missing field `{name}`"
  | .duplicateField name => s!"duplicate field `{name}`"
  | .unknownVariant name known => s!"unknown variant `{name}`, {describeKnown known}"
  | .wrongType found expected => s!"invalid type: {found.describe}, expected {expected}"
  | .wrongValue found expected => s!"invalid value: {found.describe}, expected {expected}"
  | .wrongLength length expected => s!"invalid length {length}, expected {expected}"
  | .refused reason => reason

/-- Where a source comes from: a text, a value already read, or the members of a tagged sum. It
decides how an array with too many elements is refused, and how a case without fields is written
as an object. -/
inductive Origin
  | text
  | value
  | members
  deriving DecidableEq

/-- A value, or the first problem and where it is noticed. -/
abbrev Decoded (α : Type) := Except (Placed Problem) α

abbrev Decoder (α : Type) := Origin → Source → Decoded α

def complain {α : Type} (p : Problem) (place : Nat) : Decoded α := .error ⟨p, place⟩

/-- The problem that a fault of the text is. -/
def blame {α : Type} (f : Placed Fault) : Decoded α := complain (.text f.what) f.place

/-- What a source is found to be when something else is expected. -/
def Source.found : Source → Decoded Found
  | .null _ => .ok .null
  | .bool _ b => .ok (.bool b)
  | .number _ n => .ok (.number n)
  | .string _ s => .ok (.string s)
  | .array _ _ _ _ => .ok .sequence
  | .object _ _ _ _ => .ok .map
  | .unreadable _ _ f _ => blame f

/-- Where a value of the wrong type is noticed: behind it, or before its bracket. -/
def Source.wrongPlace : Source → Nat
  | .array p _ _ _ | .object p _ _ _ => p.start
  | s => s.span.stop

def mistyped {α : Type} (expected : String) (s : Source) : Decoded α := do
  complain (.wrongType (← s.found) expected) s.wrongPlace

def orFault : Option (Placed Fault) → Decoded Unit
  | none => .ok ()
  | some f => blame f

namespace Decoder

variable {α β : Type}

def map (f : α → β) (d : Decoder α) : Decoder β :=
  fun origin s => (d origin s).map f

def string : Decoder String := fun _ s =>
  match s with
  | .string _ t => .ok t
  | s => mistyped "a string" s

/-- A file path, which is a string. -/
def path : Decoder String := fun _ s =>
  match s with
  | .string _ t => .ok t
  | s => mistyped "path string" s

def whole (name : String) (low high : Int) : Decoder Int := fun _ s =>
  match s with
  | .number p (.whole i) =>
    if low ≤ i ∧ i ≤ high then .ok i else complain (.wrongValue (.number (.whole i)) name) p.stop
  | s => mistyped name s

def unsigned64 : Decoder Nat :=
  map Int.toNat (whole "u64" 0 (Int.pow 2 64 - 1))

def signed32 : Decoder Int :=
  whole "i32" (-Int.pow 2 31) (Int.pow 2 31 - 1)

/-- A binary floating point number. A whole number is rounded to one. -/
def real : Decoder Binary64 := fun _ s =>
  match s with
  | .number _ (.real x) => .ok x
  | .number _ (.whole i) => .ok ((Binary64.ofInt? i).getD .zero)
  | s => mistyped "f64" s

/-- A value that may be null. What begins as null is read as null. -/
def nullable (d : Decoder α) : Decoder (Option α) := fun origin s =>
  match s with
  | .null _ => .ok none
  | .unreadable _ .null f _ => blame f
  | s => (d origin s).map some

/-- The rest of an array, element by element. -/
def elements (d : Decoder α) (origin : Origin) : List Source → Decoded (List α)
  | [] => .ok []
  | s :: rest => do
    let x ← d origin s
    let xs ← elements d origin rest
    .ok (x :: xs)

def list (d : Decoder α) : Decoder (List α) := fun origin s =>
  match s with
  | .array _ _ items e => do
    let xs ← elements d origin items
    orFault e
    .ok xs
  | s => mistyped "a sequence" s

def textSet : Decoder TextSet :=
  map TextSet.ofList (list string)

def entries (d : Decoder α) (origin : Origin) :
    List (Source × Source) → Decoded (List (String × α))
  | [] => .ok []
  | (.string _ k, s) :: rest => do
    let x ← d origin s
    let xs ← entries d origin rest
    .ok ((k, x) :: xs)
  | (name, _) :: _ => blame name.stringFault

/-- An object of any names. The last member of a name wins. -/
def table (d : Decoder α) : Decoder (Table α) := fun origin s =>
  match s with
  | .object _ _ members e => do
    let xs ← entries d origin members
    orFault e
    .ok (Table.ofList xs)
  | s => mistyped "a map" s

/-- The case of a plain enumeration by its name, which ends at a place. -/
def variant (cases : List (String × α)) (name : String) (stop : Nat) : Decoded α :=
  match cases.find? fun c => c.1 = name with
  | some c => .ok c.2
  | none => complain (.unknownVariant name (cases.map (·.1))) stop

/-- The value beside the name of a case that carries none. -/
def nothing : Decoder Unit := fun _ s =>
  match s with
  | .null _ => .ok ()
  | s => mistyped "unit" s

/-- The case that an object names, before the end of the object is looked at. -/
def namedCase (cases : List (String × α)) (origin : Origin) (name v : Source) : Decoded α := do
  match name with
  | .string p name =>
    let x ← variant cases name p.stop
    nothing origin v
    .ok x
  | name => blame name.stringFault

/-- A plain enumeration: the name of a case, or an object of that name alone with null. -/
def enumeration (cases : List (String × α)) : Decoder α := fun origin s =>
  match origin, s with
  | _, .string p name => variant cases name p.stop
  | .text, .object _ _ ((name, v) :: rest) e => do
    let x ← namedCase cases origin name v
    match rest with
    | [] => orFault e
    | _ => blame ⟨.expectedValue, v.span.next⟩
    .ok x
  | .text, .object p _ [] _ => blame ⟨.expectedValue, p.stop⟩
  | .text, s => blame s.stringFault
  | _, .object _ _ [(name, v)] _ => namedCase cases origin name v
  | _, .object _ _ _ _ => complain (.wrongValue .map "map with a single key") s.span.stop
  | _, s => mistyped "string or map" s

end Decoder

/-! ## Records -/

/-- A field of a record: its name, whether an array may end before it, and its decoder as a mere
check. -/
structure Field where
  name : String
  omissible : Bool
  check : Decoder Unit

/-- The fields of a record in their declared order, and how the record that ends at a place is
built from the sources found for them. -/
structure Fields (α : Type) where
  known : List Field
  build : Origin → Nat → (String → Option Source) → Decoded α

namespace Fields

variable {α β : Type}

def nil (x : α) : Fields α := ⟨[], fun _ _ _ => .ok x⟩

def andThen (fs : Fields (α → β)) (name : String) (omissible : Bool) (d : Decoder α)
    (missing : Except Problem α) : Fields β where
  known := fs.known ++ [⟨name, omissible, fun origin s => (d origin s).map fun _ => ()⟩]
  build origin stop find := do
    let f ← fs.build origin stop find
    match find name with
    | some s => (d origin s).map f
    | none => (missing.map f).mapError (⟨·, stop⟩)

def required (fs : Fields (α → β)) (name : String) (d : Decoder α) : Fields β :=
  fs.andThen name false d (.error (.missingField name))

/-- A field that takes a default where it is missing. -/
def defaulted (fs : Fields (α → β)) (name : String) (d : Decoder α) (x : α) : Fields β :=
  fs.andThen name true d (.ok x)

/-- A field that may be null or missing, also at the end of an array. -/
def optional (fs : Fields (Option α → β)) (name : String) (d : Decoder α) : Fields β :=
  fs.defaulted name d.nullable none

/-- A field that may be null, or missing from an object, but not from an array. -/
def nullable (fs : Fields (Option α → β)) (name : String) (d : Decoder α) : Fields β :=
  fs.andThen name false d.nullable (.ok none)

def find? (fs : Fields α) (name : String) : Option Field :=
  fs.known.find? fun f => f.name = name

/-- Takes the members of an object in their order, each known name once. -/
def collect (fs : Fields α) (origin : Origin) :
    List (Source × Source) → List (String × Source) → Decoded (List (String × Source))
  | [], found => .ok found
  | (.string p k, s) :: rest, found =>
    match fs.find? k with
    | none => do
      orFault s.skip
      collect fs origin rest found
    | some f =>
      if found.any fun e => e.1 = k then complain (.duplicateField k) p.next
      else do
        f.check origin s
        collect fs origin rest (found ++ [(k, s)])
  | (name, _) :: _, _ => blame name.stringFault

/-- How many elements a record has in words. -/
def countElements (n : Nat) : String :=
  if n = 1 then "1 element" else s!"{n} elements"

/-- The number of the first field that an array which has ended may not end before. -/
def firstNeeded : List Field → Nat → Option Nat
  | [], _ => none
  | f :: fs, i => if f.omissible then firstNeeded fs (i + 1) else some i

/-- Takes the elements of an array for the fields in their declared order. What is left over is
either elements or fields. -/
def assign (origin : Origin) :
    List Field → List Source → Decoded (List (String × Source) × List Field × List Source)
  | [], items => .ok ([], [], items)
  | fs, [] => .ok ([], fs, [])
  | f :: fs, s :: items => do
    f.check origin s
    let (found, left) ← assign origin fs items
    .ok ((f.name, s) :: found, left)

def tooLong (origin : Origin) (length fields : Nat) : Problem :=
  match origin with
  | .text => .text .trailingCharacters
  | .value => .wrongLength length "fewer elements in array"
  | .members =>
    .wrongLength length s!"{countElements fields} in sequence"

def lookUp (found : List (String × Source)) (name : String) : Option Source :=
  (found.find? fun e => e.1 = name).map (·.2)

/-- The record from the members of an object that ends at a place. -/
def ofMembers (fs : Fields α) (origin : Origin) (stop : Nat) (members : List (Source × Source))
    (missingEnd : Option (Placed Fault)) : Decoded α := do
  let found ← fs.collect origin members []
  orFault missingEnd
  fs.build origin stop (lookUp found)

/-- The record from the elements of an array that ends at a place. -/
def ofItems (fs : Fields α) (what : String) (origin : Origin) (stop : Nat) (items : List Source)
    (missingEnd : Option (Placed Fault)) : Decoded α := do
  let (found, fields, rest) ← assign origin fs.known items
  match rest with
  | [] => orFault missingEnd
  | s :: _ => complain (tooLong origin items.length fs.known.length) (s.span.start + 1)
  match firstNeeded fields items.length with
  | none => fs.build origin stop (lookUp found)
  | some i => complain (.wrongLength i s!"{what} with {countElements fs.known.length}") stop

/-- A record in one of its two written forms. -/
def decoder (fs : Fields α) (what : String) : Decoder α := fun origin s =>
  match s with
  | .object p _ members e => fs.ofMembers origin p.stop members e
  | .array p _ items e => fs.ofItems what origin p.stop items e
  | s => mistyped what s

end Fields

/-! ## Tagged sums -/

/-- A case of a tagged sum: its tag, what its record is called, and the fields beside the tag. -/
structure Case (α : Type) where
  tag : String
  record : String
  fields : Fields α

/-- A case without fields takes no notice of members beside its tag, but has no elements. -/
def Case.decode {α : Type} (c : Case α) (s : Source) : Decoded α :=
  match c.fields.known, s with
  | [], .object p _ _ _ => c.fields.build .members p.stop fun _ => none
  | _, s => c.fields.decoder c.record .members s

namespace Decoder

variable {α : Type}

/-- Reads a value whatever it is. -/
def buffer (origin : Origin) (s : Source) : Decoded Unit :=
  match origin with
  | .text => orFault s.fault?
  | _ => .ok ()

def caseOf (cases : List (Case α)) : Decoder (Case α) := fun _ s =>
  match s with
  | .string p name => variant (cases.map fun c => (c.tag, c)) name p.stop
  | s => mistyped "variant identifier" s

/-- Reads all members of an object, finding its tag on the way. -/
def splitTag (cases : List (Case α)) (key : String) (origin : Origin) :
    List (Source × Source) → Option (Case α) → List (Source × Source) →
      Decoded (Option (Case α) × List (Source × Source))
  | [], c, others => .ok (c, others)
  | (.string p k, s) :: rest, c, others =>
    if k = key then
      match c with
      | some _ => complain (.duplicateField key) p.next
      | none => do
        let c ← caseOf cases origin s
        splitTag cases key origin rest (some c) others
    else do
      buffer origin s
      splitTag cases key origin rest c (others ++ [(.string p k, s)])
  | (name, _) :: _, _, _ => blame name.stringFault

/-- A sum told apart by the member of a given name. -/
def tagged (name key : String) (cases : List (Case α)) : Decoder α := fun origin s =>
  match s with
  | .object p inner members e => do
    let (c, others) ← splitTag cases key origin members none []
    orFault e
    match c with
    | none => complain (.missingField key) p.stop
    | some c => c.decode (.object p inner others none)
  | .array p _ [] e => do
    orFault e
    complain (.missingField key) p.stop
  | .array p inner (tag :: items) e => do
    let c ← caseOf cases origin tag
    items.forM (buffer origin)
    orFault e
    c.decode (.array p inner items none)
  | s => mistyped s!"internally tagged enum {name}" s

end Decoder

/-! ## Whole documents -/

/-- Decodes a text that is one value and nothing else, or says where it goes wrong. Problems with
the value come first. -/
def decodePlaced {α : Type} (d : Decoder α) (text : String) : Decoded α := do
  let document := Document.ofText text
  let x ← d .text document.value
  orFault document.trailing
  .ok x

/-- Decodes a text that is one value and nothing else. -/
def decodeText {α : Type} (d : Decoder α) (text : String) : Except Problem α :=
  (decodePlaced d text).mapError (·.what)

/-- Decodes a value already read, whose members are taken in the order of their names. -/
def decodeValue {α : Type} (d : Decoder α) (v : Json) : Except Problem α :=
  (d .value (Source.ofJson v.sorted)).mapError (·.what)

end StagedTests.Json
