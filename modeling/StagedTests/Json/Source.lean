import StagedTests.Json.Basic

/-!
# Texts being read

A text is read into a tree that keeps what is wrong with the text where it stands, so that the
reading of a value finds the first problem in the order of the document: a text may be broken off
behind a member that is refused anyway, and a value that nobody asks for may be one that could not
be read. The tree says nothing about what is expected; that is the business of decoding. All
places are counted in bytes from the beginning of the text.
-/

namespace StagedTests.Json

/-- How a text fails to be JSON: it ends inside of something, or it goes on with what cannot stand
there. -/
inductive Fault
  | endedInValue
  | endedInList
  | endedInObject
  | endedInString
  | expectedColon
  | expectedListEnd
  | expectedObjectEnd
  | expectedWord
  | expectedValue
  | invalidEscape
  | invalidNumber
  | numberOutOfRange
  | controlCharacter
  | nameNotString
  | loneSurrogate
  | endOfHexEscape
  | trailingComma
  | trailingCharacters
  | tooDeep
  deriving DecidableEq, Repr

namespace Fault

def isEnd : Fault → Bool
  | .endedInValue | .endedInList | .endedInObject | .endedInString => true
  | _ => false

def message : Fault → String
  | .endedInValue => "EOF while parsing a value"
  | .endedInList => "EOF while parsing a list"
  | .endedInObject => "EOF while parsing an object"
  | .endedInString => "EOF while parsing a string"
  | .expectedColon => "expected `:`"
  | .expectedListEnd => "expected `,` or `]`"
  | .expectedObjectEnd => "expected `,` or `\x7d`"
  | .expectedWord => "expected ident"
  | .expectedValue => "expected value"
  | .invalidEscape => "invalid escape"
  | .invalidNumber => "invalid number"
  | .numberOutOfRange => "number out of range"
  | .controlCharacter => "control character (\\u0000-\\u001F) found while parsing a string"
  | .nameNotString => "key must be a string"
  | .loneSurrogate => "lone leading surrogate in hex escape"
  | .endOfHexEscape => "unexpected end of hex escape"
  | .trailingComma => "trailing comma"
  | .trailingCharacters => "trailing characters"
  | .tooDeep => "recursion limit exceeded"

end Fault

/-- Something noticed when so many bytes of a text have been read. -/
structure Placed (α : Type) where
  what : α
  place : Nat
  deriving DecidableEq, Repr, Inhabited

/-- Where a value stands: the place where it begins, the place behind it, the place behind the
gaps that follow it, and by how many brackets it is enclosed, its own included. -/
structure Span where
  start : Nat := 0
  stop : Nat := 0
  next : Nat := 0
  depth : Nat := 0
  deriving DecidableEq, Repr, Inhabited

/-- What a value that cannot be read begins as: the word for null, another word or a number, or
anything else. Of the first two it is known that they are no string. -/
inductive Opening
  | null
  | bare
  | other
  deriving DecidableEq, Repr

/-- A value as it stands in a text. An array or object has a place that is reached by looking for
its end right behind its opening bracket; where its end is missing it says what stands there. A
value that cannot be read says what it begins as, and what is found on reading it and what on
skipping it. The name of a member is itself a source, since anything may stand there. -/
inductive Source
  | null (span : Span)
  | bool (span : Span) (b : Bool)
  | number (span : Span) (n : Number)
  | string (span : Span) (s : String)
  | array (span : Span) (inner : Nat) (items : List Source) (missingEnd : Option (Placed Fault))
  | object (span : Span) (inner : Nat) (members : List (Source × Source))
      (missingEnd : Option (Placed Fault))
  | unreadable (span : Span) (opening : Opening) (read : Placed Fault)
      (skipped : Option (Placed Fault))
  deriving Inhabited

/-- How deeply the values of a text may be nested that are read whatever they are. -/
def depthLimit : Nat := 128

namespace Source

def span : Source → Span
  | .null p | .bool p _ | .number p _ | .string p _ | .array p _ _ _ | .object p _ _ _
  | .unreadable p _ _ _ => p

/-- The value with the place of what follows it. -/
def before (next : Nat) : Source → Source
  | .null p => .null { p with next }
  | .bool p b => .bool { p with next } b
  | .number p n => .number { p with next } n
  | .string p s => .string { p with next } s
  | .array p i items e => .array { p with next } i items e
  | .object p i members e => .object { p with next } i members e
  | .unreadable p o f g => .unreadable { p with next } o f g

/-- A text that breaks off or goes wrong here, whether the value is read or skipped. -/
def broken (f : Placed Fault) : Source := .unreadable {} .other f (some f)

/-- What is found where a string must stand, if it is not a string that can be read. -/
def stringFault : Source → Placed Fault
  | .unreadable _ .other f _ => f
  | s => ⟨.expectedValue, s.span.start + 1⟩

/-- The first fault found on skipping a name. -/
def skipName : Source → Option (Placed Fault)
  | .string _ _ => none
  | .unreadable _ .other _ f => f
  | s => some s.stringFault

mutual

/-- The first fault found on skipping a value. -/
def skip : Source → Option (Placed Fault)
  | .array _ _ items e => (skipItems items).or e
  | .object _ _ members e => (skipMembers members).or e
  | .unreadable _ _ _ f => f
  | _ => none

def skipItems : List Source → Option (Placed Fault)
  | [] => none
  | v :: rest => v.skip.or (skipItems rest)

def skipMembers : List (Source × Source) → Option (Placed Fault)
  | [] => none
  | (name, v) :: rest => (name.skipName.or v.skip).or (skipMembers rest)

end

/-- The fault of an array or object that is nested too deeply. -/
def depthFault (p : Span) : Option (Placed Fault) :=
  if p.depth < depthLimit then none else some ⟨.tooDeep, p.start + 1⟩

def orElse {α : Type} : Option (Placed Fault) → Except (Placed Fault) α → Except (Placed Fault) α
  | some f, _ => .error f
  | none, r => r

mutual

/-- The value that a text holds, or the first fault found on reading it whatever it is. -/
def toJson : Source → Except (Placed Fault) Json
  | .null _ => .ok .null
  | .bool _ b => .ok (.bool b)
  | .number _ n => .ok (.number n)
  | .string _ s => .ok (.string s)
  | .array p _ items e => do
    orElse (depthFault p) (.ok ())
    let items ← itemsToJson items
    orElse e (.ok (.array items))
  | .object p _ members e => do
    orElse (depthFault p) (.ok ())
    let members ← membersToJson members
    orElse e (.ok (.object members))
  | .unreadable _ _ f _ => .error f

def itemsToJson : List Source → Except (Placed Fault) (List Json)
  | [] => .ok []
  | v :: rest => do
    let v ← v.toJson
    let rest ← itemsToJson rest
    .ok (v :: rest)

def membersToJson : List (Source × Source) → Except (Placed Fault) (List (String × Json))
  | [] => .ok []
  | (.string _ k, v) :: rest => do
    let v ← v.toJson
    let rest ← membersToJson rest
    .ok ((k, v) :: rest)
  | (name, _) :: _ => .error name.stringFault

end

/-- The first fault found on reading a value of any shape. -/
def fault? (s : Source) : Option (Placed Fault) :=
  match s.toJson with
  | .ok _ => none
  | .error f => some f

mutual

/-- A value as a source without faults. -/
def ofJson : Json → Source
  | .null => .null {}
  | .bool b => .bool {} b
  | .number n => .number {} n
  | .string s => .string {} s
  | .array items => .array {} 0 (ofItems items) none
  | .object members => .object {} 0 (ofMembers members) none

def ofItems : List Json → List Source
  | [] => []
  | v :: rest => ofJson v :: ofItems rest

def ofMembers : List (String × Json) → List (Source × Source)
  | [] => []
  | (k, v) :: rest => (.string {} k, ofJson v) :: ofMembers rest

end

end Source

end StagedTests.Json
