import StagedTests.Pattern

/-!
# Log filters

A filter lists directives, each with the greatest level that it lets through for targets with a
given beginning, and perhaps only for events that have a given field. A directive may instead ask
for a span or for the value of a field; such a directive lets no event through by itself. Of the
directives that fit an event the most specific one decides: the one with the longest target, then
one with a field.
-/

namespace StagedTests

/-- Levels of events, from the gravest on. -/
inductive LogLevel
  | error
  | warn
  | info
  | debug
  | trace
  deriving DecidableEq

namespace LogLevel

def all : List LogLevel := [.error, .warn, .info, .debug, .trace]

def name : LogLevel → String
  | .error => "ERROR"
  | .warn => "WARN"
  | .info => "INFO"
  | .debug => "DEBUG"
  | .trace => "TRACE"

def rank : LogLevel → Nat
  | .error => 1
  | .warn => 2
  | .info => 3
  | .debug => 4
  | .trace => 5

end LogLevel

/-- What a directive says of a field: its name, and the value it must have if one is asked for. -/
structure FieldPattern where
  name : List Char
  value : Option (List Char)
  deriving DecidableEq

/-- Lets through levels up to a rank. No level has rank 0. -/
structure LogDirective where
  rank : Nat := 5
  target : Option (List Char) := none
  span : Option (List Char) := none
  field : Option FieldPattern := none
  deriving DecidableEq

/-! ## Directives as they are written -/

namespace LogDirective

/-- A natural number in decimal digits, a plus sign in front allowed. -/
def number? (word : List Char) : Option Nat :=
  let digits := match word with
    | '+' :: rest => rest
    | _ => word
  if digits ≠ [] ∧ digits.all Char.isDigit then
    some (digits.foldl (fun n c => 10 * n + (c.toNat - '0'.toNat)) 0)
  else none

/-- The rank that a word or a number stands for. -/
def rankOf? (word : List Char) : Option Nat :=
  match number? word with
  | some n => if n ≤ 5 then some n else none
  | none =>
    let upper := String.ofList (word.map Char.toUpper)
    if upper = "OFF" then some 0
    else (LogLevel.all.find? fun l => l.name = upper).map (·.rank)

/-- The digits of a decimal fraction, perhaps with an exponent of ten. -/
def isFraction (text : List Char) : Bool :=
  let isExponentMark := fun c : Char => c = 'e' || c = 'E'
  let digits := (text.takeWhile fun c => !isExponentMark c).filter (· ≠ '.')
  let points := (text.takeWhile fun c => !isExponentMark c).count '.'
  let exponent := match text.dropWhile fun c => !isExponentMark c with
    | [] => ['0']
    | _ :: '+' :: rest => rest
    | _ :: '-' :: rest => rest
    | _ :: rest => rest
  points ≤ 1 && digits ≠ [] && digits.all Char.isDigit &&
    exponent ≠ [] && exponent.all Char.isDigit

/-- A number with a plus sign in front, which can also be infinite or none. -/
def isPlusNumber : List Char → Bool
  | '+' :: rest =>
    ["inf", "infinity", "nan"].contains (String.ofList (rest.map Char.toLower)) || isFraction rest
  | _ => false

/-- Whether a field can be asked to have this value: it is a truth value, a number or a pattern. Of
the first two only numbers with a plus sign are not patterns too. -/
def isValue (text : List Char) : Bool :=
  isPlusNumber text || Pattern.isPattern text

/-- A field's name, and a value behind an equals sign. -/
def fieldPattern? (text : List Char) : Option FieldPattern :=
  let name := text.takeWhile (· ≠ '=')
  match text.dropWhile (· ≠ '=') with
  | [] => if text = [] then none else some ⟨name, none⟩
  | _ :: rest =>
    let value := rest.takeWhile (· ≠ '=')
    if isValue value then some ⟨name, some value⟩ else none

/-- Why a directive cannot be had: its text is none, or a part of it begins or ends inside a
character. -/
inductive Fault
  | unreadable
  | insideCharacter
  deriving DecidableEq

/-- A result that is missing because the text is no directive. -/
def readable {α : Type} : Option α → Except Fault α
  | some a => .ok a
  | none => .error .unreadable

/-- What is being read, and the place where it begins: a level or a target, a span, a field, what
follows a field, what follows all of them, or a level. -/
inductive Part
  | first
  | word (start : Nat)
  | span (start : Nat)
  | field (start : Nat)
  | afterField
  | afterSpan
  | level (start : Nat)

/-- The characters from a place on, counted in bytes, unless the place is inside one. -/
def dropBytes? : Nat → List Char → Option (List Char)
  | 0, cs => some cs
  | _, [] => none
  | n + 1, c :: cs => if c.utf8Size ≤ n + 1 then dropBytes? (n + 1 - c.utf8Size) cs else none

/-- The characters before a place, counted in bytes, unless the place is inside one. -/
def takeBytes? : Nat → List Char → Option (List Char)
  | 0, _ => some []
  | _, [] => none
  | n + 1, c :: cs =>
    if c.utf8Size ≤ n + 1 then (takeBytes? (n + 1 - c.utf8Size) cs).map (c :: ·) else none

def behind (i : Nat) (text : List Char) : Except Fault (List Char) :=
  ((dropBytes? i text).map .ok).getD (.error .insideCharacter)

def between (i j : Nat) (text : List Char) : Except Fault (List Char) :=
  (((dropBytes? i text).bind (takeBytes? (j - i))).map .ok).getD (.error .insideCharacter)

/-- A character that may begin a target. -/
def isTargetStart (c : Char) : Bool :=
  c == '-' || c == ':' || c == '_' || Text.isAlphanumeric c

/-- Takes in one character, which stands at the given place. -/
def step (text : List Char) (place : Nat) (c : Char) :
    Part × LogDirective → Except Fault (Part × LogDirective)
  | (.first, d) =>
    if c = '[' then .ok (.span (place + 1), d)
    else if isTargetStart c then .ok (.word place, d)
    else .error .unreadable
  | (.word start, d) => do
    if c = '=' then
      return (.level (place + 1), { d with target := some (← between start place text) })
    else if c = '[' then
      return (.span (place + 1), { d with target := some (← between start place text) })
    else return (.word start, d)
  | (.span start, d) => do
    if c = ']' then return (.afterSpan, { d with span := some (← between start place text) })
    else if c = '\x7b' then
      let name ← between start place text
      return (.field (place + 1), { d with span := if name = [] then none else some name })
    else return (.span start, d)
  | (.field start, d) => do
    if c = '\x7d' then
      let f ← readable (fieldPattern? (← between start place text))
      return (.afterField, { d with field := some f })
    else return (.field start, d)
  | (.afterField, d) => if c = ']' then .ok (.afterSpan, d) else .error .unreadable
  | (.afterSpan, d) => if c = '=' then .ok (.level (place + 1), d) else .error .unreadable
  | (.level start, d) => .ok (.level start, d)

/-- Takes in the rest of the characters from a place on. -/
def steps (text : List Char) :
    Nat → List Char → Part × LogDirective → Except Fault (Part × LogDirective)
  | _, [], s => .ok s
  | place, c :: cs, s => do steps text (place + c.utf8Size) cs (← step text place c s)

/-- A level that may be left out. -/
def levelOf? (word : List Char) : Option Nat :=
  if word = [] then some 5 else rankOf? word

/-- What a directive is when its text has ended. A word alone is a level, or else a target. -/
def finish (text : List Char) : Part × LogDirective → Except Fault LogDirective
  | (.word start, d) => do
    let word ← behind start text
    match levelOf? word with
    | some rank => return { d with rank }
    | none => return { d with target := some word }
  | (.level start, d) => do
    let rank ← readable (levelOf? (← behind start text))
    return { d with rank }
  | (.afterSpan, d) => .ok d
  | _ => .error .unreadable

/-- One directive. Its parts are found in the text without the white space around it, but their
places are then counted from the beginning of the text as it is written. -/
def ofText (text : List Char) : Except Fault LogDirective := do
  finish text (← steps text 0 (Text.trimList Text.isBlank text) (.first, {}))

/-- Whether the directive decides on events. -/
def isStatic (d : LogDirective) : Bool :=
  d.span.isNone && (d.field.bind (·.value)).isNone

/-- Whether the directive fits an event of a target with fields of the given names. -/
def fits (d : LogDirective) (target : String) (fields : List String) : Bool :=
  (d.target.all fun t => t.isPrefixOf target.toList) &&
    d.field.all fun f => fields.contains (String.ofList f.name)

/-- What makes a directive specific: how long its target is, then the name of its field. -/
def specificity (d : LogDirective) : Nat × Option String :=
  (match d.target with
    | none => 0
    | some t => t.foldl (fun n c => n + c.utf8Size) 1,
   d.field.map fun f => String.ofList f.name)

/-- The order of field names, where no field comes first. -/
def fieldLe : Option String → Option String → Bool
  | none, _ => true
  | some _, none => false
  | some a, some b => a ≤ b

/-- Whether one directive is at least as specific as another. -/
def atLeast (a b : LogDirective) : Bool :=
  let (lengthA, fieldA) := a.specificity
  let (lengthB, fieldB) := b.specificity
  lengthB < lengthA || (lengthB = lengthA && fieldLe fieldB fieldA)

/-- Of two directives that fit, the more specific or else the later one. -/
def choose (best : Option LogDirective) (d : LogDirective) : Option LogDirective :=
  match best with
  | none => some d
  | some b => if d.atLeast b then some d else some b

end LogDirective

abbrev LogFilter := List LogDirective

namespace LogFilter

/-- The words between commas, without empty ones. -/
def words (s : String) : List (List Char) :=
  ((s.splitOn ",").map fun w => w.toList).filter (· ≠ [])

/-- The directives in their order; the first fault decides. -/
def ofText (s : String) : Except LogDirective.Fault LogFilter :=
  (words s).mapM LogDirective.ofText

def standardText : String := "warn,multistage=info"

/-- The filter that the environment asks for. A text that is no filter counts as none given, but
there is none for a text that cannot be cut where its parts begin or end. -/
def ofEnvironment? (given : Option String) : Option LogFilter :=
  let standard := (ofText standardText).toOption
  match given.map ofText with
  | some (.ok f) => some f
  | some (.error .insideCharacter) => none
  | _ => standard

/-- Whether an event passes that has a level, a target and fields of the given names. -/
def passes (f : LogFilter) (level : LogLevel) (target : String) (fields : List String) : Bool :=
  match (f.filter fun d => d.isStatic && d.fits target fields).foldl LogDirective.choose none with
  | some d => level.rank ≤ d.rank
  | none => false

end LogFilter

end StagedTests
