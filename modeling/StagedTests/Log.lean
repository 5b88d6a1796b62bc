import StagedTests.Json.Decode
import StagedTests.Json.Printer
import StagedTests.Log.Filter

/-!
# Logging

Events have a level and the target that they come from, and a filter says which of them are
printed. The first subscriber that is installed stays.
-/

namespace StagedTests

inductive LogFormat
  | pretty
  | json
  deriving DecidableEq

namespace LogFormat

instance : Inhabited LogFormat := ⟨.pretty⟩

def name : LogFormat → String
  | .pretty => "pretty"
  | .json => "json"

def decoder : Json.Decoder LogFormat :=
  .enumeration ([pretty, json].map fun f => (f.name, f))

def toJson (f : LogFormat) : Json := .string f.name

/-- The format that a user names, in either case of ASCII letters, or a word of refusal. -/
def ofUserText (s : String) : Except String LogFormat :=
  let lower := String.ofList (s.toList.map Char.toLower)
  if lower = "pretty" ∨ lower = "text" then .ok .pretty
  else if lower = "json" then .ok .json
  else .error s!"unknown log format: {lower}"

end LogFormat

/-! ## Events -/

structure LogEvent where
  level : LogLevel
  target : String
  message : String
  fields : List (String × Json) := []

namespace LogEvent

def fieldNames (e : LogEvent) : List String :=
  "message" :: e.fields.map (·.1)

def fieldText : Json → String
  | .string s => s
  | v => v.compact

def toLine (e : LogEvent) : String :=
  e.level.name ++ " " ++ e.target ++ ": " ++ e.message ++
    String.join (e.fields.map fun f => " " ++ f.1 ++ "=" ++ fieldText f.2)

def toJson (e : LogEvent) : Json :=
  .object [("level", .string e.level.name), ("target", .string e.target),
    ("fields", .object (("message", .string e.message) :: e.fields))]

end LogEvent

/-- Where the events go, and what has come through so far. -/
structure Subscriber where
  format : LogFormat
  filter : LogFilter
  printed : List LogEvent

/-- What a process has installed, as long as it goes on. -/
inductive Logging
  | bare
  | installed (s : Subscriber)
  | ended

namespace Logging

/-- The module that installs subscribers, as a target. -/
def ownTarget : String := "multistage::observability"

def alreadyInstalled : String :=
  "failed to install tracing subscriber: a global default trace dispatcher has already been set"

def printed : Logging → List LogEvent
  | .installed s => s.printed
  | _ => []

def emit : Logging → LogEvent → Logging
  | .installed s, e =>
    if s.filter.passes e.level e.target e.fieldNames then
      .installed { s with printed := s.printed ++ [e] }
    else .installed s
  | l, _ => l

/-- Installs a subscriber unless there is one. A filter that cannot be had ends the process. -/
def tryInstall (environment : Option String) (format : LogFormat) :
    Logging → Except String Unit × Logging
  | .bare =>
    match LogFilter.ofEnvironment? environment with
    | some f => (.ok (), .installed ⟨format, f, []⟩)
    | none => (.ok (), .ended)
  | .installed s => (.error alreadyInstalled, .installed s)
  | .ended => (.ok (), .ended)

/-- Installs a subscriber, or says that there is one. -/
def install (environment : Option String) (format : LogFormat) (l : Logging) : Logging :=
  match l.tryInstall environment format with
  | (.ok _, l) => l
  | (.error reason, l) => l.emit ⟨.debug, ownTarget, reason, []⟩

end Logging

end StagedTests
