import StagedTests.Json.Printer
import StagedTests.Log

/-!
# Dry runs

What a dry run would have created is recorded instead: kept in memory in the order of recording,
or logged as it comes. Objects are recorded with their members in the order of the names.
-/

namespace StagedTests

structure RecordedObject where
  kind : String
  name : String
  object : Json

namespace RecordedObject

def toJson (r : RecordedObject) : Json :=
  .object [("kind", .string r.kind), ("name", .string r.name), ("object", r.object)]

end RecordedObject

abbrev DryRecord := List RecordedObject

namespace DryRecord

def add (d : DryRecord) (kind name : String) (object : Json) : DryRecord :=
  d ++ [⟨kind, name, object.sorted⟩]

/-- Records an object, or warns that it cannot be written. -/
def record (d : DryRecord) (kind name : String) : Except String Json → DryRecord × Option String
  | .ok object => (d.add kind name object, none)
  | .error reason => (d, some s!"Failed to serialize dry-run object: {reason}")

def ofKind (d : DryRecord) (kind : String) : DryRecord :=
  d.filter fun r => r.kind = kind

/-- The objects alone, one after the other. -/
def pretty (d : DryRecord) : String :=
  (Json.array (d.map (·.object))).pretty

end DryRecord

/-- The event that a recorded object is logged as. Only two levels are told apart. -/
def dryEvent (level : LogLevel) (kind name : String) (object : Json) : LogEvent where
  level := if level = .debug then .debug else .info
  target := "multistage::recorder::logger"
  message := s!"Dry run: {kind} {name}"
  fields := [("kind", .string kind), ("name", .string name), ("object", .string object.sorted.compact)]

end StagedTests
