import StagedTests.Time.Rfc3339

/-!
# Container events

The transitions in the life of one container of a pod: it starts, and it terminates.
-/

namespace StagedTests

inductive ContainerEvent
  | started (pod container : String) (startedAt : Option Instant)
  | terminated (pod container : String) (startedAt finishedAt : Option Instant) (exitCode : Int)
      (reason message : Option String)
  deriving DecidableEq

namespace ContainerEvent

/-- A termination of which only the exit code is known. -/
def ended (pod container : String) (exitCode : Int) : ContainerEvent :=
  .terminated pod container none none exitCode none none

def pod : ContainerEvent → String
  | .started pod _ _ => pod
  | .terminated pod _ _ _ _ _ _ => pod

def container : ContainerEvent → String
  | .started _ container _ => container
  | .terminated _ container _ _ _ _ _ => container

def isTerminal : ContainerEvent → Bool
  | .started _ _ _ => false
  | .terminated _ _ _ _ _ _ _ => true

def cases : List (Json.Case ContainerEvent) := [
  { tag := "started"
    record := "struct variant ContainerEvent::Started"
    fields := (Json.Fields.nil ContainerEvent.started)
      |>.required "pod" .string
      |>.required "container" .string
      |>.nullable "at" Rfc3339.decoder },
  { tag := "terminated"
    record := "struct variant ContainerEvent::Terminated"
    fields := (Json.Fields.nil ContainerEvent.terminated)
      |>.required "pod" .string
      |>.required "container" .string
      |>.nullable "started_at" Rfc3339.decoder
      |>.nullable "finished_at" Rfc3339.decoder
      |>.required "exit_code" .signed32
      |>.nullable "reason" .string
      |>.nullable "message" .string }]

def decoder : Json.Decoder ContainerEvent := .tagged "ContainerEvent" "type" cases

def instantJson : Option Instant → Json
  | none => .null
  | some t => Rfc3339.toJson t

def toJson : ContainerEvent → Json
  | .started pod container startedAt =>
    .object [("type", .string "started"), ("pod", .string pod), ("container", .string container),
      ("at", instantJson startedAt)]
  | .terminated pod container startedAt finishedAt exitCode reason message =>
    .object [("type", .string "terminated"), ("pod", .string pod),
      ("container", .string container), ("started_at", instantJson startedAt),
      ("finished_at", instantJson finishedAt), ("exit_code", .int exitCode),
      ("reason", Json.text? reason), ("message", Json.text? message)]

end ContainerEvent

end StagedTests
