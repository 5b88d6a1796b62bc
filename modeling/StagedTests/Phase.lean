import StagedTests.Json.Decode

/-!
# Phases

A staged test sets up, tests and cleans up, in this order. The first two phases stop at the first
step that fails; the last one runs all its steps.
-/

namespace StagedTests

inductive Phase
  | pre
  | test
  | post
  deriving DecidableEq

namespace Phase

/-- The phases in the order in which they run. -/
def all : List Phase := [.pre, .test, .post]

def name : Phase → String
  | .pre => "pre"
  | .test => "test"
  | .post => "post"

/-- The place of a phase in the order. -/
def index : Phase → Nat
  | .pre => 0
  | .test => 1
  | .post => 2

instance : LT Phase := ⟨fun p q => p.index < q.index⟩

instance (p q : Phase) : Decidable (p < q) := inferInstanceAs (Decidable (p.index < q.index))

theorem mem_all (p : Phase) : p ∈ all := by
  cases p <;> simp [all]

def decoder : Json.Decoder Phase :=
  .enumeration (all.map fun p => (p.name, p))

def toJson (p : Phase) : Json := .string p.name

end Phase

/-- How a phase goes on behind a step that fails. -/
inductive Policy
  | shortCircuit
  | runAll
  deriving DecidableEq

namespace Policy

def name : Policy → String
  | .shortCircuit => "ShortCircuit"
  | .runAll => "RunAll"

def ofPhase : Phase → Policy
  | .pre | .test => .shortCircuit
  | .post => .runAll

def decoder : Json.Decoder Policy :=
  .enumeration ([shortCircuit, runAll].map fun p => (p.name, p))

def toJson (p : Policy) : Json := .string p.name

instance : Inhabited Policy := ⟨.shortCircuit⟩

end Policy

/-- Where a pod stands as the cluster reports it. -/
inductive PodPhase
  | pending
  | running
  | succeeded
  | failed
  | unknown
  deriving DecidableEq

namespace PodPhase

def all : List PodPhase := [.pending, .running, .succeeded, .failed, .unknown]

def name : PodPhase → String
  | .pending => "Pending"
  | .running => "Running"
  | .succeeded => "Succeeded"
  | .failed => "Failed"
  | .unknown => "Unknown"

instance : Inhabited PodPhase := ⟨.pending⟩

/-- The phase that a status names. A status that names none is that of a pending pod. -/
def ofStatus : Option String → PodPhase
  | none => .pending
  | some s =>
    if s = "Pending" then .pending
    else if s = "Running" then .running
    else if s = "Succeeded" then .succeeded
    else if s = "Failed" then .failed
    else .unknown

/-- A pod in a terminal phase stays in it. -/
def isTerminal : PodPhase → Bool
  | .succeeded | .failed => true
  | _ => false

def decoder : Json.Decoder PodPhase :=
  .enumeration (all.map fun p => (p.name, p))

def toJson (p : PodPhase) : Json := .string p.name

end PodPhase

end StagedTests
