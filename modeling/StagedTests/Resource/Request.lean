import StagedTests.Json.Decode
import StagedTests.Resource.Quantity

/-!
# Resource requests

What a step asks for: a preset by its name, and amounts of its own that replace those of the
preset resource by resource. `Presets.requirements` turns a request into checked amounts, or names
what is wrong with it: an unknown preset before any amount, limits before requests, and of each
the first resource in the order of their names.
-/

namespace StagedTests

structure ResourceRequest where
  preset : Option String
  requests : Table String
  limits : Table String
  deriving DecidableEq

namespace ResourceRequest

def empty : ResourceRequest := ⟨none, ∅, ∅⟩

instance : Inhabited ResourceRequest := ⟨empty⟩

def ofPreset (name : String) : ResourceRequest := { empty with preset := some name }

def withRequest (r : ResourceRequest) (resource amount : String) : ResourceRequest :=
  { r with requests := r.requests.insert resource amount }

def withLimit (r : ResourceRequest) (resource amount : String) : ResourceRequest :=
  { r with limits := r.limits.insert resource amount }

def fields : Json.Fields ResourceRequest :=
  (Json.Fields.nil ResourceRequest.mk)
    |>.optional "preset" .string
    |>.defaulted "requests" (.table .string) ∅
    |>.defaulted "limits" (.table .string) ∅

def decoder : Json.Decoder ResourceRequest := fields.decoder "struct ResourceRequest"

/-- A table that is left out if it is empty. -/
def amountsJson (t : Table String) : Option Json :=
  if t.isEmpty then none else some (Json.ofTable .string t)

def toJson (r : ResourceRequest) : Json :=
  Json.objectOf [("preset", r.preset.map .string), ("requests", amountsJson r.requests),
    ("limits", amountsJson r.limits)]

end ResourceRequest

/-- Which side of a request an amount stands on. -/
inductive ResourceSide
  | limit
  | request
  deriving DecidableEq

def ResourceSide.name : ResourceSide → String
  | .limit => "limit"
  | .request => "request"

inductive ResourceError
  | unknownPreset (name : String)
  | invalidQuantity (side : ResourceSide) (resource amount : String)
  deriving DecidableEq

def ResourceError.message : ResourceError → String
  | .unknownPreset name => s!"unknown resource preset {Text.quoted name}"
  | .invalidQuantity side resource amount =>
    s!"could not parse {side.name} for {resource}: invalid quantity {Text.quoted amount}"

def ResourceError.kind : ResourceError → String
  | .unknownPreset _ => "UnknownPreset"
  | .invalidQuantity _ _ _ => "InvalidQuantity"

/-- Checked amounts. A side on which nothing is asked for is absent. -/
structure Requirements where
  limits : Option (Table Quantity)
  requests : Option (Table Quantity)
  deriving DecidableEq

namespace Requirements

def none : Requirements := ⟨.none, .none⟩

def quantitiesJson (t : Table Quantity) : Json :=
  Json.ofTable (fun q => .string q.text) t

def toJson (r : Requirements) : Json :=
  Json.objectOf [("limits", r.limits.map quantitiesJson), ("requests", r.requests.map quantitiesJson)]

end Requirements

/-- Named requests that others build upon. -/
structure Presets where
  table : Table ResourceRequest
  deriving DecidableEq

namespace Presets

def empty : Presets := ⟨∅⟩

def withPreset (p : Presets) (name : String) (r : ResourceRequest) : Presets :=
  ⟨p.table.insert name r⟩

/-- The presets there are where nothing else is said. -/
def standard : Presets :=
  empty
    |>.withPreset "small" (ResourceRequest.empty
      |>.withRequest "cpu" "100m" |>.withRequest "memory" "200Mi")
    |>.withPreset "medium" (ResourceRequest.empty
      |>.withRequest "cpu" "1" |>.withRequest "memory" "2Gi" |>.withLimit "memory" "4Gi")
    |>.withPreset "large" (ResourceRequest.empty
      |>.withRequest "cpu" "3" |>.withRequest "memory" "8Gi" |>.withLimit "memory" "16Gi")

def get? (p : Presets) (name : String) : Option ResourceRequest :=
  p.table.get? name

def decoder : Json.Decoder Presets :=
  .map Presets.mk (.table ResourceRequest.decoder)

def toJson (p : Presets) : Json :=
  Json.ofTable ResourceRequest.toJson p.table

def checkEntries (side : ResourceSide) :
    List (String × String) → Except ResourceError (List (String × Quantity))
  | [] => .ok []
  | (resource, amount) :: rest => do
    match Quantity.parse? amount with
    | some q => .ok ((resource, q) :: (← checkEntries side rest))
    | none => .error (.invalidQuantity side resource amount)

def checkSide (side : ResourceSide) (t : Table String) :
    Except ResourceError (Option (Table Quantity)) :=
  if t.isEmpty then .ok none
  else (checkEntries side t.entries).map fun l => some (Table.ofList l)

/-- The checked amounts of a request. A preset named by a preset is not followed. -/
def requirements (p : Presets) (r : ResourceRequest) : Except ResourceError Requirements := do
  let base ← match r.preset with
    | none => .ok ResourceRequest.empty
    | some name =>
      match p.get? name with
      | some base => .ok base
      | none => .error (.unknownPreset name)
  let limits ← checkSide .limit (base.limits.override r.limits)
  let requests ← checkSide .request (base.requests.override r.requests)
  .ok ⟨limits, requests⟩

end Presets

end StagedTests
