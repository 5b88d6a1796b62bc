import StagedTests.Link
import StagedTests.Text.Quoted

/-!
# Parameters

Named values that steps take from one another. A deferred parameter is computed by its provider
when it is first asked for and kept from then on; a failure is not kept. A value that is set stands
before all providers and needs no link. Providers may answer differently at each call: they read
and change a state of their own.
-/

namespace StagedTests

inductive ParameterError
  | unknown (name : String)
  | failed (name reason : String)
  deriving DecidableEq

def ParameterError.message : ParameterError → String
  | .unknown name => s!"parameter {name} is not defined"
  | .failed name reason => s!"parameter {name} could not be resolved: {reason}"

/-- A source of values by name, with the links that must be met before a value can be had. -/
structure Parameters (σ : Type) where
  get : String → σ → Except ParameterError String × σ
  links : String → σ → List StepLink

/-- Computes a value, or says why it cannot. -/
abbrev Provider (σ : Type) := σ → Except String String × σ

structure DeferredParameters (σ : Type) where
  values : Table String
  providers : Table (Provider σ)
  linkLists : Table (List StepLink)
  /-- Values that providers have computed. Unlike those set, they keep their links. -/
  resolved : Table String

namespace DeferredParameters

variable {σ : Type}

def empty : DeferredParameters σ := ⟨∅, ∅, ∅, ∅⟩

def addLink (p : DeferredParameters σ) (name : String) : Option StepLink → DeferredParameters σ
  | none => p
  | some link =>
    { p with linkLists := p.linkLists.insert name ((p.linkLists.get? name).getD [] ++ [link]) }

/-- Adds a provider in place of an earlier one, and a link to those that are there. -/
def add (p : DeferredParameters σ) (name : String) (link : Option StepLink) (f : Provider σ) :
    DeferredParameters σ :=
  let p := p.addLink name link
  { p with providers := p.providers.insert name f }

/-- Adds all providers of a table behind the same link. -/
def addAll (p : DeferredParameters σ) (t : Table (Provider σ)) (link : Option StepLink) :
    DeferredParameters σ :=
  t.entries.foldl (fun p e => p.add e.1 link e.2) p

def set (p : DeferredParameters σ) (name value : String) : DeferredParameters σ :=
  { p with values := p.values.insert name value }

def has (p : DeferredParameters σ) (name : String) : Bool :=
  p.values.contains name || p.providers.contains name

/-- The value of a parameter: one set, else one computed earlier, else one computed now. -/
def get (p : DeferredParameters σ) (name : String) (s : σ) :
    Except ParameterError String × DeferredParameters σ × σ :=
  match p.values.get? name with
  | some value => (.ok value, p, s)
  | none =>
    match p.resolved.get? name with
    | some value => (.ok value, p, s)
    | none =>
      match p.providers.get? name with
      | none => (.error (.unknown name), p, s)
      | some f =>
        match f s with
        | (.ok value, s) => (.ok value, { p with resolved := p.resolved.insert name value }, s)
        | (.error reason, s) => (.error (.failed name reason), p, s)

def links (p : DeferredParameters σ) (name : String) : List StepLink :=
  if p.values.contains name then [] else (p.linkLists.get? name).getD []

/-- Deferred parameters as a source, whose state is theirs and that of their providers. -/
def source : Parameters (DeferredParameters σ × σ) where
  get name := fun (p, s) => p.get name s
  links name := fun (p, _) => p.links name

/-- Texts in brackets. -/
def describeList (l : List String) : String :=
  "[" ++ ", ".intercalate (l.map Text.quoted) ++ "]"

/-- The names that are set and those that have a provider. -/
def describe (p : DeferredParameters σ) : String :=
  let values := describeList p.values.keys
  let deferred := describeList p.providers.keys
  s!"DeferredParameters \x7b values: {values}, deferred: {deferred} \x7d"

end DeferredParameters

end StagedTests
