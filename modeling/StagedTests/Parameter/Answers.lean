import StagedTests.Parameter

/-!
# Providers with given answers

Providers that answer from lists: one answer after the other, the last of them for ever. A provider
without answers fails.
-/

namespace StagedTests

structure ProviderAnswers where
  /-- What each provider has still to answer, by its number. -/
  pending : List (List (Except String String))
  /-- How often providers were asked. -/
  calls : Nat

namespace ProviderAnswers

def empty : ProviderAnswers := ⟨[], 0⟩

/-- The answers left behind the first, which stays if it is the last. -/
def next : List (Except String String) → List (Except String String)
  | _ :: rest@(_ :: _) => rest
  | l => l

/-- The provider of a number. -/
def provider (i : Nat) : Provider ProviderAnswers := fun s =>
  let answers := s.pending[i]?.getD []
  (answers.headD (.error "no result"),
    { pending := s.pending.set i (next answers), calls := s.calls + 1 })

/-- A new provider with given answers. -/
def enrol (s : ProviderAnswers) (answers : List (Except String String)) :
    Provider ProviderAnswers × ProviderAnswers :=
  (provider s.pending.length, { s with pending := s.pending ++ [answers] })

end ProviderAnswers

end StagedTests
