import StagedTests.Cancellation.Token

/-!
# Cancellation scopes

A scope holds watchers, each with a reaction to the cancellation of a token. A watcher acts only
when it gets its turn: it reacts if the token is cancelled by then, even if the scope is already
closed; otherwise it is released if the scope is closed, and goes on waiting if it is open. Closing
a scope gives every watcher its turn, so none outlives it.
-/

namespace StagedTests

/-- How far a watcher has come. -/
inductive Watch
  | waiting
  /-- Its reaction has begun and not ended. -/
  | reacting
  | reacted
  | released
  deriving DecidableEq

structure Watcher (ρ : Type) where
  reaction : ρ
  watch : Watch

namespace Watcher

variable {ρ : Type}

def isWaiting (w : Watcher ρ) : Bool := w.watch == .waiting

/-- A turn of a watcher: what it becomes, and its reaction if that is due. -/
def turn (cancelled closed : Bool) (w : Watcher ρ) : Watcher ρ × Option ρ :=
  if w.isWaiting then
    if cancelled then ({ w with watch := .reacted }, some w.reaction)
    else if closed then ({ w with watch := .released }, none)
    else (w, none)
  else (w, none)

end Watcher

structure Scope (ρ : Type) where
  name : String
  watchers : List (Watcher ρ)
  closed : Bool

namespace Scope

variable {ρ : Type}

def fresh (name : String) : Scope ρ := ⟨name, [], false⟩

/-- Adds a watcher that waits for its first turn. -/
def onCancel (s : Scope ρ) (reaction : ρ) : Scope ρ :=
  { s with watchers := s.watchers ++ [⟨reaction, .waiting⟩] }

/-- A turn of every watcher, and the reactions due, in the order of the watchers. -/
def turns (t : Token) (s : Scope ρ) : Scope ρ × List ρ :=
  ({ s with watchers := s.watchers.map fun w => (w.turn t.isCancelled s.closed).1 },
    s.watchers.filterMap fun w => (w.turn t.isCancelled s.closed).2)

/-- Lets go of the watchers without waiting for them. -/
def release (s : Scope ρ) : Scope ρ := { s with closed := true }

/-- Whether closing the scope has to wait. -/
def hasWaiting (s : Scope ρ) : Bool := s.watchers.any Watcher.isWaiting

/-- Closes the scope and waits for its watchers. -/
def close (t : Token) (s : Scope ρ) : Scope ρ × List ρ :=
  let (s, due) := s.release.turns t
  ({ s with watchers := [] }, due)

def watcherCount (s : Scope ρ) : Nat := s.watchers.length

def describe (t : Token) (s : Scope ρ) : String :=
  let name := Text.quoted s.name
  s!"CancellationScope \x7b name: {name}, watcher_count: {s.watcherCount}, cancelled: {t.isCancelled} \x7d"

end Scope

end StagedTests
