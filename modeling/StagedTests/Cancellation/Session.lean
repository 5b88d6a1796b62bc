import StagedTests.Cancellation.Scope

/-!
# A token with its scopes

Code that holds a token and at most one open scope, and is suspended now and then. Only while it is
suspended do watchers get their turns: those of the open scope, and those of scopes that were
dropped, whose watchers were let go but not waited for. A slow reaction ends only if the code is
suspended long enough: for a while of its own choice, or for another slow reaction.
-/

namespace StagedTests

structure Session (ρ : Type) where
  token : Token
  scope : Option (Scope ρ)
  /-- Scopes that were dropped. -/
  dropped : List (Scope ρ)
  /-- Slow reactions that have begun and not ended. Nobody waits for them. -/
  begun : List ρ

namespace Session

variable {ρ : Type}

/-- A token that nobody has cancelled, without a scope. -/
def fresh : Session ρ := ⟨.fresh, none, [], []⟩

def cancel (s : Session ρ) (reason : String) : Session ρ :=
  { s with token := s.token.cancel reason }

/-- A turn of the watchers of all dropped scopes, and the reactions that begin. -/
def turnDropped (s : Session ρ) : Session ρ × List ρ :=
  let dropped := s.dropped.map (Scope.turns s.token)
  ({ s with dropped := dropped.map (·.1) }, dropped.flatMap (·.2))

/-- The code sleeps for a while: every watcher gets its turn, and all reactions end. The reactions
that have ended come with it. -/
def sleep (s : Session ρ) : Session ρ × List ρ :=
  let (s, others) := s.turnDropped
  let opened := s.scope.map (Scope.turns s.token)
  ({ s with scope := opened.map (·.1), begun := [] },
    s.begun ++ others ++ (opened.map (·.2)).getD [])

/-- Waits for the cancellation for a while; whether it has come. -/
def await (s : Session ρ) : Bool × Session ρ × List ρ :=
  if s.token.isCancelled then (true, s, []) else (false, s.sleep)

/-- Drops the open scope, if there is one. -/
def dropScope (s : Session ρ) : Session ρ :=
  { s with scope := none, dropped := s.dropped ++ (s.scope.map Scope.release).toList }

/-- Opens a scope in place of the one that is open. -/
def openScope (s : Session ρ) (name : String) : Session ρ :=
  { s.dropScope with scope := some (.fresh name) }

/-- Adds a watcher to the open scope. -/
def onCancel (s : Session ρ) (reaction : ρ) : Session ρ :=
  { s with scope := s.scope.map fun scope => scope.onCancel reaction }

/-- Closes a scope with watchers that wait: the code is suspended until their reactions have ended.
Reactions of dropped scopes go on behind that if they are slow and none that is waited for is. -/
def closeWaiting (isSlow : ρ → Bool) (s : Session ρ) (scope : Scope ρ) : Session ρ × List ρ :=
  let (s, others) := s.turnDropped
  let (scope, due) := scope.close s.token
  let s := { s with scope := some scope }
  if due.any isSlow then ({ s with begun := [] }, s.begun ++ others ++ due)
  else
    ({ s with begun := s.begun ++ others.filter isSlow }, others.filter (fun r => !isSlow r) ++ due)

/-- Closes the open scope, which stays without watchers. -/
def close (isSlow : ρ → Bool) (s : Session ρ) : Session ρ × List ρ :=
  match s.scope with
  | none => (s, [])
  | some scope =>
    if scope.hasWaiting then s.closeWaiting isSlow scope
    else ({ s with scope := some (scope.close s.token).1 }, [])

/-- The token and the open scope in words. -/
def describe (s : Session ρ) : String × Option String :=
  (s.token.describe, s.scope.map (Scope.describe s.token))

end Session

end StagedTests
