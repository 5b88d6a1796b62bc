import StagedTests.Container.Event
import StagedTests.TestCase

/-!
# Recording test cases

One test case for every container that starts: from its termination, or from the cancellation of
the test if that comes first. Events and cancellations may come in any order and any number of
times.
-/

namespace StagedTests

structure Record where
  /-- The containers that have started, with their times, in the order in which they did. -/
  started : List (String × Instant)
  /-- The containers that have a case. -/
  finished : List String
  cases : List TestCase
  cancelled : Bool
  deriving DecidableEq

namespace Record

def fresh : Record := ⟨[], [], [], false⟩

instance : Inhabited Record := ⟨fresh⟩

def startOf? (r : Record) (container : String) : Option Instant :=
  (r.started.find? fun e => e.1 = container).map (·.2)

def isStarted (r : Record) (container : String) : Bool :=
  (r.startOf? container).isSome

def isFinished (r : Record) (container : String) : Bool :=
  r.finished.contains container

def caseName (container : String) : String := s!"container {container}"

/-- The whole milliseconds from a start to an end as seconds; none of them if the end comes first. -/
def duration (start finish : Instant) : Binary64 :=
  .ofThousandths (finish.millisSince start).toNat

/-- What a failed container has put out. -/
def failureText (container : String) (exitCode : Int) (reason message : Option String) : String :=
  let line := s!"container {container} exited with code {exitCode}, reason " ++ reason.getD "Error"
  match message with
  | none => line
  | some m => if m = "" then line else line ++ "\n" ++ m

def markStarted (r : Record) (container : String) (at_ : Instant) : Record :=
  if r.isStarted container then r else { r with started := r.started ++ [(container, at_)] }

def addCase (r : Record) (container : String) (c : TestCase) : Record :=
  { r with finished := container :: r.finished, cases := r.cases ++ [c] }

/-- Closes the case of a container that was running when the test was cancelled. -/
def abort (now : Instant) (r : Record) (e : String × Instant) : Record :=
  r.addCase e.1
    ⟨caseName e.1, duration e.2 now,
      some s!"container {e.1} was still running when the test was cancelled"⟩

/-- Takes in an event that arrives at a time. -/
def observe (now : Instant) (r : Record) : ContainerEvent → Record
  | .started _ container startedAt =>
    if r.isStarted container then r
    else
      let at_ := startedAt.getD now
      let r := r.markStarted container at_
      if r.cancelled then abort now r (container, at_) else r
  | .terminated _ container startedAt finishedAt exitCode reason message =>
    if r.isFinished container then r
    else
      let start := (startedAt.or (r.startOf? container)).getD now
      (r.markStarted container start).addCase container
        ⟨caseName container, duration start (finishedAt.getD now),
          if exitCode = 0 then none else some (failureText container exitCode reason message)⟩

/-- Closes the cases of all containers that are still running. -/
def cancel (now : Instant) (r : Record) : Record :=
  let r := { r with cancelled := true }
  (r.started.filter fun e => !r.isFinished e.1).foldl (abort now) r

/-- The cases under longer names. -/
def subtests (r : Record) (text : String) : List TestCase :=
  r.cases.map (TestCase.prepend text)

def describe (r : Record) : String :=
  let started := r.started.length
  let recorded := r.cases.length
  s!"TestCaseNotifier \x7b started: {started}, recorded: {recorded}, cancelled: {r.cancelled} \x7d"

end Record

end StagedTests
