import StagedTests.Run.World

/-!
# Tasks

A task changes the world and ends with a result, or it ends without one: it was dropped because
the token was cancelled, it was abandoned because its observer was cancelled, or it never ends.
A task that races the token is dropped at the first suspension behind the cancellation, not
earlier: what is ready without a suspension counts.
-/

namespace StagedTests

inductive Outcome (α : Type)
  | returned (a : α)
  /-- The token was cancelled while the task was suspended. -/
  | dropped
  /-- The observer was cancelled while the task was suspended. -/
  | abandoned
  /-- The task never ends. -/
  | stalled

def Task (σ α : Type) : Type := World σ → Outcome α × World σ

namespace Task

variable {σ α β : Type}

def done (a : α) : Task σ α := fun w => (.returned a, w)

def andThen (t : Task σ α) (f : α → Task σ β) : Task σ β := fun w =>
  match t w with
  | (.returned a, w) => f a w
  | (.dropped, w) => (.dropped, w)
  | (.abandoned, w) => (.abandoned, w)
  | (.stalled, w) => (.stalled, w)

instance : Monad (Task σ) where
  pure := done
  bind := andThen

def change (f : World σ → World σ) : Task σ Unit := fun w => (.returned (), f w)

def look (f : World σ → α) : Task σ α := fun w => (.returned (f w), w)

/-- An operation on the cluster and everyone else. -/
def act (op : σ → α × σ) : Task σ α := fun w =>
  let (a, c) := op w.cluster
  (.returned a, { w with cluster := c })

def stall : Task σ α := fun w => (.stalled, w)

def note (e : Entry) : Task σ Unit := change fun w => w.note e

def warn (message : String) : Task σ Unit := change fun w => w.warn message

/-- Others act at a moment. -/
def pass (env : Surroundings σ) (m : Moment) : Task σ Unit := change fun w =>
  let (p, c) := env.meanwhile m w.watchers.length w.cluster
  p.happenings.foldl env.happen { w with cluster := c }

/-- How a task goes on behind a suspension. The token is looked at first. -/
def resume (w : World σ) : Outcome Unit :=
  if w.racing && w.token.isCancelled then .dropped
  else if w.collecting && w.observer.nested.isStopped then .abandoned
  else .returned ()

/-- Others act at a moment at which the task may be suspended. -/
def pause (env : Surroundings σ) (m : Moment) : Task σ Unit := fun w =>
  let (p, c) := env.meanwhile m w.watchers.length w.cluster
  let w := p.happenings.foldl env.happen { w with cluster := c }
  (if p.suspended then resume w else .returned (), w)

/-- Waits for an answer that does not come. -/
def hang (env : Surroundings σ) : Nat → Task σ α
  | 0 => stall
  | n + 1 => andThen (pause env .hanging) fun _ => hang env n

def effect (c : Call) (op : σ → Reply α × σ) : Task σ (Reply α) := fun w =>
  let (reply, w) := w.answer c op
  (.returned reply, w)

/-- Makes a call and waits for its answer. -/
def call (env : Surroundings σ) (c : Call) (op : σ → Reply α × σ) :
    Task σ (Except ClientError α) := do
  note (.called c)
  pause env (.calling c)
  match ← effect c op with
  | .answered answer => return answer
  | .hangs => hang env env.patience

def isCancelled (env : Surroundings σ) : Task σ Bool := do
  pass env .checking
  look fun w => w.token.isCancelled

/-- Does a task that ends with the token; nothing is returned if the token came first. -/
def untilCancelled (t : Task σ α) : Task σ (Option α) := fun w =>
  match t { w with racing := true } with
  | (.returned a, w) => (.returned (some a), { w with racing := false })
  | (.dropped, w) => (.returned none, { w with racing := false, collecting := false })
  | (.abandoned, w) => (.abandoned, { w with racing := false })
  | (.stalled, w) => (.stalled, w)

/-- Races a task against the token, which is looked at first. -/
def race (env : Surroundings σ) (t : Task σ α) : Task σ (Option α) := do
  if ← isCancelled env then return none
  untilCancelled t

def openScope (r : Reaction) : Task σ Unit :=
  change fun w =>
    World.note { w with watchers := w.watchers ++ [⟨r, .waiting⟩], closing := false } (.opened r)

/-- Gives the innermost watcher its last turn and drops it. Its reaction may never end. -/
def finishWatcher (env : Surroundings σ) : Task σ Unit := fun w =>
  let w := env.turn w (w.watchers.length - 1)
  match w.watchers.getLast? with
  | some ⟨_, .reacting⟩ => (.stalled, w)
  | _ => (.returned (), { w with watchers := w.watchers.dropLast, closing := false })

/-- Closes the innermost scope, which has a given reaction, and waits for its watcher. Until it is
back, that watcher may get its turn both before and behind a cancellation. -/
def closeScope (env : Surroundings σ) (r : Reaction) : Task σ Unit := do
  change fun w => World.note { w with closing := true } (.closing r)
  if ← look fun w => w.watchers.getLast?.any Watcher.isWaiting then pause env .closing
  finishWatcher env
  note (.closed r)

/-- Changes the disk, and learns how that went. -/
def editDisk (f : Disk → Disk × α) : Task σ α := fun w =>
  let (d, a) := f w.disk
  (.returned a, { w with disk := d })

end Task

end StagedTests
