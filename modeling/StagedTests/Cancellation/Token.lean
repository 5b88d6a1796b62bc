import StagedTests.Text.Quoted

/-!
# Cancellation tokens

The signal that an invocation should stop. The first reason given is kept, and a token that is
cancelled stays so.
-/

namespace StagedTests

structure Token where
  cause : Option String
  deriving DecidableEq

namespace Token

/-- A token that nobody has cancelled. -/
def fresh : Token := ⟨none⟩

instance : Inhabited Token := ⟨fresh⟩

def isCancelled (t : Token) : Bool := t.cause.isSome

/-- Cancels with a reason, unless an earlier one is there. -/
def cancel (t : Token) (reason : String) : Token := ⟨t.cause.or (some reason)⟩

/-- The reason given, or a word in its place. -/
def reason (t : Token) : String := t.cause.getD "cancelled"

def describe (t : Token) : String :=
  let cause := match t.cause with
    | none => "None"
    | some reason => s!"Some({Text.quoted reason})"
  s!"CancellationToken \x7b is_cancelled: {t.isCancelled}, cause: {cause} \x7d"

theorem isCancelled_cancel (t : Token) (reason : String) : (t.cancel reason).isCancelled = true := by
  cases t with | mk cause => cases cause <;> rfl

theorem cancel_of_isCancelled {t : Token} (h : t.isCancelled = true) (reason : String) :
    t.cancel reason = t := by
  cases t with | mk cause => cases cause <;> simp_all [isCancelled, cancel]

end Token

end StagedTests
