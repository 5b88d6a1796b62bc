/-!
# Instants

An instant in UTC as a day, a second of the day and nanoseconds. A leap second stands behind the
last second of a minute: its nanoseconds count on from a whole second. Days are numbered from the
first of January 1970 in the Gregorian calendar, extended to all years.
-/

namespace StagedTests

def nanosPerSecond : Nat := 1000000000

structure Instant where
  day : Int
  second : Nat
  nano : Nat
  second_lt : second < 86400 := by decide
  nano_lt : nano < nanosPerSecond ∨ second % 60 = 59 ∧ nano < 2 * nanosPerSecond := by decide
  deriving DecidableEq

namespace Instant

def midnight (day : Int) : Instant := ⟨day, 0, 0, by decide, by decide⟩

instance : Inhabited Instant := ⟨midnight 0⟩

/-- An instant within a leap second. -/
def isLeap (t : Instant) : Bool :=
  nanosPerSecond ≤ t.nano

/-- The nanoseconds from one instant to another. A leap second between two times of day is
counted if the earlier of the two times stands in it. -/
def nanosSince (t s : Instant) : Int :=
  let adjust : Int :=
    if s.second < t.second then (if s.isLeap then 1 else 0)
    else if t.second < s.second then (if t.isLeap then -1 else 0)
    else 0
  ((t.day - s.day) * 86400 + (t.second - s.second) + adjust) * nanosPerSecond + (t.nano - s.nano)

/-- The whole milliseconds from one instant to another, cut off toward zero. -/
def millisSince (t s : Instant) : Int :=
  (t.nanosSince s).tdiv 1000000

theorem nanosSince_self (t : Instant) : t.nanosSince t = 0 := by
  simp [nanosSince]

theorem millisSince_self (t : Instant) : t.millisSince t = 0 := by
  simp [millisSince, nanosSince_self]

end Instant

structure Date where
  year : Int
  month : Nat
  day : Nat
  deriving DecidableEq

namespace Date

def isLeapYear (y : Int) : Bool :=
  y % 4 = 0 && (y % 100 ≠ 0 || y % 400 = 0)

def daysInMonth (y : Int) (m : Nat) : Nat :=
  if m = 2 then (if isLeapYear y then 29 else 28)
  else if m = 4 ∨ m = 6 ∨ m = 9 ∨ m = 11 then 30
  else 31

def Exists (d : Date) : Prop :=
  1 ≤ d.month ∧ d.month ≤ 12 ∧ 1 ≤ d.day ∧ d.day ≤ daysInMonth d.year d.month

instance (d : Date) : Decidable d.Exists :=
  inferInstanceAs (Decidable (_ ∧ _ ∧ _ ∧ _))

/-- The number of a day. Years are counted from March on, so that a leap day is the last. -/
def toDays (d : Date) : Int :=
  let y := if d.month ≤ 2 then d.year - 1 else d.year
  let month : Int := if d.month ≤ 2 then d.month + 9 else d.month - 3
  let ofYear := (153 * month + 2) / 5 + (d.day - 1)
  365 * y + y / 4 - y / 100 + y / 400 + ofYear - 719468

/-- The day of a number. -/
def ofDays (n : Int) : Date :=
  let z := n + 719468
  let era := z / 146097
  let ofEra := z % 146097
  let year := (ofEra - ofEra / 1460 + ofEra / 36524 - ofEra / 146096) / 365
  let ofYear := ofEra - (365 * year + year / 4 - year / 100)
  let month := (5 * ofYear + 2) / 153
  let day := ofYear - (153 * month + 2) / 5 + 1
  let m := if month < 10 then month + 3 else month - 9
  ⟨era * 400 + year + (if m ≤ 2 then 1 else 0), m.toNat, day.toNat⟩

end Date

end StagedTests
