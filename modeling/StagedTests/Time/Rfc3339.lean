import StagedTests.Json.Decode
import StagedTests.Text.Blank
import StagedTests.Time.Instant

/-!
# RFC 3339 texts of instants

Instants are written in UTC, with as many groups of three fractional digits as they need. They are
read from a wider language: blanks may stand around the numbers and their separators, numbers may
lack leading zeros, any offset may be given, and a second numbered 60 is a leap second.
-/

namespace StagedTests.Rfc3339

/-! ## Writing -/

/-- A number with leading zeros up to a width. -/
def padded (width n : Nat) : List Char :=
  let digits := decimalDigits n
  List.replicate (width - digits.length) '0' ++ digits

/-- A year of four digits, or with a sign where four digits do not hold it. -/
def yearText (y : Int) : List Char :=
  if 0 ≤ y ∧ y ≤ 9999 then padded 4 y.toNat
  else (if y < 0 then '-' else '+') :: padded 4 y.natAbs

def fractionText (nano : Nat) : List Char :=
  if nano = 0 then []
  else if nano % 1000000 = 0 then '.' :: padded 3 (nano / 1000000)
  else if nano % 1000 = 0 then '.' :: padded 6 (nano / 1000)
  else '.' :: padded 9 nano

/-- An instant with its fraction of a second written in some way. -/
def writeWith (fraction : Nat → List Char) (t : Instant) : String :=
  let d := Date.ofDays t.day
  let second := t.second % 60 + t.nano / nanosPerSecond
  String.ofList (yearText d.year ++ '-' :: padded 2 d.month ++ '-' :: padded 2 d.day ++
    'T' :: padded 2 (t.second / 3600) ++ ':' :: padded 2 (t.second / 60 % 60) ++
    ':' :: padded 2 second ++ fraction (t.nano % nanosPerSecond) ++ ['Z'])

def write (t : Instant) : String := writeWith fractionText t

/-- Cut off to whole seconds. -/
def writeSeconds (t : Instant) : String := writeWith (fun _ => []) t

/-- Cut off to microseconds, all six digits of which are written. -/
def writeMicros (t : Instant) : String := writeWith (fun nano => '.' :: padded 6 (nano / 1000)) t

/-! ## Reading -/

/-- Why a text is no instant. -/
inductive Flaw
  | tooShort
  | invalid
  | outOfRange
  | impossible
  | trailing
  deriving DecidableEq

def Flaw.message : Flaw → String
  | .tooShort => "premature end of input"
  | .invalid => "input contains invalid characters"
  | .outOfRange => "input is out of range"
  | .impossible => "no possible date and time matching input"
  | .trailing => "trailing input"

abbrev Reader (α : Type) := List Char → Except Flaw (α × List Char)

def skipBlanks (cs : List Char) : List Char :=
  cs.dropWhile Text.isBlank

/-- A number of at least one and at most `width` digits. -/
def digits (width : Nat) : Reader Nat := fun cs =>
  match (cs.take width).takeWhile Char.isDigit with
  | [] => .error (if cs = [] then .tooShort else .invalid)
  | ds =>
    let n := Json.digitsValue ds
    if n < Nat.pow 2 63 then .ok (n, cs.drop ds.length) else .error .outOfRange

/-- A number of at most two digits between bounds, with blanks before it. -/
def field (low high : Nat) : Reader Nat := fun cs => do
  let (n, rest) ← digits 2 (skipBlanks cs)
  if low ≤ n ∧ n ≤ high then .ok (n, rest) else .error .outOfRange

/-- A year: up to four digits, or any number of them behind a sign. -/
def year : Reader Int := fun cs => do
  let cs := skipBlanks cs
  let (y, rest) ← match cs with
    | '-' :: rest => do
      let (n, rest) ← digits rest.length rest
      .ok (-(n : Int), rest)
    | '+' :: rest => do
      let (n, rest) ← digits rest.length rest
      .ok ((n : Int), rest)
    | _ => do
      let (n, rest) ← digits 4 cs
      .ok ((n : Int), rest)
  if -Int.pow 2 31 ≤ y ∧ y < Int.pow 2 31 then .ok (y, rest) else .error .outOfRange

/-- A separator, with blanks before it. -/
def separator (c : Char) (cs : List Char) : Except Flaw (List Char) :=
  match skipBlanks cs with
  | [] => .error .tooShort
  | d :: rest => if d = c then .ok rest else .error .invalid

/-- Nanoseconds behind a point, if there is one. Digits behind the ninth are skipped. -/
def fraction : Reader Nat := fun cs =>
  match cs with
  | '.' :: rest => do
    let (n, rest') ← digits 9 rest
    .ok (n * Nat.pow 10 (9 - (rest.length - rest'.length)), rest'.dropWhile Char.isDigit)
  | _ => .ok (0, cs)

/-- Two digits, none of them missing. -/
def twoDigits : Reader (Nat × Nat) := fun cs =>
  match cs with
  | [] => .error .tooShort
  | [c] => .error (if c.utf8Size < 2 then .tooShort else .invalid)
  | a :: b :: rest =>
    if a.isDigit ∧ b.isDigit then .ok ((Json.digitValue a, Json.digitValue b), rest)
    else .error .invalid

/-- Hours and minutes of an offset behind its sign, in seconds. -/
def offsetSize : Reader Nat := fun cs => do
  let ((a, b), rest) ← twoDigits cs
  let rest := rest.dropWhile fun c => c = ':' || Text.isBlank c
  let ((c, d), rest) ← twoDigits rest
  if c ≥ 6 then .error .outOfRange
  else .ok ((10 * a + b) * 3600 + (10 * c + d) * 60, rest)

/-- An offset from UTC in seconds. -/
def offset : Reader Int := fun cs =>
  match cs with
  | [] => .error .tooShort
  | 'Z' :: rest => .ok (0, rest)
  | 'z' :: rest => .ok (0, rest)
  | '+' :: rest => do
    let (n, rest) ← offsetSize rest
    .ok ((n : Int), rest)
  | c :: rest => do
    if c = '-' ∨ c = '−' then
      let (n, rest) ← offsetSize rest
      .ok (-(n : Int), rest)
    else if (cs.take 3).map Char.toLower = ['u', 't', 'c'] then .ok (0, cs.drop 3)
    else .error .invalid

def firstDay : Date := ⟨-262143, 1, 1⟩

def lastDay : Date := ⟨262142, 12, 31⟩

/-- Whether a day by its number is one of those that are read. -/
def isInReach (day : Int) : Bool :=
  firstDay.toDays ≤ day && day ≤ lastDay.toDays

/-- The instant of a day and a time of day, given at an offset. -/
def assemble (date : Date) (hour minute second nano : Nat) (offset : Int) : Except Flaw Instant :=
  if date.Exists ∧ isInReach date.toDays ∧ offset.natAbs < 86400 then
    let (second, nano) := if second = 60 then (59, nano + nanosPerSecond) else (second, nano)
    let seconds : Int := hour * 3600 + minute * 60 + second - offset
    let day := date.toDays + seconds / 86400
    let ofDay := (seconds % 86400).toNat
    if !isInReach day then .error .impossible
    else if h : ofDay < 86400 ∧
        (nano < nanosPerSecond ∨ ofDay % 60 = 59 ∧ nano < 2 * nanosPerSecond) then
      .ok ⟨day, ofDay, nano, h.1, h.2⟩
    else .error .outOfRange
  else .error .outOfRange

def read (s : String) : Except Flaw Instant := do
  let (y, cs) ← year s.toList
  let cs ← separator '-' cs
  let (m, cs) ← field 1 12 cs
  let cs ← separator '-' cs
  let (d, cs) ← field 1 31 cs
  let cs ← match cs with
    | [] => .error .tooShort
    | c :: rest => if c = 'T' ∨ c = 't' ∨ c = ' ' then .ok rest else .error .invalid
  let (hour, cs) ← field 0 23 cs
  let cs ← separator ':' cs
  let (minute, cs) ← field 0 59 cs
  let cs ← separator ':' cs
  let (second, cs) ← field 0 60 cs
  let (nano, cs) ← fraction cs
  let (off, cs) ← offset (skipBlanks cs)
  if skipBlanks cs ≠ [] then .error .trailing
  assemble ⟨y, m, d⟩ hour minute second nano off

/-- An instant written in a string. -/
def decoder : Json.Decoder Instant := fun _ s =>
  match s with
  | .string p t =>
    match read t with
    | .ok t => .ok t
    | .error f => Json.complain (.refused f.message) p.stop
  | s => Json.mistyped "an RFC 3339 formatted date and time string" s

def toJson (t : Instant) : Json := .string (write t)

end StagedTests.Rfc3339
