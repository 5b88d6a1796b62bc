import StagedTests.Archive.Bits

/-!
# Data in codes of growing width

Each code stands for a string of bytes. The codes of single bytes are there from the beginning, and
each code that is read adds a new one for the last string with one more byte. The more codes there
are the wider they get; where the width changes, codes that would fill a group of eight are left out.
-/

namespace StagedTests.Lzw

def leastWidth : Nat := 9

/-- The greatest width that data may ask for. -/
def greatestWidth : Nat := 16

/-- The code that takes back all that were added, if there is such a code. -/
def clear : Nat := 256

/-- What is known after some codes. Strings are kept from their last byte to their first. -/
structure Reader where
  bits : Bits
  /-- Where the codes of the current width begin. -/
  start : Nat
  width : Nat
  /-- Wider codes follow once there are more codes than this. -/
  limit : Nat
  strings : Array (List UInt8)
  last : List UInt8
  out : Array UInt8

/-- What the first byte of data tells. -/
structure Settings where
  /-- The width up to which codes are added. -/
  width : Nat
  /-- Whether there is a code that takes back the others. -/
  clears : Bool

namespace Settings

variable (s : Settings)

/-- The strings of the codes that are there from the beginning. -/
def firstStrings : Array (List UInt8) :=
  ((List.range 256).map fun n => [n.toUInt8]).toArray ++ if s.clears then #[[]] else #[]

/-- The greatest number of codes before they get wider than a width. -/
def limitFor (width : Nat) : Nat := if width = s.width then Nat.pow 2 width else Nat.pow 2 width - 1

end Settings

namespace Reader

variable (r : Reader)

/-- Goes on with another width behind the group. -/
def widen (width limit : Nat) : Reader :=
  let group := 8 * r.width
  let place := r.start + (r.bits.place - r.start + group - 1) / group * group
  { r with bits := { r.bits with place := place }, start := place, width := width, limit := limit }

/-- Writes a string, and adds one that is one byte longer than the last one. -/
def write (s : Settings) (string : List UInt8) : Reader :=
  let first := string.getLast?.getD 0
  { r with
    out := r.out ++ string.reverse
    last := string
    strings :=
      if r.strings.size < Nat.pow 2 s.width then r.strings.push (first :: r.last) else r.strings }

/-- Takes a code. One that is just about to be added stands for the last string with its own first
byte behind it. -/
def take (s : Settings) (code : Nat) : Except ReadStop Reader :=
  if r.last = [] then
    if code < 256 then .ok { r with out := r.out.push code.toUInt8, last := [code.toUInt8] }
    else .error .malformed
  else if s.clears ∧ code = clear then
    .ok { r.widen leastWidth (Nat.pow 2 leastWidth - 1) with strings := r.strings.take clear }
  else
    match r.strings[code]? with
    | some string => .ok (r.write s string)
    | none =>
      if code = r.strings.size then .ok (r.write s (r.last.getLast?.getD 0 :: r.last))
      else .error .malformed

/-- Code after code, as long as there are enough bits. -/
def run (s : Settings) : Nat → Reader → Array UInt8 × Bool
  | 0, r => (r.out, true)
  | n + 1, r =>
    if r.bits.left < r.width then (r.out, true)
    else if r.limit < r.strings.size then run s n (r.widen (r.width + 1) (s.limitFor (r.width + 1)))
    else
      match r.bits.number r.width with
      | .error _ => (r.out, true)
      | .ok (code, bits) =>
        match { r with bits := bits }.take s code with
        | .ok r => run s n r
        | .error _ => (r.out, false)

end Reader

/-- What data unpack to, and whether all was in order. -/
def unpack (b : Bits) : Array UInt8 × Bool :=
  match b.byte with
  | .error _ => (#[], false)
  | .ok (flags, b) =>
    let n := flags.toNat
    let s : Settings := ⟨n % 32, n.testBit 7⟩
    if greatestWidth < s.width then (#[], false)
    else
      let r : Reader :=
        ⟨b, b.place, leastWidth, Nat.pow 2 leastWidth - 1, s.firstStrings, [], #[]⟩
      let (out, isSound) := r.run s (2 * b.left + 1)
      (out, isSound && n / 32 % 4 = 0)

end StagedTests.Lzw
