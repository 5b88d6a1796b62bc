/-!
# Bytes read bit by bit

The bits of a byte are taken from the least to the greatest, and so are those of a number; a number
of whole bytes has its least byte first.
-/

namespace StagedTests

/-- Why reading stops before its end. -/
inductive ReadStop
  /-- The bytes have ended. -/
  | ended
  /-- The bytes mean nothing. -/
  | malformed
  deriving DecidableEq

/-- Bytes, and how many of their bits were taken. -/
structure Bits where
  bytes : Array UInt8
  place : Nat

namespace Bits

def left (b : Bits) : Nat := 8 * b.bytes.size - b.place

def next (b : Bits) : Except ReadStop (Bool × Bits) :=
  if h : b.place / 8 < b.bytes.size then
    .ok (b.bytes[b.place / 8].toNat.testBit (b.place % 8), { b with place := b.place + 1 })
  else .error .ended

/-- A number of so many bits. -/
def number : Nat → Bits → Except ReadStop (Nat × Bits)
  | 0, b => .ok (0, b)
  | n + 1, b => do
    let (bit, b) ← b.next
    let (rest, b) ← number n b
    .ok (bit.toNat + 2 * rest, b)

/-- A bit where those of a byte are taken from the greatest to the least. -/
def nextHigh (b : Bits) : Except ReadStop (Bool × Bits) :=
  if h : b.place / 8 < b.bytes.size then
    .ok (b.bytes[b.place / 8].toNat.testBit (7 - b.place % 8), { b with place := b.place + 1 })
  else .error .ended

/-- Passes over what is left of a byte of which bits were taken. -/
def align (b : Bits) : Bits := { b with place := (b.place + 7) / 8 * 8 }

def byte (b : Bits) : Except ReadStop (UInt8 × Bits) := do
  let (n, b) ← b.number 8
  .ok (n.toUInt8, b)

def run : Nat → Bits → Except ReadStop (List UInt8 × Bits)
  | 0, b => .ok ([], b)
  | n + 1, b => do
    let (x, b) ← b.byte
    let (rest, b) ← run n b
    .ok (x :: rest, b)

/-- Passes over everything up to a zero byte and over that. -/
def pastZero : Nat → Bits → Except ReadStop Bits
  | 0, _ => .error .ended
  | n + 1, b => do
    let (x, b) ← b.byte
    if x = 0 then .ok b else pastZero n b

def rest (b : Bits) : List UInt8 := b.bytes.toList.drop (b.place / 8)

theorem next_ok_place {b b' : Bits} {bit : Bool} (h : b.next = .ok (bit, b')) :
    b'.place = b.place + 1 ∧ b'.bytes = b.bytes := by
  unfold next at h
  split at h
  · cases h; exact ⟨rfl, rfl⟩
  · cases h

end Bits

end StagedTests
