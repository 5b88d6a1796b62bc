import StagedTests.Archive.Inflate
import StagedTests.Archive.Lzh
import StagedTests.Archive.Lzw
import StagedTests.Archive.Packed
import StagedTests.Digest.Crc32

/-!
# Gzip files

A file of RFC 1952 is a number of members, each with a header, deflated data, and their check sum
and length. Zeros may follow the last member, but nothing else. Members of older formats are known by
their first bytes, and so is a zip archive, of which the first entry is taken. What was unpacked
before something is found to be wrong is kept, though of malformed data only whole windows.
-/

namespace StagedTests.Gzip

/-- What a file unpacks to, and whether all of it was in order. -/
structure Unpacked where
  bytes : List UInt8
  isIntact : Bool

def window : Nat := 32768

/-- What a member unpacks to, and what follows it. After some members nothing counts any more. -/
abbrev Progress := Array UInt8 × Except ReadStop (Option Bits)

/-! ## Deflated members -/

/-- Passes over a part of a header that is there where a bit is set. -/
def part (flags bit : Nat) (pass : Bits → Except ReadStop Bits) (b : Bits) : Except ReadStop Bits :=
  if flags.testBit bit then pass b else .ok b

def extraField (b : Bits) : Except ReadStop Bits := do
  let (length, b) ← b.number 16
  let (_, b) ← b.run length
  .ok b

/-- The check sum of a header, which began at a place. -/
def headerSum (start : Nat) (b : Bits) : Except ReadStop Bits := do
  let bytes := (b.bytes.extract (start / 8) (b.place / 8)).toList
  let sum := Crc32.checksum bytes
  let (given, b) ← b.number 16
  if given = sum.toNat % 65536 then .ok b else .error .malformed

/-- Passes over the header of a member, which began at a place, behind its first two bytes. -/
def header (start : Nat) (b : Bits) : Except ReadStop Bits := do
  let (method, b) ← b.byte
  let (flags, b) ← b.number 8
  let (_, b) ← b.run 6
  if method ≠ 8 ∨ 32 ≤ flags then .error .malformed
  else
    let b ← part flags 2 extraField b
    let b ← part flags 3 (fun b => b.pastZero b.bytes.size) b
    let b ← part flags 4 (fun b => b.pastZero b.bytes.size) b
    part flags 1 (headerSum start) b

/-- The data that begin at a place, deflated, of which malformed ones are kept only so far. -/
def inflated (b : Bits) : Array UInt8 × Except ReadStop Bits :=
  match Inflate.inflate b with
  | (data, .error .malformed) => (data.take (data.size / window * window), .error .malformed)
  | p => p

/-- Whether data have a check sum and a length. -/
def fits (data : Array UInt8) (sum length : Nat) : Bool :=
  sum = (Crc32.checksum data.toList).toNat && length = data.size % Nat.pow 2 32

/-- Compares data with the check sum and the length that follow them. -/
def trailer (data : Array UInt8) (b : Bits) : Except ReadStop Bits := do
  let (sum, b) ← b.align.number 32
  let (length, b) ← b.number 32
  if fits data sum length then .ok b else .error .malformed

def deflated (start : Nat) (b : Bits) : Progress :=
  match header start b with
  | .error e => (#[], .error e)
  | .ok b =>
    match inflated b with
    | (data, .error e) => (data, .error e)
    | (data, .ok b) => (data, (trailer data b).map some)

/-! ## Zip archives -/

/-- What begins an entry. -/
def entryMagic : List UInt8 := [0x50, 0x4b, 3, 4]

structure EntryHeader where
  isStored : Bool
  /-- Whether the check sum and the length follow the data. -/
  isOpen : Bool
  sum : Nat
  packedLength : Nat
  length : Nat

/-- The header of an entry, from its beginning on. -/
def entryHeader (b : Bits) : Except ReadStop (EntryHeader × Bits) := do
  let (_, b) ← b.number 48
  let (flags, b) ← b.number 16
  let (method, b) ← b.number 8
  let (_, b) ← b.number 40
  let (sum, b) ← b.number 32
  let (packedLength, b) ← b.number 32
  let (length, b) ← b.number 32
  let (name, b) ← b.number 16
  let (extra, b) ← b.number 16
  let b := { b with place := b.place + 8 * (name + extra) }
  if (method ≠ 0 ∧ method ≠ 8) ∨ flags.testBit 0 ∨ 8 * b.bytes.size < b.place then
    .error .malformed
  else .ok (⟨method = 0, flags.testBit 3, sum, packedLength, length⟩, b)

/-- The data of an entry. -/
def entryData (h : EntryHeader) (b : Bits) : Array UInt8 × Except ReadStop Bits :=
  if !h.isStored then inflated b
  else if h.length ≠ h.packedLength then (#[], .error .malformed)
  else
    let start := b.place / 8
    let data := b.bytes.extract start (start + h.length)
    (data, if data.size = h.length then .ok { b with place := b.place + 8 * h.length }
      else .error .ended)

/-- Compares data with the check sum and the length. No other entry may follow. -/
def entryTrailer (h : EntryHeader) (data : Array UInt8) (b : Bits) : Except ReadStop Unit := do
  let b := b.align
  let (sum, length, b) ← if h.isOpen then
      let (_, b) ← b.number 32
      let (sum, b) ← b.number 32
      let (_, b) ← b.number 32
      let (length, b) ← b.number 32
      .ok (sum, length, b)
    else .ok (h.sum, h.length, b)
  let rest := b.rest
  if fits data sum length && !(4 < rest.length && rest.take 4 = entryMagic) then .ok ()
  else .error .malformed

/-- The first entry of an archive. -/
def zipped (b : Bits) : Progress :=
  match entryHeader b with
  | .error e => (#[], .error e)
  | .ok (h, b) =>
    match entryData h b with
    | (data, .error e) => (data, .error e)
    | (data, .ok b) => (data, (entryTrailer h data b).map fun _ => none)

/-! ## Files -/

/-- The first member of what is left. -/
def member (b : Bits) : Progress :=
  match b.run 2 with
  | .error e => (#[], .error e)
  | .ok ([0x1f, 0x8b], c) | .ok ([0x1f, 0x9e], c) => deflated b.place c
  | .ok ([0x1f, 0x1e], c) =>
    let (data, result) := Packed.unpack c
    (data, result.map some)
  | .ok ([0x1f, 0x9d], c) => last (Lzw.unpack c)
  | .ok ([0x1f, 0xa0], c) => last (Lzh.unpack c)
  | .ok ([0x50, 0x4b], _) =>
    if b.place = 0 ∧ b.rest.take 4 = entryMagic then zipped b else (#[], .error .malformed)
  | .ok _ => (#[], .error .malformed)
where
  /-- A member behind which nothing counts. -/
  last (p : Array UInt8 × Bool) : Progress := (p.1, if p.2 then .ok none else .error .malformed)

/-- Member after member. -/
def members : Nat → Array UInt8 → Bits → Unpacked
  | 0, out, _ => ⟨out.toList, false⟩
  | n + 1, out, b =>
    match member b with
    | (data, .error _) => ⟨(out ++ data).toList, false⟩
    | (data, .ok none) => ⟨(out ++ data).toList, true⟩
    | (data, .ok (some b)) =>
      let out := out ++ data
      if b.rest.all (· = 0) then ⟨out.toList, true⟩ else members n out b

def unpack (bytes : List UInt8) : Unpacked :=
  members bytes.length #[] ⟨bytes.toArray, 0⟩

end StagedTests.Gzip
