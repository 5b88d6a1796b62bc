import StagedTests.Archive.Tar.Number
import StagedTests.Disk.Path

/-!
# Headers of members

A header is a block of 512 bytes with fields at fixed places. One of them is the sum of the bytes, so
that a header can be told from other blocks.
-/

namespace StagedTests.Tar

abbrev Block := List UInt8

def blockSize : Nat := 512

/-- How many blocks bytes of a number take. -/
def blocksFor (size : Nat) : Nat := (size + blockSize - 1) / blockSize

def field (b : Block) (start length : Nat) : List UInt8 := (b.drop start).take length

/-- What stands before the first zero. -/
def untilZero (bytes : List UInt8) : List UInt8 := bytes.takeWhile (· ≠ 0)

/-- Which fields a header has besides those that all have. -/
inductive Format
  | plain
  | standard
  /-- Like the standard one, with times in place of a part of the name. -/
  | timed
  | extended
  deriving DecidableEq

/-- What a header is before. -/
inductive Kind
  | file
  | link
  | symbolic
  /-- A device with a number. -/
  | device
  | pipe
  | directory
  /-- A directory with a list of the names in it. -/
  | listing
  /-- A file of which only parts are kept. -/
  | sparse
  /-- The name of the archive. -/
  | label
  /-- The rest of a file that another archive begins. -/
  | rest
  /-- The name of the next member, or its target. -/
  | longName
  | longTarget
  /-- Records about the next member, or about all that follow. -/
  | records
  | commonRecords
  | unknown
  deriving DecidableEq

def Kind.ofByte (b : UInt8) : Kind :=
  match Char.ofNat b.toNat with
  | '\x00' | '0' | '7' => .file
  | '1' => .link
  | '2' => .symbolic
  | '3' | '4' => .device
  | '5' => .directory
  | '6' => .pipe
  | 'D' => .listing
  | 'K' => .longTarget
  | 'L' => .longName
  | 'M' => .rest
  | 'S' => .sparse
  | 'V' => .label
  | 'X' | 'x' => .records
  | 'g' => .commonRecords
  | _ => .unknown

structure Header where
  block : Block
  kind : Kind
  /-- How many bytes follow, which are no header. -/
  size : Nat
  deriving DecidableEq

/-- Whether a number is the sum of a header's bytes, where blanks stand for the sum itself. The bytes
may be signed. -/
def isHeaderSum (b : Block) (sum : Int) : Bool :=
  let bytes := b.take 148 ++ List.replicate 8 0x20 ++ b.drop 156
  let total : Int := (bytes.foldl (fun n b => n + b.toNat) 0 : Nat)
  sum = total || sum + 256 * bytes.countP (0x80 ≤ ·) = total

/-- Whether a block is a header, which its sum tells. -/
def isHeader (b : Block) : Bool := (octal? (field b 148 8)).any (isHeaderSum b)

namespace Header

/-- The header that a block is, if its size is right. A link has none. -/
def ofBlock? (b : Block) : Option Header :=
  let kind := Kind.ofByte (b.getD 156 0)
  if kind = .link then some ⟨b, kind, 0⟩
  else (number? .sizes (field b 124 12)).map fun size => ⟨b, kind, size.toNat⟩

variable (h : Header)

/-- Whether a time in octal digits stands in a field, with a blank behind it. -/
def hasTime (start : Nat) : Bool :=
  isOctalDigit (h.block.getD start 0) && h.block.getD (start + 11) 0 = 0x20

def format : Format :=
  if field h.block 257 6 = "ustar\x00".toUTF8.data.toList then
    if h.block.getD 475 0 = 0 && h.hasTime 476 && h.hasTime 488 then .timed else .standard
  else if field h.block 257 8 = "ustar  \x00".toUTF8.data.toList then .extended
  else .plain

/-- The name, of which the first part may stand elsewhere. -/
def name : Path :=
  let name := untilZero (field h.block 0 100)
  let start := untilZero (field h.block 345 155)
  if start = [] ∨ h.format = .plain ∨ h.format = .extended then name
  else start ++ Path.slash :: name

def target : Path := untilZero (field h.block 157 100)

/-- An owner who is known by name needs no number. -/
def isOwner (name number : List UInt8) : Bool :=
  untilZero name = "root".toUTF8.data.toList || (number? .owners number).isSome

/-- Whether there can be a device of the number that is given. -/
def isDevice : Bool :=
  let isBelow (limit : Int) (start : Nat) : Bool :=
    (number? .devices (field h.block start 8)).any fun n => 0 ≤ n && n < limit
  h.format = .plain || isBelow (Int.pow 2 12) 329 && isBelow (Int.pow 2 20) 337

/-- Whether the numbers about the member are numbers where they have to be. -/
def isSound : Bool :=
  let isNumber (bounds : Bounds) (start length : Nat) : Bool :=
    (number? bounds (field h.block start length)).isSome
  let format := h.format
  isNumber .modes 100 8 && isNumber .times 136 12
  && (if format = .plain then isNumber .owners 108 8 && isNumber .owners 116 8
    else isOwner (field h.block 265 32) (field h.block 108 8)
      && isOwner (field h.block 297 32) (field h.block 116 8))
  && (format ≠ .timed || isNumber .times 476 12 && isNumber .times 488 12)

end Header

end StagedTests.Tar
