import StagedTests.Archive.Tar.Record

/-!
# Files of which only parts are kept

Where a file is mostly zeros an archive may keep only its other parts. Which these are is told by
records, by a list before the content, or by entries of the header and of blocks behind it. The parts
then stand one after the other, each from a new block on.
-/

namespace StagedTests.Tar

/-- Where it is told which parts of a file are kept. -/
inductive PartList
  /-- The file is kept as a whole. -/
  | nowhere
  | inRecords
  | inContent
  | inHeader
  deriving DecidableEq

/-- The regions of a file, the blocks behind what told them, how many blocks of the content were
passed over by that, and whether all of it was in order. -/
structure Parts where
  regions : List Region
  rest : List Block
  passed : Nat
  isSound : Bool

/-! ## Lists before the content -/

/-- Why a list ends too early. -/
inductive ListFault
  | malformed
  | ended
  deriving DecidableEq

def longestLine : Nat := 20

def mostRegions : Nat := Nat.pow 2 32

/-- The number on a line, and how many bytes were read. -/
def numberLine (greatest : Nat) (bytes : List UInt8) : Except ListFault Nat × Nat :=
  let line := (bytes.take longestLine).takeWhile (· ≠ 0x0a)
  if line.length = longestLine then (.error .malformed, line.length)
  else if line.length = bytes.length then (.error .ended, line.length)
  else
    match decimal? greatest (untilZero line) with
    | some n => (.ok n, line.length + 1)
    | none => (.error .malformed, line.length + 1)

/-- So many regions of a file of a size, behind those that are there, and how many bytes were read. -/
def regionLines (full : Nat) :
    Nat → List UInt8 → List Region → Except ListFault (List Region) × Nat
  | 0, _, regions => (.ok regions.reverse, 0)
  | n + 1, bytes, regions =>
    match numberLine (Nat.pow 2 63 - 1) bytes with
    | (.error e, k) => (.error e, k)
    | (.ok start, k) =>
      let bytes := bytes.drop k
      match numberLine (Nat.pow 2 63 - 1) bytes with
      | (.error e, l) => (.error e, k + l)
      | (.ok length, l) =>
        if full < start + length then (.error .malformed, k + l)
        else
          let (result, m) := regionLines full n (bytes.drop l) (⟨start, length⟩ :: regions)
          (result, k + l + m)

/-- The number of regions and then the regions, and how many bytes were read. -/
def regionList (full : Nat) (bytes : List UInt8) : Except ListFault (List Region) × Nat :=
  match numberLine (Nat.pow 2 64 - 1) bytes with
  | (.error e, k) => (.error e, k)
  | (.ok count, k) =>
    if mostRegions ≤ count then (.error .ended, k)
    else
      let (result, l) := regionLines full count (bytes.drop k) []
      (result, k + l)

/-- The list at the beginning of a content. -/
def partsInContent (full : Nat) (blocks : List Block) : Parts :=
  let (result, k) := regionList full blocks.flatten
  let count := max 1 (blocksFor k)
  match result with
  | .ok regions => ⟨regions, blocks.drop count, count, true⟩
  | .error .malformed => ⟨[], blocks.drop (count - 1), 0, false⟩
  | .error .ended => ⟨[], [], 0, false⟩

/-! ## Entries of headers -/

/-- So many fields for entries. -/
def entryFields (b : Block) (start count : Nat) : List (List UInt8) :=
  (List.range count).map fun i => field b (start + 24 * i) 24

/-- How entries end. -/
inductive EntryEnd
  /-- More of them may follow. -/
  | unfinished
  | finished
  | malformed
  deriving DecidableEq

/-- The regions that entries give, up to the first one without a length. -/
def entries (full : Nat) : List (List UInt8) → List Region × EntryEnd
  | [] => ([], .unfinished)
  | e :: rest =>
    if e.getD 12 0 = 0 then ([], .finished)
    else
      match number? .sizes (e.take 12), number? .sizes (e.drop 12) with
      | some start, some length =>
        if start + length ≤ full then
          let (regions, ending) := entries full rest
          (⟨start.toNat, length.toNat⟩ :: regions, ending)
        else ([], .malformed)
      | _, _ => ([], .malformed)

/-- The blocks with more entries, the last of which tells that it is the last. -/
def moreEntries (full : Nat) (regions : List Region) : List Block → Parts
  | [] => ⟨[], [], 0, false⟩
  | b :: rest =>
    match entries full (entryFields b 0 21) with
    | (_, .malformed) => ⟨[], rest, 0, false⟩
    | (more, .finished) => ⟨regions ++ more, rest, 0, true⟩
    | (more, .unfinished) =>
      if b.getD 504 0 = 0 then ⟨regions ++ more, rest, 0, true⟩
      else moreEntries full (regions ++ more) rest

/-- The entries of a header from a place on, and of the blocks behind it if there are such. -/
def partsInHeader (full : Nat) (h : Header) (start : Nat) (goesOn : Bool) (blocks : List Block) :
    Parts :=
  match entries full (entryFields h.block start 4) with
  | (_, .malformed) => ⟨[], blocks, 0, false⟩
  | (regions, .finished) => ⟨regions, blocks, 0, true⟩
  | (regions, .unfinished) =>
    if goesOn then moreEntries full regions blocks else ⟨regions, blocks, 0, true⟩

/-! ## Filling a file -/

/-- The first bytes of a file, with zeros where it is shorter. -/
def extendTo (size : Nat) (content : List UInt8) : List UInt8 :=
  content.take size ++ List.replicate (size - content.length) 0

theorem length_extendTo (size : Nat) (content : List UInt8) :
    (extendTo size content).length = size := by
  simp [extendTo]
  omega

/-- A file with bytes written into it from a place on. -/
def overwrite (content : List UInt8) (start : Nat) (bytes : List UInt8) : List UInt8 :=
  extendTo start content ++ bytes ++ content.drop (start + bytes.length)

/-- A file with its regions filled from blocks. A region without length is the end of the file. Also
the blocks that are left, how many were taken, and whether there were enough. -/
def fill (content : List UInt8) (taken : Nat) :
    List Region → List Block → List UInt8 × List Block × Nat × Bool
  | [], blocks => (content, blocks, taken, true)
  | r :: regions, blocks =>
    if r.length = 0 then fill (extendTo r.start content) taken regions blocks
    else
      let count := blocksFor r.length
      let bytes := (blocks.take count).flatten.take r.length
      let content := if bytes = [] then content else overwrite content r.start bytes
      if blocks.length < count then (content, [], taken, false)
      else fill content (taken + count) regions (blocks.drop count)

end StagedTests.Tar
