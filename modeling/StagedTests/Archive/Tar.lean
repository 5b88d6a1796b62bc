import StagedTests.Archive.Tar.Sparse

/-!
# Tar archives

An archive is a run of blocks: for each member a header, and behind it the blocks of its content. A
block of zeros ends the archive. Names that do not fit into a header stand in the content of a
member of their own before it, either alone or as a record among others.
-/

namespace StagedTests.Tar

inductive Content
  | directory
  | file (bytes : List UInt8)
  /-- Another name of a file that came before. -/
  | link (target : Path)
  /-- A name that stands for what is found at a path from its own directory on. -/
  | symbolic (target : Path)
  /-- Something that is no file, such as a device. -/
  | special
  deriving DecidableEq

structure Member where
  name : Path
  content : Content
  deriving DecidableEq

/-- The members of an archive, and whether all of it was in order. -/
structure Contents where
  members : List Member
  isIntact : Bool
  deriving DecidableEq

/-! ## Headers of members -/

/-- What came before a header and is about its member, and the records about all that follow, of which
the first one is taken into account last. -/
structure Pending where
  name : Option Path
  target : Option Path
  records : Option (List UInt8)
  common : List Record

namespace Pending

/-- Nothing about a single member. -/
def about (common : List Record) : Pending := ⟨none, none, none, common⟩

end Pending

/-- What blocks begin with. -/
inductive Found
  | nothing
  | zeros
  | unreadable
  | header (h : Header)

/-- What was found behind what is no member, what that told, the blocks that are left, and whether
all was in order. -/
structure Search where
  found : Found
  pending : Pending
  rest : List Block
  isSound : Bool

/-- Looks for the header of the next member. -/
def search : Nat → Pending → List Block → Bool → Search
  | 0, p, blocks, isSound => ⟨.nothing, p, blocks, isSound⟩
  | _, p, [], isSound => ⟨.nothing, p, [], isSound⟩
  | n + 1, p, b :: rest, isSound =>
    if b.all (· = 0) then ⟨.zeros, p, rest, isSound⟩
    else if !isHeader b then ⟨.unreadable, p, rest, isSound⟩
    else
      match Header.ofBlock? b with
      | none => ⟨.unreadable, p, rest, false⟩
      | some h =>
        let count := blocksFor h.size
        let content := (rest.take count).flatten
        let bytes := content.take h.size
        let behind := rest.drop count
        let isWhole := isSound && count ≤ rest.length
        match h.kind with
        | .longName => search n { p with name := some (untilZero content) } behind isWhole
        | .longTarget => search n { p with target := some (untilZero content) } behind isWhole
        | .records => search n { p with records := some bytes } behind isWhole
        | .commonRecords =>
          let (records, inOrder) := Record.ofBytes bytes
          let (now, later) := records.partition Record.isImmediate
          let told := now.foldl Description.take (.plain [] [] 0 inOrder)
          search n { p with common := later } behind (isWhole && told.isSound)
        | _ => ⟨.header h, p, rest, isSound⟩

/-! ## Members -/

/-- What a header and the records before it say. -/
def describe (h : Header) (p : Pending) : Description :=
  let (own, inOrder) := Record.ofBytes (p.records.getD [])
  let start := Description.plain (p.name.getD h.name) (p.target.getD h.target) h.size h.isSound
  ((p.common.reverse ++ own).foldl Description.take start).checked inOrder

/-- Where it is told which parts of a member are kept. -/
def partList (h : Header) (p : Pending) (d : Description) : PartList :=
  match h.format with
  | .plain => .nowhere
  | .standard =>
    if p.records.isNone then .nowhere
    else if d.version ≠ 0 then .inContent
    else if d.regions = [] then .nowhere
    else .inRecords
  | .timed | .extended => if h.kind = .sparse then .inHeader else .nowhere

/-- The parts that a header tells of, and whether the size of the whole file is in order. -/
def headerParts (h : Header) (blocks : List Block) : Parts :=
  let isTimed := h.format = .timed
  let full? := number? .sizes (field h.block (if isTimed then 452 else 483) 12)
  let full := (full?.getD 0).toNat
  let parts :=
    if isTimed then
      if h.block.getD 345 0 = 0 && h.block.getD 366 0 ≠ 0 then
        partsInHeader full h 356 (h.block.getD 355 0 ≠ 0) blocks
      else moreEntries full [] blocks
    else partsInHeader full h 386 (h.block.getD 482 0 ≠ 0) blocks
  { parts with
    passed := if isTimed then blocks.length - parts.rest.length else 0
    isSound := parts.isSound && full?.isSome }

/-- Something read from blocks, the blocks that are left, and whether all was in order. -/
structure Reading (α : Type) where
  value : α
  rest : List Block
  isSound : Bool

/-- The content of a file that takes so many bytes of the archive, and is given as a whole or by its
parts. If it is only passed over its parts are not looked for. -/
def readParts (size : Nat) (parts : Parts) (isPassed : Bool) : Reading (List UInt8) :=
  let (content, rest, taken, enough) :=
    if isPassed then ([], parts.rest, parts.passed, true)
    else fill [] parts.passed parts.regions parts.rest
  let left := blocksFor (size - blockSize * taken)
  ⟨content, rest.drop left, parts.isSound && enough && left ≤ rest.length⟩

def readWhole (size : Nat) (blocks : List Block) : Reading (List UInt8) :=
  let count := blocksFor size
  ⟨(blocks.take count).flatten.take size, blocks.drop count, count ≤ blocks.length⟩

/-- The content of a member that is a file. -/
def readFile (h : Header) (p : Pending) (d : Description) (isPassed : Bool) (blocks : List Block) :
    Reading (List UInt8) :=
  let full := d.fullSize.getD d.size
  match partList h p d with
  | .nowhere => readWhole full blocks
  | .inRecords => readParts d.size ⟨d.regions.reverse, blocks, 0, true⟩ isPassed
  | .inContent => readParts d.size (partsInContent full blocks) isPassed
  | .inHeader => readParts full (headerParts h blocks) isPassed

/-- What a member is if it is no file. -/
inductive Other
  | content (c : Content)
  /-- It is passed over, which may be a fault. -/
  | passed (isSound : Bool)

/-- What a member is if it is no file, and whether it has a content of its own all the same. -/
def other? (h : Header) (d : Description) : Option (Other × Bool) :=
  match h.kind with
  | .file => if Path.trimEnd d.name ≠ d.name then some (.content .directory, false) else none
  | .link => some (.content (.link (Path.inner d.target)), false)
  | .symbolic => some (.content (.symbolic d.target), false)
  | .device => some (if h.isDevice then .content .special else .passed false, false)
  | .pipe => some (.content .special, false)
  | .directory => some (.content .directory, false)
  | .listing => some (.content .directory, true)
  | .label => some (.passed true, true)
  | .rest => some (.passed false, true)
  | _ => none

/-- The member that begins with a header. One whose name leads back is not taken, nor one whose own
content is not all there. -/
def readMember (h : Header) (p : Pending) (blocks : List Block) : Reading (List Member) :=
  let d := describe h p
  let isRefused := Path.leadsBack d.name
  let name := Path.inner (Path.trimEnd d.name)
  let isSound := d.isSound && !isRefused
  match if partList h p d = .nowhere then other? h d else none with
  | none =>
    let r := readFile h p d isRefused blocks
    ⟨if isRefused then [] else [⟨name, .file r.value⟩], r.rest, isSound && r.isSound⟩
  | some (what, hasContent) =>
    let r := if hasContent || isRefused && h.kind ≠ .directory then readFile h p d true blocks
      else ⟨[], blocks, true⟩
    match what with
    | .content c =>
      ⟨if isRefused || !r.isSound then [] else [⟨name, c⟩], r.rest, isSound && r.isSound⟩
    | .passed ok => ⟨[], r.rest, isSound && r.isSound && ok⟩

/-- The members that blocks hold. -/
def members : Nat → List Record → List Block → Contents
  | 0, _, _ => ⟨[], true⟩
  | n + 1, common, blocks =>
    let s := search (blocks.length + 1) (.about common) blocks true
    match s.found with
    | .nothing => ⟨[], s.isSound⟩
    | .zeros =>
      let behind := search (s.rest.length + 1) (.about s.pending.common) s.rest s.isSound
      ⟨[], behind.isSound⟩
    | .unreadable => ⟨(members n s.pending.common s.rest).members, false⟩
    | .header h =>
      let r := readMember h s.pending s.rest
      let more := members n s.pending.common r.rest
      ⟨r.value ++ more.members, s.isSound && r.isSound && more.isIntact⟩

def blocks : Nat → List UInt8 → List Block
  | 0, _ => []
  | n + 1, bytes => bytes.take blockSize :: blocks n (bytes.drop blockSize)

/-- What an archive holds. What does not fill a block is passed over. -/
def read (bytes : List UInt8) : Contents :=
  let count := bytes.length / blockSize
  members (count + 1) [] (blocks count bytes)

end StagedTests.Tar
