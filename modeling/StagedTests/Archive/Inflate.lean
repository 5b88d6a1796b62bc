import StagedTests.Archive.Huffman

/-!
# Deflated data

Data in the format of RFC 1951: blocks of plain bytes, or of tokens that are bytes or repeat a run
of bytes already there. What comes before the first byte is taken to be zero.
-/

namespace StagedTests.Inflate

inductive Token
  | byte (b : UInt8)
  /-- Repeats so many bytes, beginning with the one so far back. -/
  | copy (length distance : Nat)
  | finish
  deriving DecidableEq

/-- The least length that each symbol from 257 on stands for, and how many bits are added. -/
def lengthCodes : Array (Nat × Nat) :=
  #[(3, 0), (4, 0), (5, 0), (6, 0), (7, 0), (8, 0), (9, 0), (10, 0), (11, 1), (13, 1), (15, 1),
    (17, 1), (19, 2), (23, 2), (27, 2), (31, 2), (35, 3), (43, 3), (51, 3), (59, 3), (67, 4),
    (83, 4), (99, 4), (115, 4), (131, 5), (163, 5), (195, 5), (227, 5), (258, 0)]

/-- The least distance that each symbol stands for, and how many bits are added. -/
def distanceCodes : Array (Nat × Nat) :=
  #[(1, 0), (2, 0), (3, 0), (4, 0), (5, 1), (7, 1), (9, 2), (13, 2), (17, 3), (25, 3), (33, 4),
    (49, 4), (65, 5), (97, 5), (129, 6), (193, 6), (257, 7), (385, 7), (513, 8), (769, 8),
    (1025, 9), (1537, 9), (2049, 10), (3073, 10), (4097, 11), (6145, 11), (8193, 12), (12289, 12),
    (16385, 13), (24577, 13)]

/-- The codes of a block: one for bytes and lengths, one for distances. -/
structure Codes where
  main : Lookup
  distances : Lookup

/-- A number given by a symbol and the bits behind it. -/
def extended (table : Array (Nat × Nat)) (symbol : Nat) (b : Bits) :
    Except ReadStop (Nat × Bits) :=
  match table[symbol]? with
  | none => .error .malformed
  | some (least, bits) => (b.number bits).map fun (n, b) => (least + n, b)

def Codes.token (c : Codes) (b : Bits) : Except ReadStop (Token × Bits) := do
  let (symbol, b) ← c.main.symbol b
  if symbol < 256 then .ok (.byte symbol.toUInt8, b)
  else if symbol = 256 then .ok (.finish, b)
  else
    let (length, b) ← extended lengthCodes (symbol - 257) b
    let (symbol, b) ← c.distances.symbol b
    let (distance, b) ← extended distanceCodes symbol b
    .ok (.copy length distance, b)

def copy (distance : Nat) : Nat → Array UInt8 → Array UInt8
  | 0, out => out
  | n + 1, out =>
    let b := if distance ≤ out.size then out.getD (out.size - distance) 0 else 0
    copy distance n (out.push b)

/-- What was made of data so far, and what is left or why nothing more can be made of it. -/
abbrev Progress := Array UInt8 × Except ReadStop Bits

/-- The tokens of a block. Each takes at least one bit. -/
def tokens (c : Codes) : Nat → Array UInt8 → Bits → Progress
  | 0, out, _ => (out, .error .ended)
  | n + 1, out, b =>
    match c.token b with
    | .error e => (out, .error e)
    | .ok (.byte x, b) => tokens c n (out.push x) b
    | .ok (.copy length distance, b) => tokens c n (copy distance length out) b
    | .ok (.finish, b) => (out, .ok b)

def fixedCodes : Codes where
  main := (Lookup.ofLengths? 7 (List.replicate 144 8 ++ List.replicate 112 9 ++
    List.replicate 24 7 ++ List.replicate 8 8)).getD ⟨.unused, 7⟩
  distances := ⟨(HuffmanCode.grow 5 0 ((List.range 30).map (5, ·))).1, 5⟩

/-- The order in which the lengths of the codes for code lengths are given. -/
def lengthOrder : List Nat := [16, 17, 18, 0, 8, 7, 9, 6, 10, 5, 11, 4, 12, 3, 13, 2, 14, 1, 15]

/-- So many code lengths, the last one first, behind those that are there. A length may be given as
one that repeats the last one or zero. -/
def codeLengths (c : Lookup) (count : Nat) :
    Nat → List Nat → Bits → Except ReadStop (List Nat × Bits)
  | 0, lengths, b => .ok (lengths, b)
  | n + 1, lengths, b => do
    if count ≤ lengths.length then .ok (lengths, b)
    else
      let (symbol, b) ← c.symbol b
      if symbol < 16 then codeLengths c count n (symbol :: lengths) b
      else
        let (least, bits, length) := match symbol with
          | 16 => (3, 2, lengths.headD 0)
          | 17 => (3, 3, 0)
          | _ => (11, 7, 0)
        let (more, b) ← b.number bits
        let lengths := List.replicate (least + more) length ++ lengths
        if count < lengths.length then .error .malformed else codeLengths c count n lengths b

def triples : Nat → Bits → Except ReadStop (List Nat × Bits)
  | 0, b => .ok ([], b)
  | n + 1, b => do
    let (x, b) ← b.number 3
    let (rest, b) ← triples n b
    .ok (x :: rest, b)

def orMalformed {α : Type} : Option α → Except ReadStop α
  | some x => .ok x
  | none => .error .malformed

/-- The codes that a block describes itself. -/
def describedCodes (b : Bits) : Except ReadStop (Codes × Bits) := do
  let (main, b) ← b.number 5
  let (distances, b) ← b.number 5
  let (given, b) ← b.number 4
  let (main, distances) := (main + 257, distances + 1)
  if 286 < main ∨ 30 < distances then .error .malformed
  else
    let (short, b) ← triples (given + 4) b
    let lengths := (List.range 19).map fun symbol =>
      ((lengthOrder.zip short).lookup symbol).getD 0
    let c ← orMalformed (Lookup.ofLengths? 7 lengths)
    let (reversed, b) ← codeLengths c (main + distances) (main + distances) [] b
    let lengths := reversed.reverse
    let main' ← orMalformed (Lookup.ofLengths? 9 (lengths.take main))
    let distances' ← orMalformed (Lookup.ofLengths? 6 (lengths.drop main))
    .ok (⟨main', distances'⟩, b)

/-- A block of plain bytes: how many there are, the complement of that, and the bytes. -/
def plain (out : Array UInt8) (b : Bits) : Progress :=
  match (do
    let (length, b) ← b.align.number 16
    let (complement, b) ← b.number 16
    if length + complement = 0xffff then .ok (length, b) else .error .malformed) with
  | .error e => (out, .error e)
  | .ok (length, b) =>
    let start := b.place / 8
    let taken := b.bytes.extract start (start + length)
    (out ++ taken,
      if taken.size = length then .ok { b with place := b.place + 8 * length }
      else .error .ended)

def coded (out : Array UInt8) : Except ReadStop (Codes × Bits) → Progress
  | .error e => (out, .error e)
  | .ok (c, b) => tokens c (b.left + 1) out b

/-- A block, and whether it is the last one. -/
def block (out : Array UInt8) (b : Bits) : Except ReadStop Bool × Progress :=
  match (do
    let (last, b) ← b.next
    let (kind, b) ← b.number 2
    .ok (last, kind, b)) with
  | .error e => (.error e, out, .error e)
  | .ok (last, kind, b) =>
    (.ok last, match kind with
      | 0 => plain out b
      | 1 => coded out (.ok (fixedCodes, b))
      | 2 => coded out (describedCodes b)
      | _ => (out, .error .malformed))

/-- Block after block up to the last one. Each takes at least one bit. -/
def blocks : Nat → Array UInt8 → Bits → Progress
  | 0, out, _ => (out, .error .ended)
  | n + 1, out, b =>
    match block out b with
    | (.ok false, out, .ok b) => blocks n out b
    | (_, p) => p

def inflate (b : Bits) : Progress := blocks (b.left + 1) #[] b

end StagedTests.Inflate
