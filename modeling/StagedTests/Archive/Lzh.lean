import StagedTests.Archive.Inflate

/-!
# Data in blocks with codes of their own

Each block tells how many symbols it has, and the codes of the symbols and of distances. A symbol is a
byte, or says how long a run of bytes is that is there already. A block without symbols ends the
data, which may end anywhere, since zeros are taken to follow them.
-/

namespace StagedTests.Lzh

/-- How far back a run may begin. -/
def window : Nat := 8192

def symbols : Nat := 510

def distances : Nat := 14

def lengthSymbols : Nat := 19

def next (b : Bits) : Except ReadStop (Bool × Bits) :=
  match b.nextHigh with
  | .ok p => .ok p
  | .error _ => .ok (false, { b with place := b.place + 1 })

/-- A number of so many bits, the greatest first, behind the bits that it has already. -/
def numberFrom (start : Nat) : Nat → Bits → Except ReadStop (Nat × Bits)
  | 0, b => .ok (start, b)
  | n + 1, b => do
    let (bit, b) ← next b
    numberFrom (2 * start + bit.toNat) n b

def number (width : Nat) (b : Bits) : Except ReadStop (Nat × Bits) := numberFrom 0 width b

def code? (lengths : List Nat) : Option HuffmanCode :=
  if lengths.all (· = 0) then some (.leaf 0)
  else
    match HuffmanCode.grow HuffmanCode.deepest 0 (HuffmanCode.ordered lengths) with
    | (tree, []) => if tree.hasUnused then none else some tree
    | _ => none

/-- The code of one symbol alone, which takes no bits. -/
def single (count symbol : Nat) : Except ReadStop HuffmanCode :=
  if symbol < count then .ok (.leaf symbol) else .error .malformed

/-- How many set bits come before one that is not set, behind those that were counted. -/
def setBits : Nat → Nat → Bits → Except ReadStop (Nat × Bits)
  | 0, _, _ => .error .malformed
  | n + 1, count, b => do
    let (bit, b) ← next b
    if bit then setBits n (count + 1) b else .ok (count, b)

/-- So many lengths, the last one first. Behind the first three of them it may be told how many are
zero. -/
def shortLengths (count : Nat) (hasGap : Bool) :
    Nat → List Nat → Bits → Except ReadStop (List Nat × Bits)
  | 0, lengths, b => .ok (lengths, b)
  | n + 1, lengths, b => do
    if count ≤ lengths.length then .ok (lengths, b)
    else
      let (length, b) ← number 3 b
      let (length, b) ← if length = 7 then setBits 10 7 b else .ok (length, b)
      let lengths := length :: lengths
      if hasGap && lengths.length = 3 then
        let (gap, b) ← number 2 b
        shortLengths count hasGap n (List.replicate gap 0 ++ lengths) b
      else shortLengths count hasGap n lengths b

/-- A code for few symbols, of which there are so many. How many lengths are given is told first. -/
def shortCode (count width : Nat) (hasGap : Bool) (b : Bits) :
    Except ReadStop (HuffmanCode × Bits) := do
  let (given, b) ← number width b
  if given = 0 then
    let (symbol, b) ← number width b
    .ok (← single count symbol, b)
  else
    let (reversed, b) ← shortLengths given hasGap given [] b
    .ok (← Inflate.orMalformed (code? (reversed.reverse.take count)), b)

/-- So many lengths of the codes of symbols, the last one first. -/
def lengths (c : HuffmanCode) (count : Nat) :
    Nat → List Nat → Bits → Except ReadStop (List Nat × Bits)
  | 0, lengths, b => .ok (lengths, b)
  | n + 1, done, b => do
    if count ≤ done.length then .ok (done, b)
    else
      let (symbol, b) ← c.decodeBy next b
      match symbol with
      | 0 => lengths c count n (0 :: done) b
      | 1 =>
        let (more, b) ← number 4 b
        lengths c count n (List.replicate (more + 3) 0 ++ done) b
      | 2 =>
        let (more, b) ← number 9 b
        lengths c count n (List.replicate (more + 20) 0 ++ done) b
      | length + 2 => lengths c count n (length :: done) b

/-- The code of symbols, whose lengths are themselves in a code. -/
def mainCode (c : HuffmanCode) (b : Bits) : Except ReadStop (HuffmanCode × Bits) := do
  let (given, b) ← number 9 b
  if given = 0 then
    let (symbol, b) ← number 9 b
    .ok (← single symbols symbol, b)
  else
    let (reversed, b) ← lengths c given given [] b
    .ok (← Inflate.orMalformed (code? (reversed.reverse.take symbols)), b)

/-- How far back a run begins. -/
def distance (c : HuffmanCode) (b : Bits) : Except ReadStop (Nat × Bits) := do
  let (symbol, b) ← c.decodeBy next b
  match symbol with
  | 0 => .ok (1, b)
  | n + 1 =>
    let (more, b) ← number n b
    .ok (Nat.pow 2 n + more + 1, b)

/-- The greatest symbol that is a byte. Runs of three bytes have the next one. -/
def lastByte : Nat := 255

def run (main far : HuffmanCode) :
    Nat → Array UInt8 → Bits → Array UInt8 × Except ReadStop Bits
  | 0, out, b => (out, .ok b)
  | n + 1, out, b =>
    match main.decodeBy next b with
    | .error e => (out, .error e)
    | .ok (symbol, b) =>
      if symbol ≤ lastByte then run main far n (out.push symbol.toUInt8) b
      else
        match distance far b with
        | .error e => (out, .error e)
        | .ok (distance, b) => run main far n (Inflate.copy distance (symbol - lastByte + 2) out) b

def codes (b : Bits) : Except ReadStop (HuffmanCode × HuffmanCode × Bits) := do
  let (c, b) ← shortCode lengthSymbols 5 true b
  let (main, b) ← mainCode c b
  let (far, b) ← shortCode distances 4 false b
  .ok (main, far, b)

/-- Block after block, and whether all was in order. Of malformed data only whole windows are kept. -/
def blocks : Nat → Array UInt8 → Bits → Array UInt8 × Bool
  | 0, out, _ => (out, true)
  | n + 1, out, b =>
    match number 16 b with
    | .error _ | .ok (0, _) => (out, true)
    | .ok (size, b) =>
      match codes b with
      | .error _ => (out.take (out.size / window * window), false)
      | .ok (main, far, b) =>
        match run main far size out b with
        | (out, .ok b) => blocks n out b
        | (out, .error _) => (out.take (out.size / window * window), false)

def unpack (b : Bits) : Array UInt8 × Bool := blocks (b.left + 1) #[] b

end StagedTests.Lzh
