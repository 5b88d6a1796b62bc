import StagedTests.Archive.Bits

/-!
# Data in packed form

Each byte has a code, and one more code ends the data. How many codes there are of each length is
told first, then their bytes. From the shortest to the longest the codes of a length are the greatest
numbers of so many bits that no shorter code begins, so that the smaller ones are left for longer
codes; the last code of the greatest length ends the data.
-/

namespace StagedTests.Packed

/-- The codes of a length: the least of them as a number, and their bytes in the same order. -/
structure Level where
  least : Nat
  bytes : Array UInt8

/-- How many bits are looked at before a shorter code is taken. -/
def lookAhead : Nat := 12

def longest : Nat := 25

def most : Nat := 257

/-- How many codes each length has, given how many lengths are left and how many numbers of that
length are free. The greatest length has two more. -/
def counts : Nat → Nat → Bits → Except ReadStop (List Nat × Bits)
  | 0, _, b => .ok ([], b)
  | n + 1, free, b => do
    let (count, b) ← b.byte
    let count := count.toNat
    if free < count + 1 + (if n = 0 then 1 else 0) then .error .malformed
    else
      let (rest, b) ← counts n ((free - count) * 2) b
      .ok ((if n = 0 then count + 2 else count) :: rest, b)

/-- The bytes of the codes of each length. The last code of the last one has none. -/
def levelBytes : List Nat → Bits → Except ReadStop (List (Array UInt8) × Bits)
  | [], b => .ok ([], b)
  | count :: rest, b => do
    let (bytes, b) ← b.run (if rest = [] then count - 1 else count)
    let (more, b) ← levelBytes rest b
    .ok (bytes.toArray :: more, b)

/-- How many numbers of a length begin longer codes, for each length. -/
def begun : List Nat → List Nat
  | [] => []
  | _ :: rest =>
    match rest, begun rest with
    | count :: _, n :: more => (n + count) / 2 :: n :: more
    | _, _ => [0]

/-- The code at the beginning: its byte, or nothing at the end of the data. -/
def symbol : List Level → Nat → Bits → Except ReadStop (Option UInt8 × Bits)
  | [], _, _ => .error .malformed
  | l :: rest, number, b => do
    let (bit, b) ← b.nextHigh
    let number := 2 * number + bit.toNat
    if number < l.least then symbol rest number b else .ok (l.bytes[number - l.least]?, b)

def run (levels : List Level) : Nat → Array UInt8 → Bits → Array UInt8 × Except ReadStop Bits
  | 0, out, _ => (out, .error .ended)
  | n + 1, out, b =>
    if b.left < min lookAhead levels.length then (out, .error .ended)
    else
      match symbol levels 0 b with
      | .error e => (out, .error e)
      | .ok (none, b) => (out, .ok b.align)
      | .ok (some x, b) => run levels n (out.push x) b

/-- How long the data are, and the codes in them by their lengths. -/
def header (b : Bits) : Except ReadStop (Nat × List Level × Bits) := do
  let (length, b) ← b.run 4
  let length := length.foldl (fun n x => 256 * n + x.toNat) 0
  let (deepest, b) ← b.byte
  let deepest := deepest.toNat
  if deepest = 0 ∨ longest < deepest then .error .malformed
  else
    let (counts, b) ← counts deepest 2 b
    if most < counts.foldl (· + ·) 0 then .error .malformed
    else
      let (bytes, b) ← levelBytes counts b
      let begun := begun counts
      if counts.headD 0 + begun.headD 0 ≠ 2 then .error .malformed
      else .ok (length, (begun.zip bytes).map fun (n, l) => ⟨n, l⟩, b)

/-- What data unpack to, and what follows them. -/
def unpack (b : Bits) : Array UInt8 × Except ReadStop Bits :=
  match header b with
  | .error e => (#[], .error e)
  | .ok (length, levels, b) =>
    match run levels (b.left + 1) #[] b with
    | (out, .ok b) => (out, if out.size % Nat.pow 2 32 = length then .ok b else .error .malformed)
    | p => p

end StagedTests.Packed
