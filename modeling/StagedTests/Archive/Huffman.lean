import StagedTests.Archive.Bits

/-!
# Huffman codes

A code is a tree whose leaves are symbols. Which tree it is follows from how long the code of each
symbol is: from left to right the leaves come by their depths, those of one depth by their symbols.
-/

namespace StagedTests

inductive HuffmanCode
  /-- No symbol has such a code. -/
  | unused
  | leaf (symbol : Nat)
  | fork (zero one : HuffmanCode)
  deriving DecidableEq

namespace HuffmanCode

/-- The tree below a depth of the symbols whose turn it is, given with their depths, and the
symbols that are left over. So many more levels are allowed. -/
def grow : Nat → Nat → List (Nat × Nat) → HuffmanCode × List (Nat × Nat)
  | _, _, [] => (.unused, [])
  | 0, _, (_, symbol) :: rest => (.leaf symbol, rest)
  | levels + 1, depth, (d, symbol) :: rest =>
    if d ≤ depth then (.leaf symbol, rest)
    else
      let (zero, rest) := grow levels (depth + 1) ((d, symbol) :: rest)
      let (one, rest) := grow levels (depth + 1) rest
      (.fork zero one, rest)

def deepest : Nat := 16

/-- The symbols that have a code, with its length, in the order of the leaves. -/
def ordered (lengths : List Nat) : List (Nat × Nat) :=
  (List.range deepest).flatMap fun l =>
    (lengths.zipIdx.filter fun p => p.1 = l + 1)

/-- Whether some code has no symbol. -/
def hasUnused : HuffmanCode → Bool
  | .unused => true
  | .leaf _ => false
  | .fork zero one => zero.hasUnused || one.hasUnused

/-- The code of the given lengths, if there is one. Codes without a symbol are allowed only where
none is longer than a bit. -/
def ofLengths? (lengths : List Nat) : Option HuffmanCode :=
  match grow deepest 0 (ordered lengths) with
  | (tree, []) => if tree.hasUnused && lengths.any (1 < ·) then none else some tree
  | _ => none

/-- The symbol of the code that bits begin with, which are taken one after the other. -/
def decodeBy (next : Bits → Except ReadStop (Bool × Bits)) :
    HuffmanCode → Bits → Except ReadStop (Nat × Bits)
  | .unused, _ => .error .malformed
  | .leaf symbol, b => .ok (symbol, b)
  | .fork zero one, b => do
    let (bit, b) ← next b
    if bit then one.decodeBy next b else zero.decodeBy next b

def decode (c : HuffmanCode) (b : Bits) : Except ReadStop (Nat × Bits) := c.decodeBy Bits.next b

end HuffmanCode

/-- A code whose symbols are looked up by a number of bits, all of which must be there even where
the code of the symbol is shorter. -/
structure Lookup where
  code : HuffmanCode
  width : Nat

namespace Lookup

/-- The code of the given lengths. So many bits are usual, but no more than the longest code has and
no fewer than the shortest. -/
def ofLengths? (usual : Nat) (lengths : List Nat) : Option Lookup :=
  let used := lengths.filter (0 < ·)
  let width := min (max usual (used.min?.getD 1)) (used.max?.getD 1)
  (HuffmanCode.ofLengths? lengths).map (⟨·, width⟩)

def symbol (l : Lookup) (b : Bits) : Except ReadStop (Nat × Bits) :=
  if b.left < l.width then .error .ended else l.code.decode b

end Lookup

end StagedTests
