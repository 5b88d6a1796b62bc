/-!
# Bytes as text

Bytes are decoded as UTF-8. Where they are no UTF-8 the replacement character stands for as many
of them as might have begun a character.
-/

namespace StagedTests.Text

def replacement : Char := '\ufffd'

/-- How many bytes follow a first byte, and the bounds of the second one. -/
def following (b : UInt8) : Option (Nat × UInt8 × UInt8) :=
  if 0xc2 ≤ b ∧ b ≤ 0xdf then some (1, 0x80, 0xbf)
  else if b = 0xe0 then some (2, 0xa0, 0xbf)
  else if b = 0xed then some (2, 0x80, 0x9f)
  else if 0xe1 ≤ b ∧ b ≤ 0xef then some (2, 0x80, 0xbf)
  else if b = 0xf0 then some (3, 0x90, 0xbf)
  else if 0xf1 ≤ b ∧ b ≤ 0xf3 then some (3, 0x80, 0xbf)
  else if b = 0xf4 then some (3, 0x80, 0x8f)
  else none

/-- The bytes of one character that follow its first, as far as they are there. -/
def continuation : Nat → UInt8 → UInt8 → List UInt8 → List UInt8
  | 0, _, _, _ => []
  | _, _, _, [] => []
  | count + 1, low, high, b :: bs =>
    if low ≤ b ∧ b ≤ high then b :: continuation count 0x80 0xbf bs else []

/-- The number that a first byte and its continuation stand for. -/
def codePoint (first : UInt8) (rest : List UInt8) : Nat :=
  let lead := match rest.length with
    | 1 => first.toNat % 0x20
    | 2 => first.toNat % 0x10
    | _ => first.toNat % 0x08
  rest.foldl (fun n b => n * 0x40 + b.toNat % 0x40) lead

/-- One character or its replacement, and how many bytes it takes. -/
def decodeFirst (b : UInt8) (bs : List UInt8) : Char × Nat :=
  if b < 0x80 then (Char.ofNat b.toNat, 1)
  else match following b with
    | none => (replacement, 1)
    | some (count, low, high) =>
      let rest := continuation count low high bs
      if rest.length = count then (Char.ofNat (codePoint b rest), count + 1)
      else (replacement, rest.length + 1)

def decodeChars : Nat → List UInt8 → List Char
  | 0, _ => []
  | _, [] => []
  | fuel + 1, b :: bs =>
    let (c, taken) := decodeFirst b bs
    c :: decodeChars fuel (bs.drop (taken - 1))

/-- The text of bytes, with replacements for what is none. -/
def decodeLossy (bytes : List UInt8) : String :=
  String.ofList (decodeChars bytes.length bytes)

end StagedTests.Text
