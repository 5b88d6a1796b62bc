/-!
# Base64 texts

Bytes are written in groups of four symbols of six bits, the last group filled up with padding. A
text is accepted only in its one written form: `flaw?` gives the first reason why it is not.
-/

namespace StagedTests.Base64

/-- Why a text stands for no bytes. Symbols are given as bytes, with their places. -/
inductive Flaw
  | symbol (byte : UInt8) (place : Nat)
  | length (symbols : Nat)
  | lastSymbol (byte : UInt8) (place : Nat)
  | padding
  deriving DecidableEq

def Flaw.message : Flaw → String
  | .symbol byte place => s!"Invalid symbol {byte.toNat}, offset {place}."
  | .length symbols => s!"Invalid input length: {symbols}"
  | .lastSymbol byte place => s!"Invalid last symbol {byte.toNat}, offset {place}."
  | .padding => "Invalid padding"

def bits? (b : UInt8) : Option Nat :=
  if 65 ≤ b ∧ b ≤ 90 then some (b.toNat - 65)
  else if 97 ≤ b ∧ b ≤ 122 then some (b.toNat - 71)
  else if 48 ≤ b ∧ b ≤ 57 then some (b.toNat + 4)
  else if b = 43 then some 62
  else if b = 47 then some 63
  else none

/-- The sign that fills the last group up. -/
def pad : UInt8 := 61

def badSymbol? (place : Nat) : List UInt8 → Option Flaw
  | [] => none
  | b :: rest => if (bits? b).isNone then some (.symbol b place) else badSymbol? (place + 1) rest

/-- What is wrong with the padding of the last group: there is some behind fewer than two symbols,
or something stands behind it. -/
def badPadding? (place : Nat) (symbols rest : List UInt8) : Option Flaw :=
  match rest with
  | [] => none
  | _ =>
    if symbols.length < 2 ∨ rest.any (· ≠ pad) then some (.symbol pad (place + symbols.length))
    else none

/-- Whether the last of so many symbols has bits that stand for nothing. -/
def overhangs (symbols : Nat) (last : UInt8) : Bool :=
  let value := (bits? last).getD 0
  (symbols = 2 && value % 16 ≠ 0) || (symbols = 3 && value % 4 ≠ 0)

/-- What is wrong with the last group, which begins at a place. -/
def lastGroup? (place : Nat) (group : List UInt8) : Option Flaw :=
  let symbols := group.takeWhile (· ≠ pad)
  let rest := group.dropWhile (· ≠ pad)
  (badSymbol? place symbols).or <| (badPadding? place symbols rest).or <|
    if symbols.length < 2 then some (.length (place + symbols.length))
    else if group.length ≠ 4 then some .padding
    else match symbols.getLast? with
      | some last =>
        if overhangs symbols.length last then some (.lastSymbol last (place + symbols.length - 1))
        else none
      | none => none

/-- A byte too many that is no symbol either. -/
def strayByte? (bytes : List UInt8) : Option Flaw :=
  if bytes.length % 4 = 1 then
    bytes.getLast?.bind fun b =>
      if b ≠ pad ∧ (bits? b).isNone then some (.symbol b (bytes.length - 1)) else none
  else none

/-- The first reason why bytes are no written form. -/
def flaw? (bytes : List UInt8) : Option Flaw :=
  if bytes.isEmpty then none
  else
    let whole := (bytes.length - 1) / 4 * 4
    (strayByte? bytes).or <| (badSymbol? 0 (bytes.take whole)).or <|
      lastGroup? whole (bytes.drop whole)

end StagedTests.Base64
