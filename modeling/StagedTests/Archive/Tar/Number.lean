/-!
# Numbers in the headers of archives

A header gives a number in a field of some bytes. It is written in octal digits, or behind a sign in
the digits of base 64, or in bytes, of which the first one tells only the sign. Blanks may stand
before it, and a blank or a zero behind it.
-/

namespace StagedTests.Tar

/-- The numbers that a field may give. -/
structure Bounds where
  least : Int
  greatest : Int

namespace Bounds

def sizes : Bounds := ⟨0, Int.pow 2 63 - 1⟩

def times : Bounds := ⟨-Int.pow 2 63, Int.pow 2 63 - 1⟩

def owners : Bounds := ⟨0, Int.pow 2 32 - 1⟩

def devices : Bounds := ⟨-Int.pow 2 31, Int.pow 2 31 - 1⟩

/-- Bounds of what says who may read and write. -/
def modes : Bounds := ⟨-Int.pow 2 63, Int.pow 2 64 - 1⟩

def admit? (b : Bounds) (n : Int) : Option Int :=
  if b.least ≤ n ∧ n ≤ b.greatest then some n else none

theorem admit?_eq_some {b : Bounds} {n m : Int} (h : b.admit? n = some m) :
    m = n ∧ b.least ≤ n ∧ n ≤ b.greatest := by
  unfold admit? at h
  split at h
  · next h' => exact ⟨(Option.some.inj h).symm, h'⟩
  · cases h

end Bounds

def isBlank (b : UInt8) : Bool := b = 0x20 || (9 ≤ b && b ≤ 13)

def isOctalDigit (b : UInt8) : Bool := 0x30 ≤ b && b ≤ 0x37

def digit64? (b : UInt8) : Option Nat :=
  if 0x41 ≤ b && b ≤ 0x5a then some (b.toNat - 0x41)
  else if 0x61 ≤ b && b ≤ 0x7a then some (b.toNat - 0x61 + 26)
  else if 0x30 ≤ b && b ≤ 0x39 then some (b.toNat - 0x30 + 52)
  else if b = 0x2b then some 62
  else if b = 0x2f then some 63
  else none

def ofDigits (base : Nat) (start : Int) (digits : List Nat) : Int :=
  digits.foldl (fun (n : Int) (d : Nat) => base * n + d) start

def octal (bytes : List UInt8) : Int := ofDigits 8 0 (bytes.map fun b => b.toNat - 0x30)

/-- Whether a number may end before these bytes. -/
def isEnd : List UInt8 → Bool
  | [] => true
  | b :: _ => b = 0 || isBlank b

/-- What stands in a field behind the blanks. A zero may stand before them. -/
def written (field : List UInt8) : List UInt8 :=
  (if field.head? = some 0 then field.drop 1 else field).dropWhile isBlank

def octal? (field : List UInt8) : Option Int :=
  match written field with
  | [] => none
  | bytes =>
    if isEnd (bytes.dropWhile isOctalDigit) then some (octal (bytes.takeWhile isOctalDigit)) else none

/-- A number in any of the ways in which it may be written. -/
def number? (bounds : Bounds) (field : List UInt8) : Option Int :=
  match written field with
  | [] => none
  | 0x80 :: b :: rest => bounds.admit? (ofDigits 256 0 ((b :: rest).map UInt8.toNat))
  | 0xff :: b :: rest => bounds.admit? (ofDigits 256 (-1) ((b :: rest).map UInt8.toNat))
  | 0x2b :: rest => (base64? rest).bind bounds.admit?
  | 0x2d :: rest => (base64? rest).bind fun n => bounds.admit? (-n)
  | _ => (octal? field).bind bounds.admit?
where
  base64? (bytes : List UInt8) : Option Int :=
    let digits := bytes.takeWhile fun b => (digit64? b).isSome
    if isEnd (bytes.drop digits.length) then some (ofDigits 64 0 (digits.filterMap digit64?)) else none

end StagedTests.Tar
