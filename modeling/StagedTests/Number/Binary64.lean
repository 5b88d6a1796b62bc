/-!
# Binary floating point numbers

The finite numbers of the 64-bit binary format, as exact data: a sign, a whole significand below
`2 ^ 53` and a power of two. Arithmetic is done on fractions of natural numbers and rounded once,
to the nearest number of the format, a tie going to the even significand.
-/

namespace StagedTests

/-- The number `± significand * 2 ^ exponent`. A zero keeps its sign. -/
structure Binary64 where
  negative : Bool
  significand : Nat
  exponent : Int
  deriving DecidableEq, Repr

namespace Binary64

def zero : Binary64 := ⟨false, 0, 0⟩

instance : Inhabited Binary64 := ⟨zero⟩

def minExponent : Int := -1074

def maxExponent : Int := 971

/-- The whole number nearest to `num / den`, a tie going to the even one. -/
def roundDiv (num den : Nat) : Nat :=
  let q := num / den
  let r := num % den
  if 2 * r < den then q
  else if 2 * r = den then q + q % 2
  else q + 1

/-- `num / den / 2 ^ e` as a fraction of natural numbers. -/
def scale (num den : Nat) (e : Int) : Nat × Nat :=
  if e ≥ 0 then (num, den * Nat.pow 2 e.toNat) else (num * Nat.pow 2 (-e).toNat, den)

/-- The number nearest to `± num / den`; none if it is too big for the format. -/
def round (negative : Bool) (num den : Nat) : Option Binary64 :=
  if num = 0 then some ⟨negative, 0, 0⟩
  else
    let guess : Int := Nat.log2 num - Nat.log2 den - 53
    let (n, d) := scale num den guess
    let e := max minExponent (if n / d < Nat.pow 2 53 then guess else guess + 1)
    let (n, d) := scale num den e
    let m := roundDiv n d
    let (m, e) := if m = Nat.pow 2 53 then (Nat.pow 2 52, e + 1) else (m, e)
    if e > maxExponent then none
    else some ⟨negative, m, if m = 0 then 0 else e⟩

/-- The absolute value as a fraction of natural numbers. -/
def fraction (x : Binary64) : Nat × Nat :=
  scale x.significand 1 (-x.exponent)

/-- The number nearest to a whole number; none if it is too big. -/
def ofInt? (i : Int) : Option Binary64 :=
  round (i < 0) i.natAbs 1

/-- The product, rounded; none if it is too big. -/
def mul? (x y : Binary64) : Option Binary64 :=
  let (a, b) := x.fraction
  let (c, d) := y.fraction
  round (x.negative != y.negative) (a * c) (b * d)

/-- The quotient, rounded; none if it is too big or the divisor is zero. -/
def div? (x y : Binary64) : Option Binary64 :=
  let (a, b) := x.fraction
  let (c, d) := y.fraction
  if c = 0 then none else round (x.negative != y.negative) (a * d) (b * c)

/-- The number nearest to `10 ^ k`. -/
def powTen? (k : Nat) : Option Binary64 :=
  round false (Nat.pow 10 k) 1

/-- Takes a number `k` decimal places to the right, one rounding for every step of up to 308
places. A zero stays what it is wherever the point goes; a step to the right of more than 308
places makes any other number too big. -/
def shift? : Nat → Binary64 → Int → Option Binary64
  | 0, _, _ => none
  | fuel + 1, x, k =>
    if k.natAbs ≤ 308 then
      (powTen? k.natAbs).bind fun p => if k ≥ 0 then x.mul? p else x.div? p
    else if x.significand = 0 then some x
    else if k ≥ 0 then none
    else (powTen? 308).bind fun p => (x.div? p).bind fun y => shift? fuel y (k + 308)

/-- The number written as `± digits * 10 ^ k`, where `digits` is whole: the digits are rounded
first, then the point is moved. -/
def ofDecimal? (negative : Bool) (digits : Nat) (k : Int) : Option Binary64 :=
  (round negative digits 1).bind fun x => shift? 8 x k

/-- Thousandths of a unit as units. -/
def ofThousandths (n : Nat) : Binary64 :=
  ((round false n 1).bind fun x => (powTen? 3).bind fun p => x.div? p).getD zero

end Binary64

end StagedTests
