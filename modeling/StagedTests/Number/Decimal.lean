import StagedTests.Number.Binary64

/-!
# Decimal texts of binary numbers

`shortest` is the decimal with the fewest digits that rounds back to a number, and of those the
nearest; `toText` writes it. `toFixed` writes a number with a fixed count of decimal places. Both
are computed on exact fractions.
-/

namespace StagedTests

def decimalDigits (n : Nat) : List Char :=
  Nat.toDigits 10 n

namespace Binary64

/-- The position of the first digit of `num / den`: the `p` with `10 ^ p ≤ num / den < 10 ^ (p + 1)`. -/
def leadingPlace (num den : Nat) : Int :=
  if num ≥ den then (decimalDigits (num / den)).length - 1
  else -((decimalDigits ((den - 1) / num)).length : Int)

/-- The bounds of the fractions that round to a number, doubled and over one denominator: the
fraction itself, the lower and the upper bound. Below a power of two the grid is finer. -/
def bounds (x : Binary64) : Nat × Nat × Nat × Nat :=
  let (n, d) := scale (4 * x.significand) 4 (-x.exponent)
  let unit := n / (4 * x.significand)
  let below := if x.significand = Nat.pow 2 52 ∧ x.exponent > minExponent then 1 else 2
  (n, n - below * unit, n + 2 * unit, d)

/-- The one of the two neighbours of a number on the grid of `10 ^ k` that rounds back to it, the
nearer if both do. -/
def onGrid? (x : Binary64) (k : Int) : Option Nat :=
  let (n, low, high, d) := x.bounds
  let (up, down) := if k ≥ 0 then (1, Nat.pow 10 k.toNat) else (Nat.pow 10 (-k).toNat, 1)
  let width := d * down
  let floor := n * up / width
  let fits := fun (c : Nat) =>
    if x.significand % 2 = 0 then low * up ≤ c * width ∧ c * width ≤ high * up
    else low * up < c * width ∧ c * width < high * up
  let rest := n * up - floor * width
  if fits floor then
    if fits (floor + 1) then
      if 2 * rest < width then some floor
      else if 2 * rest = width then some (floor + floor % 2)
      else some (floor + 1)
    else some floor
  else if fits (floor + 1) then some (floor + 1)
  else none

/-- The shortest decimal `c * 10 ^ k` that rounds back to the number, searched from `digits`
significant digits on. -/
def search (x : Binary64) (place : Int) : Nat → Int → Nat × Int
  | 0, k => ((x.onGrid? k).getD 0, k)
  | more + 1, k =>
    match x.onGrid? k with
    | some c => (c, k)
    | none => search x place more (k - 1)

/-- Digits without zeros at their end, each zero raising the exponent. -/
def stripZeros : Nat → Nat → Int → Nat × Int
  | 0, c, k => (c, k)
  | fuel + 1, c, k =>
    if c ≠ 0 ∧ c % 10 = 0 then stripZeros fuel (c / 10) (k + 1) else (c, k)

/-- The decimal `c * 10 ^ k` with the fewest digits that rounds back to the number. -/
def shortest (x : Binary64) : Nat × Int :=
  if x.significand = 0 then (0, 0)
  else
    let (n, d) := x.fraction
    let place := leadingPlace n d
    let (c, k) := search x place 17 place
    stripZeros 20 c k

/-- Numbers are written positionally while their first digit stands in one of these places. -/
def positional (place : Int) : Bool :=
  -5 ≤ place && place ≤ 15

/-- The shortest text that reads back as the number: positional with at least one decimal place,
or with a signed exponent. -/
def toText (x : Binary64) : String :=
  let (c, k) := x.shortest
  let digits := decimalDigits c
  let place := k + digits.length - 1
  let body :=
    if positional place then
      if k ≥ 0 then digits ++ List.replicate k.toNat '0' ++ ['.', '0']
      else if place ≥ 0 then
        digits.take (place.toNat + 1) ++ '.' :: digits.drop (place.toNat + 1)
      else '0' :: '.' :: List.replicate (-place - 1).toNat '0' ++ digits
    else
      let exponent := decimalDigits place.natAbs
      digits.take 1 ++ (if digits.length > 1 then '.' :: digits.drop 1 else []) ++
        'e' :: (if place < 0 then '-' else '+') :: exponent
  String.ofList (if x.negative then '-' :: body else body)

/-- The number with `places` decimal places, a tie going to the even last digit. -/
def toFixed (places : Nat) (x : Binary64) : String :=
  let (n, d) := x.fraction
  let scaled := roundDiv (n * Nat.pow 10 places) d
  let digits := decimalDigits scaled
  let padded := List.replicate (places + 1 - digits.length) '0' ++ digits
  let whole := padded.take (padded.length - places)
  let body := whole ++ (if places = 0 then [] else '.' :: padded.drop (padded.length - places))
  String.ofList (if x.negative then '-' :: body else body)

end Binary64

end StagedTests
