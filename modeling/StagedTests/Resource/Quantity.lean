import StagedTests.Text.Blank

/-!
# Quantities

Amounts of a cluster resource: a decimal number with an optional sign and an optional suffix, which
is a binary multiple (`Ki` to `Ei`), a decimal one (`n` to `E`) or a power of ten (`e3`). Blanks
around an amount do not belong to it. The amount itself is not interpreted here.
-/

namespace StagedTests

structure Quantity where
  text : String
  deriving DecidableEq

namespace Quantity

/-- The rest behind a sign, if there is one. -/
def dropSign : List Char → List Char
  | '+' :: rest => rest
  | '-' :: rest => rest
  | cs => cs

def binaryMultiples : List Char := ['K', 'M', 'G', 'T', 'P', 'E']

def decimalMultiples : List Char := ['n', 'u', 'm', 'k', 'M', 'G', 'T', 'P', 'E']

/-- An exponent behind its letter: digits with an optional sign. -/
def isExponent (cs : List Char) : Bool :=
  let digits := dropSign cs
  !digits.isEmpty && digits.all Char.isDigit

def isSuffix : List Char → Bool
  | [] => true
  | [c] => decimalMultiples.contains c
  | c :: rest => binaryMultiples.contains c && rest == ['i'] || (c == 'e' || c == 'E') && isExponent rest

/-- A number without sign and its suffix. At least one digit stands before or behind the point. -/
def isAmount (cs : List Char) : Bool :=
  let whole := cs.takeWhile Char.isDigit
  match cs.dropWhile Char.isDigit with
  | '.' :: rest =>
    (!whole.isEmpty || !(rest.takeWhile Char.isDigit).isEmpty) &&
      isSuffix (rest.dropWhile Char.isDigit)
  | rest => !whole.isEmpty && isSuffix rest

/-- The amount in a text, if it is one. -/
def parse? (s : String) : Option Quantity :=
  let q := Text.trim s
  if isAmount (dropSign q.toList) then some ⟨q⟩ else none

end Quantity

end StagedTests
