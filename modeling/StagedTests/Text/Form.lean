import StagedTests.Text.Utf8

/-!
# Form encoding

Names and values as the query of an address writes them: `name=value` joined by ampersands. A
space is written as a plus, letters, digits and four marks as they are, and any other byte as a
percent sign with two digits. Empty parts are passed over on reading, and a percent sign without
two digits stands for itself.
-/

namespace StagedTests.Text.Form

/-- A byte that is written as it is. -/
def isPlain (b : UInt8) : Bool :=
  let n := b.toNat
  (48 ≤ n && n ≤ 57) || (65 ≤ n && n ≤ 90) || (97 ≤ n && n ≤ 122) || [42, 45, 46, 95].contains n

def hexDigits : Array Char :=
  #['0', '1', '2', '3', '4', '5', '6', '7', '8', '9', 'A', 'B', 'C', 'D', 'E', 'F']

def encodeByte (b : UInt8) : List Char :=
  if isPlain b then [Char.ofNat b.toNat]
  else if b = 0x20 then ['+']
  else ['%', hexDigits.getD (b.toNat / 16) '0', hexDigits.getD (b.toNat % 16) '0']

def encode (s : String) : String :=
  String.ofList (s.toUTF8.data.toList.flatMap encodeByte)

def hexValue? (b : UInt8) : Option UInt8 :=
  if 48 ≤ b ∧ b ≤ 57 then some (b - 48)
  else if 65 ≤ b ∧ b ≤ 70 then some (b - 55)
  else if 97 ≤ b ∧ b ≤ 102 then some (b - 87)
  else none

/-- The bytes that are written. -/
def decodeBytes : List UInt8 → List UInt8
  | 0x25 :: a :: b :: rest =>
    match hexValue? a, hexValue? b with
    | some x, some y => (16 * x + y) :: decodeBytes rest
    | _, _ => 0x25 :: decodeBytes (a :: b :: rest)
  | 0x2b :: rest => 0x20 :: decodeBytes rest
  | b :: rest => b :: decodeBytes rest
  | [] => []

def decode (bytes : List UInt8) : String := decodeLossy (decodeBytes bytes)

/-- What stands before the first of a byte, and what behind it. -/
def splitFirst (mark : UInt8) (bytes : List UInt8) : List UInt8 × List UInt8 :=
  (bytes.takeWhile (· ≠ mark), (bytes.dropWhile (· ≠ mark)).drop 1)

def parameters (query : List UInt8) : List (String × String) :=
  ((query.splitOn 0x26).filter fun part => !part.isEmpty).map fun part =>
    let (name, value) := splitFirst 0x3d part
    (decode name, decode value)

/-- Parameters as a query, each behind an ampersand. -/
def appended (l : List (String × String)) : String :=
  String.join (l.map fun p => "&" ++ encode p.1 ++ "=" ++ encode p.2)

theorem splitFirst_fst_append (mark : UInt8) (bytes : List UInt8) (h : mark ∈ bytes) :
    (splitFirst mark bytes).1 ++ mark :: (splitFirst mark bytes).2 = bytes := by
  induction bytes with
  | nil => simp at h
  | cons b rest ih =>
    by_cases hb : b = mark
    · simp [splitFirst, hb]
    · have hr : mark ∈ rest := by
        rcases List.mem_cons.mp h with h | h
        · exact absurd h.symm hb
        · exact h
      simpa [splitFirst, hb] using ih hr

theorem decodeBytes_plain (b : UInt8) (rest : List UInt8) (h : b ≠ 0x25) (h' : b ≠ 0x2b) :
    decodeBytes (b :: rest) = b :: decodeBytes rest := by
  rw [decodeBytes] <;> simp_all

end StagedTests.Text.Form
