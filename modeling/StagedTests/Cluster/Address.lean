import StagedTests.Text.Form
import StagedTests.Text.Ranges

/-!
# Addresses

Where a request goes, as a path and what is asked of it behind the first question mark. What
follows a number sign belongs to neither. Neither part may hold a byte that would have to be
written otherwise, and the whole has a greatest length.
-/

namespace StagedTests

structure Address where
  path : String
  parameters : List (String × String)
  deriving DecidableEq

inductive AddressFault
  | tooLong
  | invalidCharacter
  deriving DecidableEq

def AddressFault.message : AddressFault → String
  | .tooLong => "uri too long"
  | .invalidCharacter => "invalid uri character"

namespace Address

def longest : Nat := 65534

/-- Bytes of characters outside ASCII may stand anywhere. -/
def isForeign (b : UInt8) : Bool := 0x80 ≤ b

def isPathByte (b : UInt8) : Bool :=
  Text.covers #[(0x21, 0x22), (0x24, 0x3b), (0x3d, 0x3d), (0x40, 0x5f), (0x61, 0x7e)] b.toNat
    || isForeign b

def isQueryByte (b : UInt8) : Bool :=
  Text.covers #[(0x21, 0x21), (0x24, 0x3b), (0x3d, 0x3d), (0x3f, 0x7e)] b.toNat || isForeign b

def read (text : String) : Except AddressFault Address :=
  let bytes := text.toUTF8.data.toList
  if bytes.length > longest then .error .tooLong
  else
    let (path, query) := Text.Form.splitFirst 0x3f (bytes.takeWhile (· ≠ 0x23))
    if path.all isPathByte && query.all isQueryByte then
      .ok ⟨Text.decodeLossy path, Text.Form.parameters query⟩
    else .error .invalidCharacter

end Address

end StagedTests
