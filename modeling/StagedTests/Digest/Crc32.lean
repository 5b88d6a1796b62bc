/-!
# The CRC-32 check sum

The remainder of bytes, read as a polynomial over two elements with the least bit of each byte
first, by the polynomial of IEEE 802.3. Both the start and the result are complemented.
-/

namespace StagedTests.Crc32

def polynomial : UInt32 := 0xedb88320

/-- Takes in one bit, which was added to the least one. -/
def shift (r : UInt32) : UInt32 :=
  if r &&& 1 = 1 then (r >>> 1) ^^^ polynomial else r >>> 1

/-- The remainders of single bytes. -/
def table : Array UInt32 :=
  (Array.range 256).map fun b => Nat.repeat shift 8 b.toUInt32

def step (r : UInt32) (b : UInt8) : UInt32 :=
  (r >>> 8) ^^^ table.getD ((r ^^^ b.toUInt32) &&& 0xff).toNat 0

def checksum (bytes : List UInt8) : UInt32 :=
  bytes.foldl step 0xffffffff ^^^ 0xffffffff

end StagedTests.Crc32
