import Parley.Text.Utf8

/-!
Contract: the cyclic checksum of 32 bits over bytes.

The checksum is the remainder of the bytes, taken as a polynomial over two
elements whose least powers come last, with all bits inverted before and after.

Owns: `checksum`.
-/

namespace Parley.Coding

namespace Checksum

/-- The polynomial that checksums are remainders by, its least powers last. -/
def polynomial : UInt32 := 0xEDB88320

def divideBit (remainder : UInt32) : UInt32 :=
  if remainder &&& 1 = 1 then (remainder >>> 1) ^^^ polynomial
  else remainder >>> 1

/-- The remainders of single bytes. -/
def table : Array UInt32 :=
  (Array.range 256).map fun byte => Nat.repeat divideBit 8 byte.toUInt32

def step (remainder : UInt32) (byte : UInt8) : UInt32 :=
  (remainder >>> 8) ^^^
    table.getD ((remainder ^^^ byte.toUInt32) &&& 0xFF).toNat 0

end Checksum

def checksum (bytes : Array UInt8) : UInt32 :=
  bytes.foldl Checksum.step 0xFFFFFFFF ^^^ 0xFFFFFFFF

end Parley.Coding
