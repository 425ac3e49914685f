import Parley.Coding.Checksum
import Parley.Coding.Inflate

/-!
Contract: compressed data between a header and a trailer.

The header may hold further fields, the name of a file, a comment, and a checksum
of its own. The trailer holds the checksum and the length of what was compressed.

Owns: `Gzip.unpack`.
-/

namespace Parley.Coding.Gzip

open Parley.Text (Bytes)

def skip (count : Nat) : Reads Unit := fun source =>
  if source.bytes.length < count then .error .short
  else .ok ((), ⟨source.bytes.drop count, 0⟩)

/-- Leaves bytes up to a zero, and the zero. -/
def skipText : Reads Unit := fun source =>
  match source.bytes.dropWhile (· ≠ 0) with
  | [] => .error .short
  | _ :: rest => .ok ((), ⟨rest, 0⟩)

/-- Reads a header up to its own checksum, and whether it has one. -/
def readFields : Reads Bool := do
  let mark ← Reads.number 2
  let method ← Reads.byte
  let flags := (← Reads.byte).toNat
  skip 6
  if mark ≠ 0x8B1F || method ≠ 8 then Reads.refuse
  if flags.testBit 2 then skip (← Reads.number 2)
  if flags.testBit 3 then skipText
  if flags.testBit 4 then skipText
  pure (flags.testBit 1)

def readHeader : Reads Unit := do
  let start := (← get).bytes
  let isChecked ← readFields
  if isChecked then
    let fields := start.take (start.length - (← get).bytes.length)
    if (← Reads.number 2) ≠ (checksum fields.toArray).toNat % 0x10000 then
      Reads.refuse

def readTrailer (content : Array UInt8) : Reads Unit := do
  Reads.align
  let sum ← Reads.number 4
  let size ← Reads.number 4
  if sum ≠ (checksum content).toNat || size ≠ content.size % 0x100000000 then
    Reads.refuse

/-- What coded data holds: as much of the content as was decoded, and the data
behind the trailer, or the fault. -/
structure Unpacked where
  content : Bytes
  outcome : Except Fault Bytes

def unpack (bytes : Bytes) : Unpacked :=
  match readHeader ⟨bytes, 0⟩ with
  | .error fault => ⟨[], .error fault⟩
  | .ok (_, rest) =>
      let decoded := inflate rest
      { content := decoded.output.toList
        outcome := do
          let rest ← decoded.outcome
          let (_, rest) ← readTrailer decoded.output rest
          pure rest.bytes }

end Parley.Coding.Gzip
