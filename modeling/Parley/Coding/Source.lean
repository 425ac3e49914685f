import Parley.Text.Utf8

/-!
Contract: coded data as bits and bytes.

The bits of a byte are read from the least one on. A number of some bytes starts
with the least of them.

Owns: `Source`, `Fault`, `Reads` and its readers of bits, bytes and numbers.
-/

namespace Parley.Coding

open Parley.Text (Bytes)

/-- Data that is left to read: bytes, and how many bits of the first one were
read. -/
structure Source where
  bytes : Bytes
  taken : Nat
deriving DecidableEq, Repr

/-- Why nothing is read: there is too little data, or it has no meaning. -/
inductive Fault where
  | short
  | malformed
deriving DecidableEq, Repr

abbrev Reads (α : Type) := StateT Source (Except Fault) α

namespace Reads

def refuse {α : Type} : Reads α :=
  throw .malformed

def bit : Reads Nat := fun source =>
  match source.bytes with
  | [] => .error .short
  | byte :: rest =>
      .ok (byte.toNat >>> source.taken % 2,
        if source.taken = 7 then ⟨rest, 0⟩
        else ⟨byte :: rest, source.taken + 1⟩)

/-- A number of some bits, the least one first. -/
def bits : Nat → Reads Nat
  | 0 => pure 0
  | count + 1 => do
      let least ← bit
      let others ← bits count
      pure (least + 2 * others)

/-- Leaves the rest of a byte of which some bits were read. -/
def align : Reads Unit := fun source =>
  .ok ((), if source.taken = 0 then source else ⟨source.bytes.tail, 0⟩)

/-- A byte, where all bits of the bytes before it were read. -/
def byte : Reads UInt8 := fun source =>
  match source.bytes with
  | [] => .error .short
  | byte :: rest => .ok (byte, ⟨rest, 0⟩)

def number : Nat → Reads Nat
  | 0 => pure 0
  | count + 1 => do
      let least ← byte
      let others ← number count
      pure (least.toNat + 256 * others)

end Reads

end Parley.Coding
