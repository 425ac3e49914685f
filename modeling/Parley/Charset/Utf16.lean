import Parley.Charset.Rule

/-!
Contract: UTF-16 in either order of bytes.

Each half of a surrogate pair that stands alone is malformed. What is left over at
the end, a half pair or a byte or both, is malformed as one.

Owns: `rule`.
-/

namespace Parley.Charset.Utf16

open Parley.Text (Bytes)

def unit (highFirst : Bool) (first second : UInt8) : Nat :=
  if highFirst then first.toNat * 256 + second.toNat
  else second.toNat * 256 + first.toNat

/-- Takes the second half of a pair. -/
def takeLow (highFirst : Bool) (high : Nat) : Bytes → Taken
  | first :: second :: rest =>
      let low := unit highFirst first second
      if 0xDC00 ≤ low ∧ low < 0xE000 then
        ([Char.ofNat (0x10000 + (high - 0xD800) * 0x400 + (low - 0xDC00))],
          rest)
      else malformed (first :: second :: rest)
  | _ => malformed []

theorem takeLow_length_le (highFirst : Bool) (high : Nat) (bytes : Bytes) :
    (takeLow highFirst high bytes).2.length ≤ bytes.length := by
  unfold takeLow malformed
  split
  · dsimp only
    split <;> simp only [List.length_cons] <;> omega
  · simp

def take (highFirst : Bool) (first : UInt8) : Bytes → Taken
  | [] => malformed []
  | second :: rest =>
      let value := unit highFirst first second
      if 0xD800 ≤ value ∧ value < 0xDC00 then takeLow highFirst value rest
      else if 0xDC00 ≤ value ∧ value < 0xE000 then malformed rest
      else ([Char.ofNat value], rest)

def rule (highFirst : Bool) : Rule where
  take := take highFirst
  take_length_le lead rest := by
    unfold take
    split
    · exact Nat.le_refl _
    · dsimp only
      split
      · exact Nat.le_succ_of_le (takeLow_length_le _ _ _)
      · split
        · exact Nat.le_succ _
        · exact Nat.le_succ _

end Parley.Charset.Utf16
