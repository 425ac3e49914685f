import Parley.Charset.Big5.Left
import Parley.Charset.Big5.Right
import Parley.Charset.Rule

/-!
Contract: the set Big5 of traditional Chinese, with the additions of Hong Kong.

Owns: `rule`.
-/

namespace Parley.Charset.Big5

open Parley.Text (Bytes)

/-- The pairs that stand for a letter and the mark above it. -/
def marked : List ((UInt8 × UInt8) × List Char) :=
  [((0x88, 0x62), ['Ê', '\u0304']), ((0x88, 0x64), ['Ê', '\u030c']),
    ((0x88, 0xA3), ['ê', '\u0304']), ((0x88, 0xA5), ['ê', '\u030c'])]

def pair? (lead trail : UInt8) : Option (List Char) :=
  (marked.lookup (lead, trail)).or
    (let row := lead.toNat - 0x81
    (((placeIn? 0x40 0x7E trail).bind (left.char? row)).or
      ((placeIn? 0xA1 0xFE trail).bind (right.char? row))).map
        fun char => [char])

/-- Takes the character that starts with a byte. -/
def take (lead : UInt8) (rest : Bytes) : Taken :=
  if lead < 0x80 then ([asciiChar lead], rest)
  else if lead = 0x80 ∨ lead = 0xFF then malformed rest
  else takePair (pair? lead) rest

def rule : Rule where
  take := take
  take_length_le lead rest := by
    unfold take
    split
    · exact Nat.le_refl _
    · split
      · exact Nat.le_refl _
      · exact takePair_length_le _ _

end Parley.Charset.Big5
