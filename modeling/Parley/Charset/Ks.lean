import Parley.Charset.Ks.Standard
import Parley.Charset.Rule

/-!
Contract: the Korean national set, extended by all syllables.

Pairs of two high bytes stand for the characters of the national set. The other
pairs stand for the syllables that are not in it, in the order of their code
points.

Owns: `rule`.
-/

namespace Parley.Charset.Ks

open Parley.Text (Bytes)

/-- The code points of a list of ascending code points that are not in another
such list. -/
def without : List Nat → List Nat → List Nat
  | [], _ => []
  | codes, [] => codes
  | code :: codes, known :: more =>
      if code = known then without codes more
      else code :: without codes (known :: more)

def syllables : List Nat :=
  ((standard.rows.toList.drop 15).take 25).flatMap fun row =>
    row.toList.map Char.toNat

/-- The syllables that are not in the national set. -/
def added : Array Char :=
  ((without (List.range' 0xAC00 11172) syllables).map Char.ofNat).toArray

/-- The place of a second byte in a row of added syllables. -/
def addedPlace? (trail : UInt8) : Option Nat :=
  (placeIn? 0x41 0x5A trail).or
    (((placeIn? 0x61 0x7A trail).map (· + 26)).or
      ((placeIn? 0x81 0xFE trail).map (· + 52)))

/-- The added syllable of a pair. Rows are shorter from the first byte 0xA1 on,
where the national set begins. -/
def added? (lead trail : UInt8) : Option Char :=
  (addedPlace? trail).bind fun place =>
    if lead < 0xA1 then added[(lead.toNat - 0x81) * 178 + place]?
    else if place < 84 then
      added[32 * 178 + (lead.toNat - 0xA1) * 84 + place]?
    else none

def pair? (lead trail : UInt8) : Option Char :=
  match placeIn? 0xA1 0xFE lead, placeIn? 0xA1 0xFE trail with
  | some row, some place => standard.char? row place
  | _, _ => added? lead trail

def take (lead : UInt8) (rest : Bytes) : Taken :=
  if lead < 0x80 then ([asciiChar lead], rest)
  else if lead = 0x80 ∨ lead = 0xFF then malformed rest
  else takePair (fun trail => (pair? lead trail).map fun char => [char]) rest

def rule : Rule where
  take := take
  take_length_le lead rest := by
    unfold take
    split
    · exact Nat.le_refl _
    · split
      · exact Nat.le_refl _
      · exact takePair_length_le _ _

end Parley.Charset.Ks
