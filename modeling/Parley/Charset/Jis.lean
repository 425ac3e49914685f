import Parley.Charset.Jis.Standard
import Parley.Charset.Jis.Supplement
import Parley.Charset.Rule

/-!
Contract: the three ways to write the Japanese national sets.

Two of them tell the sets apart by the values of bytes; in the third, escape
sequences of seven-bit bytes switch between them.

Owns: `shiftRule`, `extendedRule` and `Switched.decode`.
-/

namespace Parley.Charset.Jis

open Parley.Text (Bytes)

def narrow (place : Nat) : Char :=
  Char.ofNat (0xFF61 + place)

namespace Shifted

/-- The place of a second byte in a double row of 188 places. -/
def place? (trail : UInt8) : Option Nat :=
  (placeIn? 0x40 0x7E trail).or
    ((placeIn? 0x80 0xFC trail).map (· + 63))

/-- The number of the double row of a first byte. -/
def doubleRow (lead : UInt8) : Nat :=
  if lead < 0xA0 then lead.toNat - 0x81 else lead.toNat - 0xC1

/-- The character of a pair. Ten double rows are for private use. -/
def pair? (lead trail : UInt8) : Option Char :=
  (place? trail).bind fun place =>
    let number := doubleRow lead * 188 + place
    if 8836 ≤ number ∧ number ≤ 10715 then
      some (Char.ofNat (0xE000 + (number - 8836)))
    else standard.char? (number / 94) (number % 94)

def take (lead : UInt8) (rest : Bytes) : Taken :=
  if lead ≤ 0x80 then ([asciiChar lead], rest)
  else
    match placeIn? 0xA1 0xDF lead with
    | some place => ([narrow place], rest)
    | none =>
        if lead = 0xA0 ∨ 0xFC < lead then malformed rest
        else takePair (fun trail => (pair? lead trail).map fun char => [char]) rest

end Shifted

/-- The rule that shifts the rows of the first set between the narrow
syllables. -/
def shiftRule : Rule where
  take := Shifted.take
  take_length_le lead rest := by
    unfold Shifted.take
    split
    · exact Nat.le_refl _
    · split
      · exact Nat.le_refl _
      · split
        · exact Nat.le_refl _
        · exact takePair_length_le _ _

namespace Extended

/-- The character of a grid at two bytes from 0xA1 on. -/
def high? (grid : Grid) (lead trail : UInt8) : Option Char :=
  (placeIn? 0xA1 0xFE lead).bind fun row =>
    (placeIn? 0xA1 0xFE trail).bind (grid.char? row)

/-- Takes the bytes after the mark of the supplementary set. -/
def takeThird : Bytes → Taken
  | [] => malformed []
  | second :: rest =>
      if (placeIn? 0xA1 0xFE second).isSome then
        takePair
          (fun third => (high? supplement second third).map fun char => [char])
          rest
      else malformed (if second < 0x80 then second :: rest else rest)

theorem takeThird_length_le (bytes : Bytes) :
    (takeThird bytes).2.length ≤ bytes.length := by
  unfold takeThird malformed
  split
  · simp
  · split
    · exact Nat.le_succ_of_le (takePair_length_le _ _)
    · dsimp only
      split <;> simp

def take (lead : UInt8) (rest : Bytes) : Taken :=
  if lead < 0x80 then ([asciiChar lead], rest)
  else if lead = 0x8E then
    takePair (fun trail => (placeIn? 0xA1 0xDF trail).map fun place =>
      [narrow place]) rest
  else if lead = 0x8F then takeThird rest
  else if lead < 0xA1 ∨ lead = 0xFF then malformed rest
  else
    takePair
      (fun trail => (high? standard lead trail).map fun char => [char]) rest

end Extended

/-- The rule that writes both sets in bytes from 0xA1 on. -/
def extendedRule : Rule where
  take := Extended.take
  take_length_le lead rest := by
    unfold Extended.take
    split
    · exact Nat.le_refl _
    · split
      · exact takePair_length_le _ _
      · split
        · exact Extended.takeThird_length_le _
        · split
          · exact Nat.le_refl _
          · exact takePair_length_le _ _

/-- The sets between which escape sequences switch. -/
inductive Switched where
  | ascii
  | roman
  | narrow
  | standard
deriving DecidableEq, Repr

namespace Switched

/-- The set that the two bytes after an escape byte switch to. -/
def ofEscape? (first second : UInt8) : Option Switched :=
  if first = 0x28 then
    if second = 0x42 then some .ascii
    else if second = 0x4A then some .roman
    else if second = 0x49 then some .narrow
    else none
  else if first = 0x24 ∧ (second = 0x40 ∨ second = 0x42) then some .standard
  else none

/-- The ASCII character of a byte that switches no sets. -/
def plain? (byte : UInt8) : Option Char :=
  if byte < 0x80 ∧ byte ≠ 0x0E ∧ byte ≠ 0x0F then some (asciiChar byte)
  else none

def single? (byte : UInt8) : Switched → Option Char
  | .ascii => plain? byte
  | .roman =>
      if byte = 0x5C then some '¥'
      else if byte = 0x7E then some '\u203e'
      else plain? byte
  | .narrow => (placeIn? 0x21 0x5F byte).map Jis.narrow
  | .standard => none

def pair? (first second : UInt8) : Option Char :=
  (placeIn? 0x21 0x7E first).bind fun row =>
    (placeIn? 0x21 0x7E second).bind (Jis.standard.char? row)

def isFirst (byte : UInt8) : Bool :=
  0x21 ≤ byte && byte ≤ 0x7E

/-- Reads bytes in a set. `idle` says whether nothing was read since an escape
sequence; a further one is then malformed, but obeyed. `done` holds the
characters read before, last first. -/
def decodeOnto (done : List Char) (idle : Bool) :
    Switched → Bytes → List Char
  | _, [] => done.reverse
  | set, 0x1B :: rest =>
      match rest with
      | first :: second :: after =>
          match ofEscape? first second with
          | some next =>
              decodeOnto (if idle then '\uFFFD' :: done else done) true next
                after
          | none =>
              decodeOnto ('\uFFFD' :: done) false set
                (first :: second :: after)
      | few => decodeOnto ('\uFFFD' :: done) false set few
  | .standard, byte :: rest =>
      match rest with
      | second :: after =>
          if !isFirst byte || second = 0x1B then
            decodeOnto ('\uFFFD' :: done) false .standard (second :: after)
          else
            decodeOnto ((pair? byte second).getD '\uFFFD' :: done) false
              .standard after
      | [] => ('\uFFFD' :: done).reverse
  | set, byte :: rest =>
      decodeOnto ((single? byte set).getD '\uFFFD' :: done) false set rest
termination_by _ bytes => bytes.length
decreasing_by
  all_goals simp only [List.length_cons]
  all_goals grind

/-- The characters of bytes that begin in ASCII. -/
def decode (bytes : Bytes) : List Char :=
  decodeOnto [] false .ascii bytes

end Switched

end Parley.Charset.Jis
