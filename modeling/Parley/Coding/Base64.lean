import Parley.Text.Utf8

/-!
Contract: bytes as text of 64 characters.

Three bytes are four digits of six bits each. Two bytes or one at the end make
three digits or two, which marks fill up to four characters.

Owns: `Base64.encode`.
-/

namespace Parley.Coding.Base64

open Parley.Text (Bytes)

def digits : List Char :=
  "ABCDEFGHIJKLMNOPQRSTUVWXYZabcdefghijklmnopqrstuvwxyz0123456789+/".toList

/-- The first digits of a number of three bytes. -/
def spell (count : Nat) (first second third : UInt8) : List Char :=
  let number := (first.toNat * 256 + second.toNat) * 256 + third.toNat
  ([18, 12, 6, 0].take count).map fun shift =>
    digits.getD (number >>> shift % 64) '='

def encode : Bytes → List Char
  | [] => []
  | [first] => spell 2 first 0 0 ++ ['=', '=']
  | [first, second] => spell 3 first second 0 ++ ['=']
  | first :: second :: third :: rest =>
      spell 4 first second third ++ encode rest

end Parley.Coding.Base64
