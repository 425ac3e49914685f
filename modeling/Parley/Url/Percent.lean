import Parley.Text.Numeral
import Parley.Text.Utf8

/-!
Contract: percent-encoding.

Each part of an address has a set of ASCII characters that are written as escapes
there. Characters beyond ASCII are written as escapes everywhere.

Owns: those sets, `encode` and `decode`.
-/

namespace Parley.Url.Percent

open Parley.Text (Bytes)

def isControl (char : Char) : Bool :=
  char.toNat < 0x20 || char.toNat == 0x7F

/-- What is escaped in a fragment. -/
def inFragment (char : Char) : Bool :=
  isControl char || [' ', '"', '<', '>', '\u0060'].contains char

def inPath (char : Char) : Bool :=
  inFragment char || ['#', '?', '\x7b', '\x7d'].contains char

def inQuery (char : Char) : Bool :=
  isControl char || [' ', '"', '#', '<', '>'].contains char

/-- What is escaped in the query of an address with a special scheme. -/
def inSpecialQuery (char : Char) : Bool :=
  inQuery char || char == '\''

def inCredentials (char : Char) : Bool :=
  inPath char ||
    ['/', ':', ';', '=', '@', '[', '\\', ']', '^', '|'].contains char

def hexDigit (value : Nat) : Char :=
  (Nat.digitChar value).toUpper

def encodeByte (byte : UInt8) : List Char :=
  ['%', hexDigit (byte.toNat / 16), hexDigit (byte.toNat % 16)]

/-- A character where the characters of a set are escaped. -/
def encodeChar (escaped : Char → Bool) (char : Char) : List Char :=
  if 0x7F < char.toNat ∨ escaped char then
    (String.utf8EncodeChar char).flatMap encodeByte
  else [char]

def encode (escaped : Char → Bool) (text : List Char) : List Char :=
  text.flatMap (encodeChar escaped)

def byte? (first second : Char) : Option UInt8 :=
  (Text.numberIn? 16 [first, second]).map UInt8.ofNat

/-- The bytes of a text in which escapes stand for bytes. A percent sign that
starts no escape stands for itself. -/
def decode : List Char → Bytes
  | '%' :: first :: second :: rest =>
      match byte? first second with
      | some byte => byte :: decode rest
      | none => 0x25 :: decode (first :: second :: rest)
  | char :: rest => String.utf8EncodeChar char ++ decode rest
  | [] => []

end Parley.Url.Percent
