import Parley.Text.Numeral

/-!
Contract: identifiers that tell requests apart.

An identifier is a number of 128 bits. It is written as 32 hexadecimal digits in
groups of 8, 4, 4, 4 and 12.

Owns: `RequestId`, its text, its reader and the identifiers of random bits.
-/

namespace Parley.Http

structure RequestId where
  bits : BitVec 128
deriving DecidableEq

namespace RequestId

/-- The identifier that random bits make. Six of its bits say that it is
random. -/
def ofRandom (bits : BitVec 128) : RequestId :=
  let free : BitVec 128 := 0xFFFFFFFFFFFF0FFF3FFFFFFFFFFFFFFF#128
  let marks : BitVec 128 := 0x00000000000040008000000000000000#128
  ⟨(bits &&& free) ||| marks⟩

def isRandom (id : RequestId) : Bool :=
  ofRandom id.bits == id

def groups : List Nat :=
  [8, 4, 4, 4, 12]

def digits (id : RequestId) : List Char :=
  let written := Nat.toDigits 16 id.bits.toNat
  List.replicate (32 - written.length) '0' ++ written

def hyphenated : List Nat → List Char → List Char
  | [], text => text
  | [_], text => text
  | length :: lengths, text =>
      text.take length ++ '-' :: hyphenated lengths (text.drop length)

def text (id : RequestId) : String :=
  String.ofList (hyphenated groups id.digits)

def ungrouped? : List Nat → List Char → Option (List Char)
  | [], text => if text.isEmpty then some [] else none
  | [length], text => if text.length = length then some text else none
  | length :: lengths, text =>
      match text.drop length with
      | '-' :: rest =>
          (ungrouped? lengths rest).map (text.take length ++ ·)
      | _ => none

/-- The identifier that a text spells: its digits, alone or in groups, the
groups possibly in braces or behind the name of their scheme. -/
def ofText? (text : String) : Option RequestId :=
  let chars := text.toList
  let grouped : List Char :=
    if chars.length = 38 ∧ chars.head? = some '\x7b' ∧
        chars.getLast? = some '\x7d' then chars.tail.dropLast
    else if chars.take 9 = "urn:uuid:".toList then chars.drop 9
    else chars
  let digits :=
    if chars.length = 32 then some chars else ungrouped? groups grouped
  (digits.bind (Text.numberIn? 16)).map fun number => ⟨BitVec.ofNat 128 number⟩

/-- What is put behind a message about a request. -/
def tag (id : RequestId) : String :=
  " [request_id: " ++ id.text ++ "]"

end RequestId

end Parley.Http
