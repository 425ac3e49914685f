import Parley.Json.Writer
import Parley.Text.Utf8

/-!
Contract: faults of JSON text and where they are.

A reader hands back the text that it did not consume. A fault keeps the text
that was left when it was found and how many bytes of that text had been looked
at, which together with the whole text gives the position.

Owns: `Cause`, `Fault`, `Position` and the message of a fault.
-/

namespace Parley.Json

open Parley.Text (Utf8.width)

/-- What is wrong with a JSON text, or with the value that it spells. -/
inductive Cause where
  | endOfValue
  | endOfText
  | endOfObject
  | endOfList
  | expectedValue
  | expectedWord
  | expectedColon
  | expectedObjectComma
  | expectedListComma
  | keyNotText
  | trailingComma
  | trailingCharacters
  | invalidNumber
  | numberOutOfRange
  | invalidEscape
  | controlCharacter
  | loneSurrogate
  | unfinishedEscape
  | nestedTooDeep
  | refused (refusal : Schema.Refusal)
deriving DecidableEq

def Cause.message : Cause → String
  | .endOfValue => "EOF while parsing a value"
  | .endOfText => "EOF while parsing a string"
  | .endOfObject => "EOF while parsing an object"
  | .endOfList => "EOF while parsing a list"
  | .expectedValue => "expected value"
  | .expectedWord => "expected ident"
  | .expectedColon => "expected `:`"
  | .expectedObjectComma => "expected `,` or `\x7d`"
  | .expectedListComma => "expected `,` or `]`"
  | .keyNotText => "key must be a string"
  | .trailingComma => "trailing comma"
  | .trailingCharacters => "trailing characters"
  | .invalidNumber => "invalid number"
  | .numberOutOfRange => "number out of range"
  | .invalidEscape => "invalid escape"
  | .controlCharacter =>
      "control character (\\u0000-\\u001F) found while parsing a string"
  | .loneSurrogate => "lone leading surrogate in hex escape"
  | .unfinishedEscape => "unexpected end of hex escape"
  | .nestedTooDeep => "recursion limit exceeded"
  | .refused refusal => refusal.message wording

/-- A fault: its cause, the text left when it was found, and how many bytes of
that text count as looked at. -/
structure Fault where
  cause : Cause
  rest : List Char
  ahead : Nat
deriving DecidableEq

/-- What a reader gives: a value with the text after it, or a fault. -/
abbrev Reading (α : Type) :=
  Except Fault (α × List Char)

def Fault.before (cause : Cause) (rest : List Char) : Fault :=
  ⟨cause, rest, 0⟩

/-- A fault of the first byte of the given rest, or of its absence. -/
def Fault.upon (cause : Cause) (rest : List Char) : Fault :=
  ⟨cause, rest, 1⟩

/-- A place in a text: lines count from one, and the column is the number of
bytes since the last line feed. -/
structure Position where
  line : Nat
  column : Nat
deriving DecidableEq, Repr

namespace Position

def start : Position :=
  ⟨1, 0⟩

def advance (position : Position) (char : Char) : Position :=
  if char = '\n' then ⟨position.line + 1, 0⟩
  else ⟨position.line, position.column + Utf8.width char⟩

/-- The place after a number of bytes of a text, or at its end. -/
def advanceBytes (position : Position) : Nat → List Char → Position
  | 0, _ => position
  | _, [] => position
  | count, char :: rest =>
      if Utf8.width char ≤ count then
        (position.advance char).advanceBytes (count - Utf8.width char) rest
      else ⟨position.line, position.column + count⟩

end Position

def Fault.position (text : List Char) (fault : Fault) : Position :=
  let consumed := text.take (text.length - fault.rest.length)
  (consumed.foldl Position.advance Position.start).advanceBytes fault.ahead
    fault.rest

structure LocatedFault where
  cause : Cause
  position : Position
deriving DecidableEq

def Fault.locate (text : List Char) (fault : Fault) : LocatedFault :=
  ⟨fault.cause, fault.position text⟩

def LocatedFault.message (fault : LocatedFault) : String :=
  fault.cause.message ++ " at line " ++ toString fault.position.line ++
    " column " ++ toString fault.position.column

end Parley.Json
