import Parley.Json.Value

/-!
Contract: the compact text of a JSON value.

Nothing stands between the tokens, members keep their order, and only the double
quote, the reverse solidus and the characters below U+0020 are escaped.

Owns: `Value.write`, `Value.toText` and the layouts of the two kinds of
floating-point numbers.
-/

namespace Parley.Json

open Parley.Numeric (Layout)

/-- Numbers of 32 bits are positional from `1e-6` up to `1e13`. -/
def singleLayout : Layout where
  positionalFrom := -6
  positionalBelow := 13
  plusSign := true
  nan := "null"
  infinity := "null"
  negativeInfinity := "null"
  tie := .even

/-- Numbers of 64 bits are positional from `1e-5` up to `1e16`. -/
def doubleLayout : Layout where
  positionalFrom := -5
  positionalBelow := 16
  plusSign := true
  nan := "null"
  infinity := "null"
  negativeInfinity := "null"
  tie := .even

def hexDigit (value : Nat) : Char :=
  Nat.digitChar value

def shortEscape? (char : Char) : Option Char :=
  if char = '"' then some '"'
  else if char = '\\' then some '\\'
  else if char = '\x08' then some 'b'
  else if char = '\x0c' then some 'f'
  else if char = '\n' then some 'n'
  else if char = '\r' then some 'r'
  else if char = '\t' then some 't'
  else none

def writeChar (char : Char) : List Char :=
  match shortEscape? char with
  | some letter => ['\\', letter]
  | none =>
      if char.toNat < 0x20 then
        ['\\', 'u', '0', '0', hexDigit (char.toNat / 16),
          hexDigit (char.toNat % 16)]
      else [char]

def writeText (text : String) : List Char :=
  '"' :: (text.toList.flatMap writeChar ++ ['"'])

/-- The text of a number; numbers that JSON has no digits for become `null`. -/
def Number.write : Number → List Char
  | .integer value => (toString value).toList
  | .single value => (value.write singleLayout).toList
  | .double value => (value.write doubleLayout).toList

mutual

def Value.write : Value → List Char
  | .null => ['n', 'u', 'l', 'l']
  | .boolean true => ['t', 'r', 'u', 'e']
  | .boolean false => ['f', 'a', 'l', 's', 'e']
  | .number value => value.write
  | .text value => writeText value
  | .sequence [] => ['[', ']']
  | .sequence (item :: items) => '[' :: (item.write ++ writeItems items)
  | .object [] => ['\x7b', '\x7d']
  | .object ((key, value) :: members) =>
      '\x7b' :: (writeText key ++ ':' :: (value.write ++ writeMembers members))

/-- The items after the first, and the closing bracket. -/
def writeItems : List Value → List Char
  | [] => [']']
  | item :: items => ',' :: (item.write ++ writeItems items)

/-- The members after the first, and the closing brace. -/
def writeMembers : List (String × Value) → List Char
  | [] => ['\x7d']
  | (key, value) :: members =>
      ',' :: (writeText key ++ ':' :: (value.write ++ writeMembers members))

end

def Value.toText (value : Value) : String :=
  String.ofList value.write

def wording : Schema.Wording where
  unit := "null"
  float := fun value => value.write doubleLayout

end Parley.Json
