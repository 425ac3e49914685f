import Parley.Json.Token
import Parley.Numeric.Decimal
import Parley.Numeric.Width

/-!
Contract: JSON numbers.

A number without fraction and exponent is an integer if it fits in 64 bits,
signed or unsigned; minus zero is not. Every other number is a binary number of
64 bits: as many leading digits as fit in 64 bits are rounded, and then scaled by
powers of ten of at most 308, each step rounded.

Owns: `readNumber`.
-/

namespace Parley.Json

open Parley.Numeric (Double Binary digitValue fitsSigned)

/-- Appends digits to a numeral for as long as it stays below a limit. Gives the
numeral, how many digits it took, and the text after them. -/
def growNumeral (limit : Nat) : Nat → Nat → List Char → Nat × Nat × List Char
  | numeral, count, [] => (numeral, count, [])
  | numeral, count, char :: rest =>
      if char.isDigit ∧ numeral * 10 + digitValue char < limit then
        growNumeral limit (numeral * 10 + digitValue char) (count + 1) rest
      else (numeral, count, char :: rest)

def startsWithDigit : List Char → Bool
  | [] => false
  | char :: _ => char.isDigit

/-- A number as far as it was read: its sign, its leading digits, and the power
of ten that they count. -/
structure Significand where
  negative : Bool
  digits : Nat
  exponent : Int

def powerOfTen (exponent : Nat) : Double :=
  .ofRatio false (Nat.pow 10 exponent) 1

/-- The number of 64 bits that a significand stands for; none if it is past the
largest one. -/
def Significand.toDouble? (number : Significand) : Option Double :=
  let value : Double := .ofRatio number.negative number.digits 1
  if number.exponent < 0 then
    let places := (-number.exponent).toNat
    let scaled := value.scaleDown (powerOfTen (min places 308))
    some (scaled.scaleDown (powerOfTen (min (places - 308) 308)))
  else if number.exponent ≤ 308 then
    let scaled := value.scaleUp (powerOfTen number.exponent.toNat)
    if scaled.isFinite then some scaled else none
  else if number.digits = 0 then some value
  else none

def endNumber (number : Significand) (rest : List Char) : Reading Number :=
  match number.toDouble? with
  | some value => .ok (.double value, rest)
  | none => .error (.before .numberOutOfRange rest)

def exponentSign : List Char → Bool × List Char
  | '+' :: rest => (false, rest)
  | '-' :: rest => (true, rest)
  | text => (false, text)

/-- The least exponent that is not represented: it has more than 31 bits. -/
def exponentLimit : Nat := 0x80000000

/-- Reads an exponent, from after its marker, and ends the number. An exponent
that is not represented makes zero, or a number out of range. -/
def readExponent (number : Significand) (text : List Char) : Reading Number :=
  let (negative, digits) := exponentSign text
  match digits with
  | [] => .error (.before .endOfValue [])
  | char :: more =>
      if char.isDigit then
        let (exponent, _, rest) := growNumeral exponentLimit 0 0 (char :: more)
        if startsWithDigit rest then
          if number.digits = 0 ∨ negative then
            .ok (.double (.zero number.negative), rest.dropWhile Char.isDigit)
          else .error (.upon .numberOutOfRange rest)
        else
          let shift : Int := if negative then -exponent else exponent
          endNumber ⟨number.negative, number.digits, number.exponent + shift⟩
            rest
      else .error (.upon .invalidNumber (char :: more))

def readOptionalExponent (number : Significand) : List Char → Reading Number
  | [] => endNumber number []
  | char :: rest =>
      if char = 'e' ∨ char = 'E' then readExponent number rest
      else endNumber number (char :: rest)

/-- Reads a fraction, from after its point, and ends the number. Digits that no
longer fit are dropped. -/
def readFraction (number : Significand) (text : List Char) : Reading Number :=
  let (digits, count, rest) := growNumeral UInt64.size number.digits 0 text
  let longer : Significand :=
    ⟨number.negative, digits, number.exponent - count⟩
  if startsWithDigit rest then
    readOptionalExponent longer (rest.dropWhile Char.isDigit)
  else if count = 0 then
    match rest with
    | [] => .error (.upon .endOfValue [])
    | char :: more => .error (.upon .invalidNumber (char :: more))
  else readOptionalExponent longer rest

/-- The value of a numeral with a sign and nothing after it. -/
def wholeNumber (negative : Bool) (numeral : Nat) : Number :=
  if negative then
    if 0 < numeral ∧ fitsSigned 64 (-numeral) then .integer (-numeral)
    else .double (.ofRatio true numeral 1)
  else .integer numeral

def readAfterWhole (number : Significand) : List Char → Reading Number
  | '.' :: rest => readFraction number rest
  | rest => readOptionalExponent number rest

/-- Reads what follows a whole part all of whose digits fit. The number is whole
unless a fraction or an exponent follows. -/
def readBehindWhole (number : Significand) : List Char → Reading Number
  | [] => .ok (wholeNumber number.negative number.digits, [])
  | char :: rest =>
      if char = '.' ∨ char = 'e' ∨ char = 'E' then
        readAfterWhole number (char :: rest)
      else .ok (wholeNumber number.negative number.digits, char :: rest)

def readMagnitude (negative : Bool) : List Char → Reading Number
  | [] => .error (.before .endOfValue [])
  | '0' :: rest =>
      if startsWithDigit rest then .error (.upon .invalidNumber rest)
      else readBehindWhole ⟨negative, 0, 0⟩ rest
  | char :: more =>
      if char.isDigit then
        let (numeral, _, rest) := growNumeral UInt64.size 0 0 (char :: more)
        if startsWithDigit rest then
          let surplus := rest.takeWhile Char.isDigit
          readAfterWhole ⟨negative, numeral, surplus.length⟩
            (rest.dropWhile Char.isDigit)
        else readBehindWhole ⟨negative, numeral, 0⟩ rest
      else .error (.upon .invalidNumber (char :: more))

def readNumber : List Char → Reading Number
  | '-' :: rest => readMagnitude true rest
  | text => readMagnitude false text

end Parley.Json
