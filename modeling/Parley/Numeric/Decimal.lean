import Parley.Numeric.Shortest

/-!
Contract: reading decimal text as a binary number, rounded once.

The accepted text is an optional sign, digits with an optional point (at least
one digit on one of its sides), and an optional signed exponent.

Owns: `Binary.ofDecimalText?` and `Binary.ofNumeralText?`, which also knows the
words for the numbers without digits.
-/

namespace Parley.Numeric

def digitValue (digit : Char) : Nat :=
  digit.toNat - '0'.toNat

/-- The natural number that decimal digits spell, most significant first. -/
def ofDigits (digits : List Char) : Nat :=
  digits.foldl (fun total digit => total * 10 + digitValue digit) 0

/-- Removes one leading sign and tells whether it was a minus. -/
def takeSign : List Char → Bool × List Char
  | '-' :: rest => (true, rest)
  | '+' :: rest => (false, rest)
  | text => (false, text)

/-- The exponent part of a decimal: absent, or a marker, a sign and digits. -/
def exponentPart? : List Char → Option Int
  | [] => some 0
  | marker :: rest =>
      if marker = 'e' ∨ marker = 'E' then
        let (negative, digits) := takeSign rest
        if digits.isEmpty || !digits.all Char.isDigit then none
        else
          let magnitude : Int := ofDigits digits
          some (if negative then -magnitude else magnitude)
      else none

def Decimal.ofText? (text : List Char) : Option Decimal :=
  let whole := text.takeWhile Char.isDigit
  let rest := text.dropWhile Char.isDigit
  let (places, tail) :=
    match rest with
    | '.' :: more => (more.takeWhile Char.isDigit, more.dropWhile Char.isDigit)
    | _ => ([], rest)
  if whole.isEmpty && places.isEmpty then none
  else
    (exponentPart? tail).map fun exponent =>
      ⟨ofDigits (whole ++ places), exponent - places.length⟩

namespace Binary

variable {format : Format}

/-- The number nearest to a decimal. Decimals far outside the range of the
format are settled by the place of their first digit, without forming the power
of ten. -/
def ofDecimal (negative : Bool) (decimal : Decimal) : Binary format :=
  let leading := decimal.exponent + (Nat.log2 decimal.significand : Int)
  if decimal.significand = 0 then zero negative
  else if 2 * format.scale < decimal.exponent then infinity negative
  else if leading < -(2 * format.scale : Int) then zero negative
  else
    ofRatio negative
      (decimal.significand * Nat.pow 10 decimal.exponent.toNat)
      (Nat.pow 10 (-decimal.exponent).toNat)

def ofDecimalText? (text : List Char) : Option (Binary format) :=
  let (negative, magnitude) := takeSign text
  (Decimal.ofText? magnitude).map (ofDecimal negative)

/-- The number that a text spells, where `inf` and `NaN` are also numerals. -/
def ofNumeralText? (text : String) : Option (Binary format) :=
  if text = "NaN" then some .nan
  else if text = "inf" then some (infinity false)
  else if text = "-inf" then some (infinity true)
  else ofDecimalText? text.toList

end Binary

end Parley.Numeric
