import Parley.Numeric.Shortest

/-!
Contract: decimal text of binary numbers.

A `Layout` fixes everything that the shortest digits leave open: between which
exponents the digits are written positionally, how the exponent is signed, the
texts of the numbers without digits, and which way ties go.

Owns: `Layout` and `Binary.write`.
-/

namespace Parley.Numeric

/-- The choices that turn digits into text. A decimal whose first digit stands
at `10 ^ e` is written positionally if `positionalFrom ≤ e < positionalBelow`,
and with an exponent otherwise. -/
structure Layout where
  positionalFrom : Int
  positionalBelow : Int
  plusSign : Bool
  nan : String
  infinity : String
  negativeInfinity : String
  tie : TieRule
deriving Repr

namespace Decimal

def digits (decimal : Decimal) : List Char :=
  Nat.toDigits 10 decimal.significand

/-- The power of ten at which the first digit stands. -/
def leadingExponent (decimal : Decimal) : Int :=
  decimal.exponent + decimal.digits.length - 1

/-- Positional text with at least one digit on each side of the point. -/
def positional (decimal : Decimal) : List Char :=
  let digits := decimal.digits
  if 0 ≤ decimal.exponent then
    digits ++ List.replicate decimal.exponent.toNat '0' ++ ['.', '0']
  else
    let places := (-decimal.exponent).toNat
    if places < digits.length then
      digits.take (digits.length - places) ++ '.' ::
        digits.drop (digits.length - places)
    else
      '0' :: '.' :: (List.replicate (places - digits.length) '0' ++ digits)

/-- Text with one digit before the point and an exponent of ten. -/
def scientific (plusSign : Bool) (decimal : Decimal) : List Char :=
  let mantissa :=
    match decimal.digits with
    | [] => ['0']
    | [digit] => [digit]
    | digit :: more => digit :: '.' :: more
  let exponent := decimal.leadingExponent
  let sign := if exponent < 0 then ['-'] else if plusSign then ['+'] else []
  mantissa ++ 'e' :: (sign ++ Nat.toDigits 10 exponent.natAbs)

def write (layout : Layout) (decimal : Decimal) : List Char :=
  if layout.positionalFrom ≤ decimal.leadingExponent ∧
      decimal.leadingExponent < layout.positionalBelow then
    decimal.positional
  else decimal.scientific layout.plusSign

end Decimal

/-- The text of a number: its sign and the shortest decimal that reads back. A
zero is written positionally with its sign. -/
def Binary.write {format : Format} (layout : Layout) : Binary format → String
  | .nan => layout.nan
  | .signed negative rank =>
      if rank.val = format.infinityRank then
        if negative then layout.negativeInfinity else layout.infinity
      else
        let magnitude :=
          if rank.val = 0 then ['0', '.', '0']
          else (format.shortest layout.tie rank.val).write layout
        String.ofList (if negative then '-' :: magnitude else magnitude)

/-- The layout in which values are shown to a person debugging: exponents
below `1e-4` and from `1e16` on. -/
def debugLayout : Layout where
  positionalFrom := -4
  positionalBelow := 16
  plusSign := false
  nan := "NaN"
  infinity := "inf"
  negativeInfinity := "-inf"
  tie := .up

def plainLayout : Layout where
  positionalFrom := -400
  positionalBelow := 400
  plusSign := false
  nan := "NaN"
  infinity := "inf"
  negativeInfinity := "-inf"
  tie := .up

end Parley.Numeric
