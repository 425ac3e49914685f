/-!
Contract: whole numbers of limited width.

Owns: which integers have a number of bits, with a sign and without.
-/

namespace Parley.Numeric

/-- Whether an integer is one of `width` bits without a sign. -/
def fitsUnsigned (width : Nat) (value : Int) : Bool :=
  0 ≤ value && value < Nat.pow 2 width

/-- Whether an integer is one of `width` bits, the first of which is its
sign. -/
def fitsSigned (width : Nat) (value : Int) : Bool :=
  -(Nat.pow 2 (width - 1) : Int) ≤ value && value < Nat.pow 2 (width - 1)

end Parley.Numeric
