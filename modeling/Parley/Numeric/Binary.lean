/-!
Contract: binary floating-point numbers as exact data.

A number of a binary format is a sign and a *rank*: its place among the
magnitudes of the format, zero first. The rank is the integer that the
interchange encoding without its sign bit spells, and `Format.units` gives the
magnitude as a whole count of the format's least unit. Comparison and rounding
are therefore arithmetic on natural numbers.

Owns:
- the two formats `single` and `double`, and the type `Binary` of their numbers;
- rounding of a ratio of naturals to the nearest number, ties to even.

Does not own: decimal text, which is read in `Numeric.Decimal` and written in
`Numeric.Notation`.
-/

namespace Parley.Numeric

/-- A binary format: its significant bits, the exponent `scale` of its least
unit `2 ^ -scale`, and the rank at which infinity stands. -/
structure Format where
  precision : Nat
  scale : Nat
  infinityRank : Nat
deriving DecidableEq, Repr

/-- The 32-bit format: 24 significant bits, least unit `2 ^ -149`. -/
def single : Format := ⟨24, 149, 0x7F800000⟩

/-- The 64-bit format: 53 significant bits, least unit `2 ^ -1074`. -/
def double : Format := ⟨53, 1074, 0x7FF0000000000000⟩

/-- The magnitude one, counted in least units. -/
def Format.one (format : Format) : Nat :=
  Nat.pow 2 format.scale

/-- The count of ranks between two neighbouring powers of two. -/
def Format.binade (format : Format) : Nat :=
  Nat.pow 2 (format.precision - 1)

/-- The magnitude of a rank, counted in least units. Below one binade the
magnitudes are equally spaced; above, the spacing doubles with every binade. -/
def Format.units (format : Format) (rank : Nat) : Nat :=
  if rank < format.binade then rank
  else
    (format.binade + rank % format.binade) *
      Nat.pow 2 (rank / format.binade - 1)

/-- A quotient rounded to the nearest integer; a half goes to the even
neighbour. -/
def roundDiv (numerator denominator : Nat) : Nat :=
  let quotient := numerator / denominator
  let remainder := numerator % denominator
  if 2 * remainder < denominator then quotient
  else if denominator < 2 * remainder then quotient + 1
  else quotient + quotient % 2

/-- The rank nearest to the ratio `numerator / denominator`, ties to the even
rank. Ratios past the largest magnitude by half a spacing have the rank of
infinity. -/
def Format.nearestRank (format : Format) (numerator denominator : Nat) : Nat :=
  let scaled := numerator * format.one
  let excess := Nat.log2 (scaled / denominator) + 1 - format.precision
  min format.infinityRank
    (excess * format.binade + roundDiv scaled (denominator * Nat.pow 2 excess))

/-- A number of a binary format: not a number, or a sign with the rank of the
magnitude, where the largest rank is infinity. -/
inductive Binary (format : Format) where
  | nan
  | signed (negative : Bool) (rank : Fin (format.infinityRank + 1))
deriving DecidableEq

abbrev Single := Binary single
abbrev Double := Binary double

namespace Binary

variable {format : Format}

def ofRatio (negative : Bool) (numerator denominator : Nat) : Binary format :=
  .signed negative
    ⟨format.nearestRank numerator denominator,
      Nat.lt_succ_of_le (Nat.min_le_left _ _)⟩

def ofInt (value : Int) : Binary format :=
  ofRatio (value < 0) value.natAbs 1

def infinity (negative : Bool) : Binary format :=
  .signed negative ⟨format.infinityRank, Nat.lt_succ_self _⟩

def zero (negative : Bool) : Binary format :=
  .signed negative ⟨0, Nat.succ_pos _⟩

instance : Inhabited (Binary format) := ⟨zero false⟩

def isFinite : Binary format → Bool
  | .nan => false
  | .signed _ rank => rank.val < format.infinityRank

/-- The number of another format nearest to this one; infinities and `nan`
keep their meaning. -/
def convert (target : Format) : Binary format → Binary target
  | .nan => .nan
  | .signed negative rank =>
      if rank.val < format.infinityRank then
        ofRatio negative (format.units rank.val) format.one
      else infinity negative

/-- Numeric equality: the two zeros are equal and `nan` equals nothing. -/
def equals : Binary format → Binary format → Bool
  | .signed leftNegative left, .signed rightNegative right =>
      left.val == right.val && (left.val == 0 || leftNegative == rightNegative)
  | _, _ => false

/-- Whether the number lies strictly between zero and one. -/
def insideUnit : Binary format → Bool
  | .signed false rank =>
      0 < format.units rank.val && format.units rank.val < format.one
  | _ => false

/-- The nearest number to the product of two finite magnitudes, with the sign of
the first. -/
def scaleUp (value factor : Binary format) : Binary format :=
  match value, factor with
  | .signed negative rank, .signed _ factorRank =>
      ofRatio negative (format.units rank.val * format.units factorRank.val)
        (format.one * format.one)
  | _, _ => .nan

/-- The nearest number to the quotient of a finite magnitude by a positive
finite one, with the sign of the first. -/
def scaleDown (value divisor : Binary format) : Binary format :=
  match value, divisor with
  | .signed negative rank, .signed _ divisorRank =>
      ofRatio negative (format.units rank.val) (format.units divisorRank.val)
  | _, _ => .nan

end Binary

end Parley.Numeric
