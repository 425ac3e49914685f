import Parley.Numeric.Binary

/-!
Contract: the shortest decimal that reads back as a given binary number.

The reals that round to the number of rank `k` form an interval around it whose
ends are the midpoints to the ranks `k - 1` and `k + 1`; the ends belong to it
exactly if `k` is even. Of all decimal grids `10 ^ e`, the coarsest one with a
point in that interval is taken, and on it the point nearest to the number.

Owns: `Format.shortest`.
Does not own: how the digits are laid out, see `Numeric.Notation`.
-/

namespace Parley.Numeric

/-- The magnitude `significand * 10 ^ exponent`. -/
structure Decimal where
  significand : Nat
  exponent : Int
deriving DecidableEq, Repr

/-- Which of two equally near decimals is written. -/
inductive TieRule where
  | even
  | up
deriving DecidableEq, Repr

/-- The interval of the reals that round to one magnitude. All three points are
counted in the same unit, of which `one` make one. -/
structure Interval where
  lower : Nat
  value : Nat
  upper : Nat
  one : Nat
  closed : Bool
deriving DecidableEq, Repr

namespace Interval

/-- Whether a point, given in the units of the interval multiplied by `factor`,
rounds to the number. -/
def contains (interval : Interval) (factor point : Nat) : Bool :=
  let lower := interval.lower * factor
  let upper := interval.upper * factor
  if interval.closed then lower ≤ point && point ≤ upper
  else lower < point && point < upper

/-- The point of the grid `10 ^ exponent` that stands for the number, if the
interval holds one. -/
def gridPoint? (interval : Interval) (tie : TieRule) (exponent : Int) :
    Option Nat :=
  let factor := Nat.pow 10 (-exponent).toNat
  let step := interval.one * Nat.pow 10 exponent.toNat
  let below := interval.value * factor / step
  let remainder := interval.value * factor % step
  let fitsBelow := interval.contains factor (below * step)
  let fitsAbove := interval.contains factor ((below + 1) * step)
  if fitsBelow && fitsAbove then
    if 2 * remainder < step then some below
    else if step < 2 * remainder then some (below + 1)
    else
      match tie with
      | .even => some (below + below % 2)
      | .up => some (below + 1)
  else if fitsBelow then some below
  else if fitsAbove then some (below + 1)
  else none

/-- The first grid with a point in the interval, from `exponent` downward. -/
def firstPoint (interval : Interval) (tie : TieRule) : Nat → Int → Decimal
  | 0, exponent => ⟨interval.value, exponent⟩
  | steps + 1, exponent =>
      match interval.gridPoint? tie exponent with
      | some significand => ⟨significand, exponent⟩
      | none => firstPoint interval tie steps (exponent - 1)

end Interval

/-- The interval of the reals that round to the magnitude of a rank, in half
units of the format. -/
def Format.interval (format : Format) (rank : Nat) : Interval where
  lower := format.units (rank - 1) + format.units rank
  value := 2 * format.units rank
  upper := format.units rank + format.units (rank + 1)
  one := 2 * format.one
  closed := rank % 2 == 0

/-- A power of ten above the magnitude of a rank: the least power of two above
it has no greater exponent. -/
def Format.ceilingExponent (format : Format) (rank : Nat) : Nat :=
  Nat.log2 (format.units rank) + 1 - format.scale

/-- The shortest decimal that rounds to the magnitude of a positive rank. The
search starts at a grid coarser than the magnitude and ends at the latest on the
grid `10 ^ -scale`, which holds every magnitude of the format itself. -/
def Format.shortest (format : Format) (tie : TieRule) (rank : Nat) : Decimal :=
  let ceiling := format.ceilingExponent rank
  (format.interval rank).firstPoint tie (ceiling + format.scale + 1) ceiling

end Parley.Numeric
