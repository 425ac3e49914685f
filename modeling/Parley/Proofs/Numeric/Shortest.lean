import Parley.Numeric.Shortest
import Parley.Proofs.Numeric.Magnitude
import Mathlib.Algebra.Order.Field.Power
import Mathlib.Tactic.Linarith
import Mathlib.Tactic.Positivity
import Mathlib.Tactic.Ring

/-!
Contract: the shortest decimal rounds to the number that it stands for.

The search for a decimal ends at a grid that holds the number itself, so what it
gives always lies in the interval of the reals that round to the number. It is
positive, and below every power of two that the number is below.

Owns: `Decimal.value`, `Interval.Holds`, and where `Format.shortest` lies.
-/

namespace Parley.Numeric

/-! ## Decimals in an interval -/

/-- The number that a decimal stands for. -/
def Decimal.value (decimal : Decimal) : ℚ :=
  decimal.significand * 10 ^ decimal.exponent

namespace Interval

/-- Whether a number lies in an interval. -/
def Holds (interval : Interval) (number : ℚ) : Prop :=
  if interval.closed then
    interval.lower ≤ number * interval.one ∧
      number * interval.one ≤ interval.upper
  else
    interval.lower < number * interval.one ∧
      number * interval.one < interval.upper

variable {interval : Interval}

private theorem Holds.lower_le {number : ℚ} (holds : interval.Holds number) :
    interval.lower ≤ number * interval.one := by
  unfold Holds at holds
  split at holds
  · exact holds.1
  · exact holds.1.le

private theorem Holds.le_upper {number : ℚ} (holds : interval.Holds number) :
    number * interval.one ≤ interval.upper := by
  unfold Holds at holds
  split at holds
  · exact holds.2
  · exact holds.2.le

/-- Points are counted in units that are smaller by a factor. -/
theorem holds_of_contains {factor point : Nat} {number : ℚ}
    (positive : 0 < factor)
    (isPoint : (point : ℚ) = number * interval.one * factor)
    (contained : interval.contains factor point = true) :
    interval.Holds number := by
  have positive : (0 : ℚ) < factor := by exact_mod_cast positive
  unfold contains at contained
  unfold Holds
  dsimp only at contained
  split at contained
  · rename_i closed
    rw [if_pos closed]
    rw [Bool.and_eq_true, decide_eq_true_iff, decide_eq_true_iff,
      ← Nat.cast_le (α := ℚ), ← Nat.cast_le (α := ℚ), Nat.cast_mul,
      Nat.cast_mul, isPoint] at contained
    exact ⟨le_of_mul_le_mul_right contained.1 positive,
      le_of_mul_le_mul_right contained.2 positive⟩
  · rename_i opened
    rw [if_neg opened]
    rw [Bool.and_eq_true, decide_eq_true_iff, decide_eq_true_iff,
      ← Nat.cast_lt (α := ℚ), ← Nat.cast_lt (α := ℚ), Nat.cast_mul,
      Nat.cast_mul, isPoint] at contained
    exact ⟨lt_of_mul_lt_mul_right contained.1 positive.le,
      lt_of_mul_lt_mul_right contained.2 positive.le⟩

/-- A power of ten is the quotient of one with a natural exponent by another. -/
theorem ten_zpow (exponent : Int) :
    (10 : ℚ) ^ exponent * 10 ^ (-exponent).toNat = 10 ^ exponent.toNat := by
  rw [← zpow_natCast, ← zpow_natCast, ← zpow_add₀ (by norm_num)]
  congr 1
  omega

/-- What is found on a grid lies in the interval. -/
theorem holds_of_gridPoint? {tie : TieRule} {exponent : Int}
    {significand : Nat}
    (found : interval.gridPoint? tie exponent = some significand) :
    interval.Holds (Decimal.value ⟨significand, exponent⟩) := by
  have contained : interval.contains (Nat.pow 10 (-exponent).toNat)
      (significand * (interval.one * Nat.pow 10 exponent.toNat)) = true := by
    unfold gridPoint? at found
    dsimp only at found
    split at found
    · rename_i both
      obtain ⟨fitsBelow, fitsAbove⟩ := Bool.and_eq_true_iff.mp both
      split at found
      · cases found
        exact fitsBelow
      split at found
      · cases found
        exact fitsAbove
      cases tie with
      | up =>
          cases found
          exact fitsAbove
      | even =>
          cases found
          rcases Nat.mod_two_eq_zero_or_one (interval.value *
            Nat.pow 10 (-exponent).toNat /
              (interval.one * Nat.pow 10 exponent.toNat)) with isEven | isOdd
          · rw [isEven]
            exact fitsBelow
          · rw [isOdd]
            exact fitsAbove
    · split at found
      · rename_i fitsBelow
        cases found
        exact fitsBelow
      · split at found
        · rename_i fitsAbove
          cases found
          exact fitsAbove
        · cases found
  refine holds_of_contains (Nat.pow_pos (by decide)) ?_ contained
  simp only [Decimal.value, Nat.pow_eq]
  push_cast
  rw [← ten_zpow exponent]
  ring

/-- If one of the grids that are searched has a point in the interval, then what
is found lies in the interval. -/
theorem holds_of_firstPoint {tie : TieRule} {steps : Nat} {exponent : Int}
    (reached : ∃ down < steps,
      (interval.gridPoint? tie (exponent - down)).isSome) :
    interval.Holds (interval.firstPoint tie steps exponent).value := by
  induction steps generalizing exponent with
  | zero =>
      obtain ⟨down, impossible, _⟩ := reached
      exact absurd impossible (Nat.not_lt_zero down)
  | succ steps inductionHypothesis =>
      rw [firstPoint]
      split
      · rename_i significand found
        exact holds_of_gridPoint? found
      · rename_i nothing
        refine inductionHypothesis ?_
        obtain ⟨down, isStep, found⟩ := reached
        cases down with
        | zero =>
            rw [Nat.cast_zero, Int.sub_zero, nothing] at found
            cases found
        | succ down =>
            refine ⟨down, Nat.lt_of_succ_lt_succ isStep, ?_⟩
            rwa [Nat.cast_succ, Int.add_comm, ← Int.sub_sub] at found

/-- The search goes down by one power of ten at a time. -/
theorem exponent_firstPoint (interval : Interval) (tie : TieRule) (steps : Nat)
    (exponent : Int) :
    exponent - steps ≤ (interval.firstPoint tie steps exponent).exponent := by
  induction steps generalizing exponent with
  | zero => exact (Int.sub_zero exponent).le
  | succ steps inductionHypothesis =>
      rw [firstPoint]
      split
      · dsimp only
        omega
      · have lower := inductionHypothesis (exponent - 1)
        omega

end Interval

/-! ## The shortest decimal -/

namespace Format

variable (format : Format)

/-- The interval of a positive rank holds the magnitude of the rank, in units that
are smaller by any factor. -/
theorem interval_contains_value {rank : Nat} (positive : 0 < rank)
    (factor : Nat) (isFactor : 0 < factor) :
    (format.interval rank).contains factor
      ((format.interval rank).value * factor) = true := by
  have below : format.units (rank - 1) < format.units rank :=
    format.units_strictMono (Nat.sub_lt positive Nat.one_pos)
  have above := format.units_lt_units_succ rank
  have lower : (format.interval rank).lower * factor <
      (format.interval rank).value * factor :=
    Nat.mul_lt_mul_of_pos_right (by simp only [interval]; omega) isFactor
  have upper : (format.interval rank).value * factor <
      (format.interval rank).upper * factor :=
    Nat.mul_lt_mul_of_pos_right (by simp only [interval]; omega) isFactor
  unfold Interval.contains
  dsimp only
  split
  · rw [Bool.and_eq_true, decide_eq_true_iff, decide_eq_true_iff]
    exact ⟨lower.le, upper.le⟩
  · rw [Bool.and_eq_true, decide_eq_true_iff, decide_eq_true_iff]
    exact ⟨lower, upper⟩

/-- The magnitude of a rank is a point of the grid of the least unit, taken as a
power of ten. -/
theorem gridPoint?_scale {rank : Nat} (positive : 0 < rank) (tie : TieRule) :
    ((format.interval rank).gridPoint? tie (-(format.scale : Int))).isSome := by
  have noPower : Nat.pow 10 (-(format.scale : Int)).toNat = 1 := by
    rw [show (-(format.scale : Int)).toNat = 0 by omega, Nat.pow_eq,
      Nat.pow_zero]
  have power : (- -(format.scale : Int)).toNat = format.scale := by omega
  have onGrid : (format.interval rank).value *
      Nat.pow 10 (- -(format.scale : Int)).toNat =
      format.units rank * 5 ^ format.scale *
        ((format.interval rank).one *
          Nat.pow 10 (-(format.scale : Int)).toNat) := by
    simp only [interval]
    rw [noPower, power, Nat.pow_eq, one, Nat.pow_eq,
      show (10 : Nat) = 5 * 2 from rfl, Nat.mul_pow]
    ring
  have stepPositive : 0 < (format.interval rank).one *
      Nat.pow 10 (-(format.scale : Int)).toNat := by
    rw [noPower, Nat.mul_one]
    exact Nat.mul_pos Nat.two_pos format.one_pos
  have fits := format.interval_contains_value positive
    (Nat.pow 10 (- -(format.scale : Int)).toNat) (Nat.pow_pos (by decide))
  rw [onGrid] at fits
  unfold Interval.gridPoint?
  dsimp only
  rw [onGrid, Nat.mul_div_cancel _ stepPositive, fits]
  split
  · split
    · rfl
    split
    · rfl
    cases tie <;> rfl
  · rfl

/-- The shortest decimal of a positive rank rounds to it. -/
theorem shortest_holds {rank : Nat} (positive : 0 < rank) (tie : TieRule) :
    (format.interval rank).Holds (format.shortest tie rank).value := by
  refine Interval.holds_of_firstPoint
    ⟨format.ceilingExponent rank + format.scale, Nat.lt_succ_self _, ?_⟩
  have atScale : (format.ceilingExponent rank : Int) -
      ((format.ceilingExponent rank + format.scale : Nat) : Int) =
      -(format.scale : Int) := by
    omega
  rw [atScale]
  exact format.gridPoint?_scale positive tie

/-- The shortest decimal of a rank has no more places than the search allows. -/
theorem exponent_shortest (rank : Nat) (tie : TieRule) :
    -(format.scale + 1 : Int) ≤ (format.shortest tie rank).exponent := by
  have lower := (format.interval rank).exponent_firstPoint tie
    (format.ceilingExponent rank + format.scale + 1)
    (format.ceilingExponent rank)
  refine le_trans ?_ lower
  omega

theorem shortest_pos {rank : Nat} (positive : 0 < rank) (tie : TieRule) :
    0 < (format.shortest tie rank).value := by
  have atLeast := (format.shortest_holds positive tie).lower_le
  simp only [interval] at atLeast
  push_cast at atLeast
  have isPositive : (0 : ℚ) < format.units rank := by
    exact_mod_cast format.units_pos_iff.mpr positive
  have notNegative : (0 : ℚ) ≤ format.units (rank - 1) := Nat.cast_nonneg _
  have onePositive : (0 : ℚ) < 2 * format.one := by
    exact_mod_cast Nat.mul_pos Nat.two_pos format.one_pos
  by_contra notPositive
  have : (format.shortest tie rank).value * (2 * format.one) ≤ 0 :=
    mul_nonpos_of_nonpos_of_nonneg (not_lt.mp notPositive) onePositive.le
  linarith

variable {format}

/-- The shortest decimal of a number below a power of two lies below it too. -/
theorem shortest_lt_power (wide : format.Wide) {rank exponent : Nat}
    (positive : 0 < rank) (below : format.units rank < format.one * 2 ^ exponent)
    (tie : TieRule) : (format.shortest tie rank).value < 2 ^ exponent := by
  have atMost := (format.shortest_holds positive tie).le_upper
  simp only [interval] at atMost
  push_cast at atMost
  have next : (format.units (rank + 1) : ℚ) ≤ format.one * 2 ^ exponent := by
    exact_mod_cast units_succ_le_power wide below
  have below : (format.units rank : ℚ) < format.one * 2 ^ exponent := by
    exact_mod_cast below
  have onePositive : (0 : ℚ) < 2 * format.one := by
    exact_mod_cast Nat.mul_pos Nat.two_pos format.one_pos
  by_contra notBelow
  have : 2 ^ exponent * (2 * (format.one : ℚ)) ≤
      (format.shortest tie rank).value * (2 * format.one) :=
    mul_le_mul_of_nonneg_right (not_lt.mp notBelow) onePositive.le
  linarith

end Format

end Parley.Numeric
