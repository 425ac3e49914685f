import Parley.Numeric.Binary
import Mathlib.Order.Monotone.Basic
import Mathlib.Tactic.Linarith
import Mathlib.Tactic.Ring

/-!
Contract: the magnitudes of a binary format in the order of their ranks.

Magnitudes grow with their ranks, and every power of two within the range of a
format is the magnitude of a rank. Rounding never passes such a power.

Owns: the order of `Format.units`, the ranks of powers of two, and the bound
that they put on `Format.nearestRank`.
-/

namespace Parley.Numeric

namespace Format

variable (format : Format)

theorem binade_pos : 0 < format.binade :=
  Nat.pow_pos (by decide)

theorem one_pos : 0 < format.one :=
  Nat.pow_pos (by decide)

/-- The magnitude of a rank at least one binade up, by its place in its binade. -/
theorem units_of_place (exponent : Nat) {place : Nat}
    (inside : place < format.binade) :
    format.units ((exponent + 1) * format.binade + place) =
      (format.binade + place) * 2 ^ exponent := by
  have above : ¬ (exponent + 1) * format.binade + place < format.binade := by
    rw [Nat.add_mul, Nat.one_mul]
    omega
  rw [units, if_neg above, Nat.mul_add_mod_self_right,
    Nat.mod_eq_of_lt inside, Nat.add_comm ((exponent + 1) * format.binade),
    Nat.add_mul_div_right _ _ format.binade_pos, Nat.div_eq_of_lt inside,
    Nat.zero_add, Nat.add_sub_cancel, Nat.pow_eq]

/-- A rank lies below the first binade, or at a place of a binade. -/
theorem place_of_rank (rank : Nat) :
    rank < format.binade ∨ ∃ exponent place, place < format.binade ∧
      rank = (exponent + 1) * format.binade + place := by
  rcases Nat.lt_or_ge rank format.binade with below | above
  · exact .inl below
  · refine .inr ⟨rank / format.binade - 1, rank % format.binade,
      Nat.mod_lt _ format.binade_pos, ?_⟩
    have positive : 0 < rank / format.binade :=
      Nat.div_pos above format.binade_pos
    rw [Nat.sub_add_cancel positive, Nat.mul_comm]
    exact (Nat.div_add_mod rank format.binade).symm

theorem units_of_below {rank : Nat} (below : rank < format.binade) :
    format.units rank = rank := by
  rw [units, if_pos below]

/-- The first magnitude of a binade. -/
theorem units_binade (exponent : Nat) :
    format.units ((exponent + 1) * format.binade) =
      format.binade * 2 ^ exponent :=
  format.units_of_place exponent format.binade_pos

theorem units_lt_units_succ (rank : Nat) :
    format.units rank < format.units (rank + 1) := by
  rcases format.place_of_rank rank with below | ⟨exponent, place, inside, rfl⟩
  · rw [format.units_of_below below]
    rcases Nat.lt_or_eq_of_le below with next | atEnd
    · rw [format.units_of_below next]
      exact Nat.lt_succ_self rank
    · have first := format.units_binade 0
      rw [Nat.zero_add, Nat.one_mul, Nat.pow_zero, Nat.mul_one] at first
      rw [show rank + 1 = format.binade from atEnd, first]
      exact below
  · rw [format.units_of_place exponent inside]
    have positive : 0 < 2 ^ exponent := Nat.pow_pos (by decide)
    rcases Nat.lt_or_eq_of_le inside with next | atEnd
    · rw [Nat.add_assoc, format.units_of_place exponent next]
      exact Nat.mul_lt_mul_of_pos_right (by omega) positive
    · have carried : (exponent + 1) * format.binade + place + 1 =
          (exponent + 1 + 1) * format.binade := by
        rw [Nat.add_assoc, show place + 1 = format.binade from atEnd]
        ring
      rw [carried, units_binade, Nat.pow_succ]
      nlinarith

theorem units_strictMono : StrictMono format.units :=
  strictMono_nat_of_lt_succ format.units_lt_units_succ

theorem units_zero : format.units 0 = 0 :=
  format.units_of_below format.binade_pos

theorem units_pos_iff {rank : Nat} : 0 < format.units rank ↔ 0 < rank := by
  have same := format.units_strictMono.lt_iff_lt (a := 0) (b := rank)
  rwa [units_zero] at same

/-! ## Powers of two -/

/-- Whether a format has significant bits, and places enough for all of them. -/
structure Wide (format : Format) : Prop where
  positive : 0 < format.precision
  fits : format.precision ≤ format.scale + 1

theorem single_wide : single.Wide :=
  ⟨by decide, by decide⟩

theorem double_wide : double.Wide :=
  ⟨by decide, by decide⟩

/-- The rank of a power of two that is at least one. -/
def powerRank (exponent : Nat) : Nat :=
  (exponent + format.scale + 2 - format.precision) * format.binade

variable {format}

theorem units_powerRank (wide : format.Wide) (exponent : Nat) :
    format.units (format.powerRank exponent) = format.one * 2 ^ exponent := by
  obtain ⟨positive, fits⟩ := wide
  have shift : exponent + format.scale + 2 - format.precision =
      exponent + format.scale + 1 - format.precision + 1 := by
    omega
  rw [powerRank, shift, units_binade, binade, one, Nat.pow_eq, Nat.pow_eq,
    ← pow_add, ← pow_add]
  congr 1
  omega

/-- The next magnitude after one below a power of two is at most that power. -/
theorem units_succ_le_power (wide : format.Wide) {rank exponent : Nat}
    (below : format.units rank < format.one * 2 ^ exponent) :
    format.units (rank + 1) ≤ format.one * 2 ^ exponent := by
  rw [← units_powerRank wide] at below ⊢
  exact format.units_strictMono.monotone
    (format.units_strictMono.lt_iff_lt.mp below)

/-! ## Rounding -/

theorem roundDiv_le {numerator denominator bound : Nat}
    (positive : 0 < denominator) (within : numerator ≤ denominator * bound) :
    roundDiv numerator denominator ≤ bound := by
  have quotient : numerator / denominator ≤ bound :=
    Nat.div_le_of_le_mul within
  have division := Nat.div_add_mod numerator denominator
  unfold roundDiv
  dsimp only
  rcases Nat.lt_or_eq_of_le quotient with below | exact
  · split
    · exact quotient
    split
    · exact below
    · omega
  · have noRemainder : numerator % denominator = 0 := by
      rw [exact] at division
      omega
    rw [if_pos (by omega)]
    exact quotient

private theorem log2_le_of_le_pow {value exponent : Nat}
    (within : value ≤ 2 ^ exponent) : Nat.log2 value ≤ exponent := by
  rcases Nat.eq_zero_or_pos value with rfl | positive
  · rw [Nat.log2_zero]
    exact Nat.zero_le exponent
  · have atLeast := Nat.log2_self_le (Nat.ne_of_gt positive)
    exact (Nat.pow_le_pow_iff_right (by decide)).mp (atLeast.trans within)

/-- The bits that are kept of a ratio up to a power of two fill the binades that
the excess of bits leaves up to that power. -/
theorem keptBits_le (wide : format.Wide) {scaled denominator bound log : Nat}
    (positive : 0 < denominator) (fits : format.precision ≤ bound + 1)
    (bits : log ≤ bound) (within : scaled ≤ denominator * 2 ^ bound)
    (below : scaled ≤ denominator * 2 ^ (log + 1)) :
    roundDiv scaled (denominator * 2 ^ (log + 1 - format.precision)) ≤
      (bound + 2 - format.precision - (log + 1 - format.precision)) *
        format.binade := by
  have hasBits := wide.positive
  refine roundDiv_le (Nat.mul_pos positive (Nat.pow_pos (by decide))) ?_
  rw [Nat.mul_assoc]
  rcases Nat.lt_or_ge (log + 1 - format.precision)
      (bound + 1 - format.precision) with lower | atTop
  · have twoBinades : 2 ^ format.precision ≤
        (bound + 2 - format.precision - (log + 1 - format.precision)) *
          format.binade := by
      have double : 2 ^ format.precision = 2 * format.binade := by
        rw [binade, Nat.pow_eq, ← pow_succ']
        congr 1
        omega
      rw [double]
      exact Nat.mul_le_mul_right _ (by omega)
    refine below.trans (Nat.mul_le_mul_left _ ?_)
    refine le_trans ?_ (Nat.mul_le_mul_left _ twoBinades)
    rw [← pow_add]
    exact Nat.pow_le_pow_right (by decide) (by omega)
  · have oneBinade :
        bound + 2 - format.precision - (log + 1 - format.precision) = 1 := by
      omega
    refine within.trans (Nat.mul_le_mul_left _ ?_)
    rw [oneBinade, Nat.one_mul, binade, Nat.pow_eq, ← pow_add]
    exact Nat.pow_le_pow_right (by decide) (by omega)

/-- A ratio up to a power of two is rounded to a magnitude up to that power. -/
theorem nearestRank_le_powerRank (wide : format.Wide)
    {numerator denominator exponent : Nat} (positive : 0 < denominator)
    (within : numerator ≤ denominator * 2 ^ exponent) :
    format.nearestRank numerator denominator ≤ format.powerRank exponent := by
  have scaledWithin : numerator * format.one ≤
      denominator * 2 ^ (exponent + format.scale) := by
    rw [one, Nat.pow_eq, pow_add, ← Nat.mul_assoc]
    exact Nat.mul_le_mul_right _ within
  unfold nearestRank powerRank
  dsimp only
  refine (Nat.min_le_right _ _).trans ?_
  generalize numerator * format.one = scaled at scaledWithin ⊢
  have bits : Nat.log2 (scaled / denominator) ≤ exponent + format.scale :=
    log2_le_of_le_pow (Nat.div_le_of_le_mul scaledWithin)
  have scaledBelow : scaled ≤
      denominator * 2 ^ (Nat.log2 (scaled / denominator) + 1) := by
    have below : scaled < denominator * (scaled / denominator + 1) :=
      Nat.lt_mul_div_succ scaled positive
    exact below.le.trans (Nat.mul_le_mul_left _ Nat.lt_log2_self)
  generalize Nat.log2 (scaled / denominator) = log at bits scaledBelow ⊢
  have fits := wide.fits
  have kept := keptBits_le wide positive (by omega) bits scaledWithin scaledBelow
  calc (log + 1 - format.precision) * format.binade +
        roundDiv scaled (denominator * 2 ^ (log + 1 - format.precision))
      ≤ (log + 1 - format.precision) * format.binade +
          (exponent + format.scale + 2 - format.precision -
            (log + 1 - format.precision)) * format.binade :=
        Nat.add_le_add_left kept _
    _ = (exponent + format.scale + 2 - format.precision) * format.binade := by
        rw [← Nat.add_mul]
        congr 1
        omega

private theorem nearestRank_zero (wide : format.Wide) {denominator : Nat}
    (positive : 0 < denominator) : format.nearestRank 0 denominator = 0 := by
  have noExcess : 0 + 1 - format.precision = 0 := by
    have := wide.positive
    omega
  have rounded : roundDiv 0 (denominator * Nat.pow 2 0) = 0 := by
    refine Nat.le_zero.mp (roundDiv_le ?_ (Nat.zero_le _))
    rwa [Nat.pow_eq, Nat.pow_zero, Nat.mul_one]
  unfold nearestRank
  dsimp only
  rw [Nat.zero_mul, Nat.zero_div, Nat.log2_zero, noExcess, rounded,
    Nat.zero_mul]
  exact Nat.min_eq_right (Nat.zero_le _)

end Format

namespace Binary

variable {format : Format}

/-- A ratio up to a power of two has a magnitude up to that power. -/
theorem ofRatio_units_le (wide : format.Wide) (negative : Bool)
    {numerator denominator exponent : Nat} (positive : 0 < denominator)
    (within : numerator ≤ denominator * 2 ^ exponent) :
    ∃ rank, ofRatio negative numerator denominator =
        (.signed negative rank : Binary format) ∧
      format.units rank.val ≤ format.one * 2 ^ exponent := by
  refine ⟨_, rfl, ?_⟩
  rw [← Format.units_powerRank wide]
  exact format.units_strictMono.monotone
    (Format.nearestRank_le_powerRank wide positive within)

theorem ofRatio_zero (wide : format.Wide) (negative : Bool) {denominator : Nat}
    (positive : 0 < denominator) :
    (ofRatio negative 0 denominator : Binary format) = zero negative := by
  unfold ofRatio zero
  congr 1
  exact Fin.ext (Format.nearestRank_zero wide positive)

/-- A ratio up to a power of two within the range of a format is finite. -/
theorem ofRatio_isFinite (wide : format.Wide) (negative : Bool)
    {numerator denominator exponent : Nat} (positive : 0 < denominator)
    (within : numerator ≤ denominator * 2 ^ exponent)
    (inRange : format.powerRank exponent < format.infinityRank) :
    (ofRatio negative numerator denominator : Binary format).isFinite = true :=
  decide_eq_true (Nat.lt_of_le_of_lt
    (Format.nearestRank_le_powerRank wide positive within) inRange)

end Binary

end Parley.Numeric
