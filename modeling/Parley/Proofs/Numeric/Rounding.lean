import Parley.Proofs.Numeric.Magnitude
import Mathlib.Algebra.Order.Field.Basic
import Mathlib.Algebra.Order.Ring.Rat
import Mathlib.Tactic.FieldSimp
import Mathlib.Tactic.Linarith
import Mathlib.Tactic.Positivity

/-!
Contract: a ratio is rounded to the number nearest to it.

Rounding keeps as many bits of a ratio as a format has and rounds the rest to the
nearest integer. Magnitudes next to the one that this gives are at least one unit
of those bits away, except below a power of two, to which no smaller ratio is
rounded with that unit. So no magnitude is nearer, and of two that are equally near
the even one is taken.

Owns: `Binary.value?`, `Binary.IsNearest`, and that `Format.nearestRank` is nearest.
-/

namespace Parley.Numeric

/-! ## Rounding to an integer -/

/-- What rounding to an integer leaves is at most one half, and less unless the
integer is even. -/
theorem roundDiv_offset (numerator : Nat) {denominator : Nat}
    (positive : 0 < denominator) :
    ∃ offset : ℤ,
      (numerator : ℤ) = denominator * roundDiv numerator denominator + offset ∧
        2 * |offset| ≤ denominator ∧
        (2 * |offset| = denominator →
          roundDiv numerator denominator % 2 = 0) := by
  have division := Nat.div_add_mod numerator denominator
  have remainder := Nat.mod_lt numerator positive
  unfold roundDiv
  dsimp only
  generalize numerator / denominator = quotient at division ⊢
  generalize numerator % denominator = rest at division remainder ⊢
  have below : (numerator : ℤ) = denominator * (quotient : ℕ) + rest := by
    exact_mod_cast division.symm
  have above : (numerator : ℤ) =
      denominator * (quotient + 1 : ℕ) + (rest - denominator) := by
    rw [below]
    push_cast
    ring
  have restAbs : |(rest : ℤ)| = rest := abs_of_nonneg (by omega)
  have gapAbs : |(rest : ℤ) - denominator| = denominator - rest := by
    rw [abs_of_nonpos (by omega)]
    ring
  split
  · exact ⟨rest, below, by rw [restAbs]; omega, by rw [restAbs]; omega⟩
  split
  · exact ⟨rest - denominator, above, by rw [gapAbs]; omega,
      by rw [gapAbs]; omega⟩
  · rcases Nat.mod_two_eq_zero_or_one quotient with even | odd
    · rw [even, Nat.add_zero]
      exact ⟨rest, below, by rw [restAbs]; omega, fun _ => even⟩
    · rw [odd]
      exact ⟨rest - denominator, above, by rw [gapAbs]; omega, fun _ => by omega⟩

namespace Format

variable {format : Format}

/-! ## Ranks by the bits that are kept -/

/-- The magnitude of a rank that is given by its bits and their unit. -/
theorem units_of_bits {excess bits : Nat} (fits : bits ≤ 2 * format.binade)
    (full : excess = 0 ∨ format.binade ≤ bits) :
    format.units (excess * format.binade + bits) = bits * 2 ^ excess := by
  rcases Nat.lt_or_ge bits format.binade with below | above
  · obtain rfl := full.resolve_right (Nat.not_le.mpr below)
    rw [Nat.zero_mul, Nat.zero_add, Nat.pow_zero, Nat.mul_one]
    exact format.units_of_below below
  · obtain ⟨place, rfl⟩ := Nat.exists_eq_add_of_le above
    rw [← Nat.add_assoc, ← Nat.succ_mul]
    rcases Nat.lt_or_eq_of_le (show place ≤ format.binade by omega) with
      inside | atEnd
    · exact format.units_of_place excess inside
    · rw [atEnd, ← Nat.succ_mul]
      refine (format.units_binade (excess + 1)).trans ?_
      ring

/-- The next magnitude is at least one unit of the kept bits away. -/
theorem units_add_le {excess bits other : Nat} (fits : bits ≤ 2 * format.binade)
    (full : excess = 0 ∨ format.binade ≤ bits)
    (above : excess * format.binade + bits < other) :
    bits * 2 ^ excess + 2 ^ excess ≤ format.units other := by
  have next : bits * 2 ^ excess + 2 ^ excess ≤
      format.units (excess * format.binade + bits + 1) := by
    rcases Nat.lt_or_eq_of_le fits with inside | atEnd
    · rw [Nat.add_assoc, units_of_bits inside (by omega), Nat.succ_mul]
    · have carried : excess * format.binade + bits + 1 =
          (excess + 1) * format.binade + (format.binade + 1) := by
        rw [atEnd]
        ring
      have room := format.binade_pos
      rw [carried, units_of_bits (by omega) (.inr (Nat.le_succ _)), atEnd,
        Nat.pow_succ]
      nlinarith [Nat.pow_pos (n := excess) (show 0 < 2 by decide)]
  exact next.trans (format.units_strictMono.monotone above)

/-- A magnitude below is one unit of the kept bits away, unless the bits are those
of a power of two. -/
theorem units_le_sub {excess bits other : Nat} (fits : bits ≤ 2 * format.binade)
    (full : excess = 0 ∨ format.binade < bits)
    (below : other < excess * format.binade + bits) :
    format.units other + 2 ^ excess ≤ bits * 2 ^ excess := by
  obtain ⟨less, rfl⟩ : ∃ less, bits = less + 1 := by
    refine ⟨bits - 1, ?_⟩
    rcases full with rfl | more <;> omega
  have fitsLess : less ≤ 2 * format.binade := by omega
  have fullLess : excess = 0 ∨ format.binade ≤ less := by omega
  rw [Nat.succ_mul, ← units_of_bits fitsLess fullLess]
  exact Nat.add_le_add_right
    (format.units_strictMono.monotone (by omega)) _

/-! ## The nearest rank -/

/-- How far a ratio is from a magnitude, multiplied out. -/
def distance (format : Format) (numerator denominator rank : Nat) : ℤ :=
  |((numerator * format.one : ℕ) : ℤ) - (denominator * format.units rank : ℕ)|

/-- Whether no magnitude is nearer to a ratio than that of a rank, which is even
if another one is equally near. -/
structure Nearest (format : Format) (numerator denominator rank : Nat) :
    Prop where
  least : ∀ other, format.distance numerator denominator rank ≤
    format.distance numerator denominator other
  even : ∀ other ≠ rank, format.distance numerator denominator rank =
    format.distance numerator denominator other → rank % 2 = 0

/-- A ratio by the bits of it that are kept: their unit, the bits, and what
rounding them left. -/
structure Kept (format : Format) (numerator denominator excess bits : Nat)
    (offset : ℤ) : Prop where
  split : ((numerator * format.one : ℕ) : ℤ) =
    (denominator * 2 ^ excess : ℕ) * bits + offset
  half : 2 * |offset| ≤ (denominator * 2 ^ excess : ℕ)
  even : 2 * |offset| = (denominator * 2 ^ excess : ℕ) → bits % 2 = 0
  fits : bits ≤ 2 * format.binade
  full : excess = 0 ∨
    format.binade ≤ bits ∧ (bits = format.binade → 0 ≤ offset)

private theorem two_pow_precision (hasBits : 0 < format.precision) :
    2 ^ format.precision = 2 * format.binade := by
  rw [binade, Nat.pow_eq, ← Nat.pow_succ']
  congr 1
  omega

/-- A multiple that is not reached by less than half a unit is passed by nothing
or upwards. -/
theorem le_bits_of_offset {scaled unit bits least : Nat} {offset : ℤ}
    (positive : 0 < unit) (split : (scaled : ℤ) = unit * bits + offset)
    (half : 2 * |offset| ≤ unit) (atLeast : unit * least ≤ scaled) :
    least ≤ bits ∧ (bits = least → 0 ≤ offset) := by
  have reached : (unit : ℤ) * least ≤ unit * bits + offset := by
    rw [← split]
    exact_mod_cast atLeast
  constructor
  · refine Nat.not_lt.mp fun few => ?_
    have step : (unit : ℤ) * bits + unit ≤ unit * least := by
      have next := Nat.mul_le_mul_left unit few
      rw [Nat.mul_succ] at next
      exact_mod_cast next
    have offsetBelow := le_abs_self offset
    omega
  · rintro rfl
    omega

/-- Rounding keeps the bits of a ratio that the format has room for. -/
theorem nearestRank_keeps (hasBits : 0 < format.precision)
    {numerator denominator : Nat} (positive : 0 < denominator) :
    ∃ excess bits offset,
      format.nearestRank numerator denominator =
          min format.infinityRank (excess * format.binade + bits) ∧
        format.Kept numerator denominator excess bits offset := by
  unfold nearestRank
  dsimp only
  generalize excessIs :
    Nat.log2 (numerator * format.one / denominator) + 1 - format.precision =
      excess
  rw [Nat.pow_eq]
  have unit : 0 < denominator * 2 ^ excess :=
    Nat.mul_pos positive (Nat.pow_pos (by decide))
  have quotientBelow : numerator * format.one / denominator <
      2 ^ excess * (2 * format.binade) := by
    refine Nat.lt_of_lt_of_le Nat.lt_log2_self ?_
    rw [← two_pow_precision hasBits, ← Nat.pow_add]
    exact Nat.pow_le_pow_right (by decide) (by omega)
  have fits : roundDiv (numerator * format.one) (denominator * 2 ^ excess) ≤
      2 * format.binade := by
    refine roundDiv_le unit ?_
    refine (Nat.lt_mul_div_succ (numerator * format.one) positive).le.trans ?_
    rw [Nat.mul_assoc]
    exact Nat.mul_le_mul_left _ quotientBelow
  -- With bits to spare the ratio is at least the power of two below it.
  have atLeast : excess ≠ 0 →
      denominator * 2 ^ excess * format.binade ≤ numerator * format.one := by
    intro spare
    rw [Nat.mul_assoc]
    refine le_trans (Nat.mul_le_mul_left _ ?_) (Nat.mul_div_le _ denominator)
    have notZero : numerator * format.one / denominator ≠ 0 := by
      intro isZero
      rw [isZero, Nat.log2_zero] at excessIs
      omega
    refine le_trans ?_ (Nat.log2_self_le notZero)
    rw [binade, Nat.pow_eq, ← Nat.pow_add]
    exact Nat.pow_le_pow_right (by decide) (by omega)
  obtain ⟨offset, split, half, even⟩ :=
    roundDiv_offset (numerator * format.one) unit
  refine ⟨excess, _, offset, rfl, split, half, even, fits, ?_⟩
  by_cases none : excess = 0
  · exact .inl none
  · exact .inr (le_bits_of_offset unit split half (atLeast none))

/-- What is left by at most half a unit is not nearer to what is a unit away, nor
to what is on the other side. -/
theorem abs_le_abs_sub {offset gap unit : ℤ} (half : 2 * |offset| ≤ unit)
    (away : gap + unit ≤ 0 ∨ unit ≤ gap ∨ gap < 0 ∧ 0 ≤ offset) :
    |offset| ≤ |offset - gap| ∧
      (|offset| = |offset - gap| → 2 * |offset| = unit) := by
  have atMost := le_abs_self (offset - gap)
  have atLeast := neg_le_abs (offset - gap)
  rcases abs_cases offset with ⟨isAbs, _⟩ | ⟨isAbs, _⟩ <;> omega

/-- Another magnitude than the one that is kept is a unit away, or it is smaller
and the ratio is not. -/
theorem Kept.abs_offset_le {numerator denominator excess bits other : Nat}
    {offset : ℤ} (kept : format.Kept numerator denominator excess bits offset)
    (positive : 0 < denominator)
    (different : other ≠ excess * format.binade + bits) :
    |offset| ≤ format.distance numerator denominator other ∧
      (|offset| = format.distance numerator denominator other →
        2 * |offset| = (denominator * 2 ^ excess : ℕ)) := by
  obtain ⟨split, half, _, fits, full⟩ := kept
  have fromKept : ((numerator * format.one : ℕ) : ℤ) -
      (denominator * format.units other : ℕ) =
        offset - (denominator * format.units other -
          denominator * (bits * 2 ^ excess)) := by
    rw [split]
    push_cast
    ring
  rw [distance, fromKept]
  refine abs_le_abs_sub half ?_
  push_cast
  rcases Nat.lt_or_gt_of_ne different with below | above
  · by_cases power : excess = 0 ∨ format.binade < bits
    · left
      have away := Nat.mul_le_mul_left denominator
        (units_le_sub fits power below)
      zify at away
      linarith
    · right
      right
      obtain ⟨atLeastBits, upward⟩ := full.resolve_left (by omega)
      have less := Nat.mul_lt_mul_of_pos_left
        (format.units_strictMono below) positive
      rw [units_of_bits fits (.inr atLeastBits)] at less
      zify at less
      exact ⟨by linarith, upward (by omega)⟩
  · right
    left
    have away := Nat.mul_le_mul_left denominator
      (units_add_le fits (full.imp_right And.left) above)
    zify at away
    linarith

theorem Kept.nearest {numerator denominator excess bits : Nat} {offset : ℤ}
    (kept : format.Kept numerator denominator excess bits offset)
    (positive : 0 < denominator) (evenBinade : format.binade % 2 = 0) :
    format.Nearest numerator denominator (excess * format.binade + bits) := by
  have own : format.distance numerator denominator
      (excess * format.binade + bits) = |offset| := by
    have same : denominator * (bits * 2 ^ excess) =
        denominator * 2 ^ excess * bits := by
      ring
    rw [distance, units_of_bits kept.fits (kept.full.imp_right And.left),
      kept.split, same, Nat.cast_mul _ bits, add_sub_cancel_left]
  constructor
  · intro other
    by_cases same : other = excess * format.binade + bits
    · rw [same]
    · rw [own]
      exact (kept.abs_offset_le positive same).1
  · intro other different tie
    rw [own] at tie
    have evenBits := kept.even ((kept.abs_offset_le positive different).2 tie)
    rw [Nat.add_mod, Nat.mul_mod, evenBinade, evenBits, Nat.mul_zero]

/-- A ratio is rounded to a nearest rank, unless that is past infinity. -/
theorem nearestRank_nearest (hasBits : 0 < format.precision)
    (evenBinade : format.binade % 2 = 0) {numerator denominator : Nat}
    (positive : 0 < denominator) :
    ∃ rank, format.nearestRank numerator denominator =
        min format.infinityRank rank ∧
      format.Nearest numerator denominator rank := by
  obtain ⟨excess, bits, offset, isRank, kept⟩ :=
    nearestRank_keeps hasBits positive
  exact ⟨_, isRank, kept.nearest positive evenBinade⟩

/-- Which of two places a third one is nearer to, by the one between both. -/
theorem abs_sub_le_abs_sub_of_le {first second third place : ℤ}
    (order : first < second) (beyond : second ≤ third)
    (near : |place - third| ≤ |place - first|) :
    first + second < 2 * place ∨
      first + second = 2 * place ∧ |place - third| = |place - first| ∧
        third = second := by
  rcases abs_cases (place - third) with ⟨far, _⟩ | ⟨far, _⟩ <;>
    rcases abs_cases (place - first) with ⟨isNear, _⟩ | ⟨isNear, _⟩ <;>
      omega

variable {numerator denominator rank : Nat}

/-- A ratio that is rounded up to the second of two neighbours is past the middle
between them, or in the middle if the second is even. -/
theorem Nearest.middle_of_lt (nearest : format.Nearest numerator denominator rank)
    (positive : 0 < denominator) {low : Nat} (above : low < rank) :
    denominator * (format.units low + format.units (low + 1)) <
        2 * (numerator * format.one) ∨
      denominator * (format.units low + format.units (low + 1)) =
          2 * (numerator * format.one) ∧ low % 2 = 1 := by
  have order : ((denominator * format.units low : ℕ) : ℤ) <
      (denominator * format.units (low + 1) : ℕ) := by
    exact_mod_cast Nat.mul_lt_mul_of_pos_left (format.units_lt_units_succ low)
      positive
  have beyond : ((denominator * format.units (low + 1) : ℕ) : ℤ) ≤
      (denominator * format.units rank : ℕ) := by
    exact_mod_cast Nat.mul_le_mul_left _
      (format.units_strictMono.monotone above)
  rw [Nat.mul_add]
  rcases abs_sub_le_abs_sub_of_le order beyond (nearest.least low) with
    past | ⟨middle, tie, same⟩
  · exact .inl (by exact_mod_cast past)
  · right
    refine ⟨by exact_mod_cast middle, ?_⟩
    have isNext : rank = low + 1 := by
      have same : denominator * format.units rank =
          denominator * format.units (low + 1) := by
        exact_mod_cast same
      exact format.units_strictMono.injective
        (Nat.eq_of_mul_eq_mul_left positive same)
    have even := nearest.even low (Nat.ne_of_lt above) tie
    omega

/-- A ratio that is rounded down to the first of two neighbours is before the
middle between them, or in the middle if the first is even. -/
theorem Nearest.middle_of_le (nearest : format.Nearest numerator denominator rank)
    (positive : 0 < denominator) {low : Nat} (below : rank ≤ low) :
    2 * (numerator * format.one) <
        denominator * (format.units low + format.units (low + 1)) ∨
      denominator * (format.units low + format.units (low + 1)) =
          2 * (numerator * format.one) ∧ low % 2 = 0 := by
  have order : (-(denominator * format.units (low + 1) : ℕ) : ℤ) <
      -(denominator * format.units low : ℕ) := by
    have less := Nat.mul_lt_mul_of_pos_left (format.units_lt_units_succ low)
      positive
    exact neg_lt_neg (by exact_mod_cast less)
  have beyond : (-(denominator * format.units low : ℕ) : ℤ) ≤
      -(denominator * format.units rank : ℕ) := by
    have less := Nat.mul_le_mul_left denominator
      (format.units_strictMono.monotone below)
    exact neg_le_neg (by exact_mod_cast less)
  -- Seen from the other side, the neighbours are in the order of the lemma.
  have near (other : Nat) :
      |(-(numerator * format.one : ℕ) : ℤ) - -(denominator * format.units other : ℕ)| =
        format.distance numerator denominator other := by
    rw [distance, neg_sub_neg, abs_sub_comm]
  have least := nearest.least (low + 1)
  rw [← near rank, ← near (low + 1)] at least
  rw [Nat.mul_add]
  rcases abs_sub_le_abs_sub_of_le order beyond least with
    past | ⟨middle, tie, same⟩
  · left
    zify
    push_cast at past
    linarith
  · right
    have isSame : rank = low := by
      have same : denominator * format.units rank =
          denominator * format.units low := by
        exact_mod_cast neg_inj.mp same
      exact format.units_strictMono.injective
        (Nat.eq_of_mul_eq_mul_left positive same)
    rw [near, near] at tie
    have even := nearest.even (low + 1) (by omega) tie
    refine ⟨?_, by omega⟩
    zify
    push_cast at middle
    linarith

/-- Where a ratio is rounded up between two neighbours: past the middle, and in
the middle if the second of them is even. -/
theorem Nearest.lt_iff (nearest : format.Nearest numerator denominator rank)
    (positive : 0 < denominator) (low : Nat) :
    low < rank ↔
      denominator * (format.units low + format.units (low + 1)) <
          2 * (numerator * format.one) ∨
        denominator * (format.units low + format.units (low + 1)) =
            2 * (numerator * format.one) ∧ low % 2 = 1 := by
  refine ⟨nearest.middle_of_lt positive, fun middle => ?_⟩
  refine Nat.not_le.mp fun below => ?_
  have otherwise := nearest.middle_of_le positive below
  omega

end Format

/-! ## Numbers by their values -/

namespace Binary

variable {format : Format}

/-- The value of a number, if it is finite. -/
def value? : Binary format → Option ℚ
  | .nan => none
  | .signed negative rank =>
      if rank.val < format.infinityRank then
        some ((if negative then -1 else 1) *
          (format.units rank.val / format.one))
      else none

/-- Whether the last bit of a number is not set. -/
def IsEven : Binary format → Prop
  | .nan => False
  | .signed _ rank => rank.val % 2 = 0

/-- Whether a number is finite and none is nearer to a value than it; if another
one is equally near, it is even. -/
def IsNearest (value : ℚ) (rounded : Binary format) : Prop :=
  ∃ held, rounded.value? = some held ∧
    ∀ (other : Binary format) (near : ℚ), other.value? = some near →
      |value - held| ≤ |value - near| ∧
        (|value - held| = |value - near| → near = held ∨ rounded.IsEven)

theorem value?_eq_some_iff {number : Binary format} {value : ℚ} :
    number.value? = some value ↔
      ∃ negative rank, number = .signed negative rank ∧
        rank.val < format.infinityRank ∧
        value = (if negative then -1 else 1) *
          (format.units rank.val / format.one) := by
  cases number with
  | nan =>
      constructor
      · intro same
        cases same
      · rintro ⟨_, _, same, _⟩
        cases same
  | signed negative rank =>
      rw [value?]
      constructor
      · intro same
        split at same
        · rename_i finite
          exact ⟨negative, rank, rfl, finite, (Option.some.inj same).symm⟩
        · cases same
      · rintro ⟨_, _, same, finite, rfl⟩
        cases same
        rw [if_pos finite]

/-- How far a ratio is from a magnitude. -/
theorem distance_eq (numerator rank : Nat) {denominator : Nat}
    (positive : 0 < denominator) :
    |(numerator : ℚ) / denominator - format.units rank / format.one| =
      format.distance numerator denominator rank /
        (denominator * format.one) := by
  have denominatorPositive : (0 : ℚ) < denominator := by exact_mod_cast positive
  have onePositive : (0 : ℚ) < format.one := by exact_mod_cast format.one_pos
  rw [Format.distance, Int.cast_abs, div_sub_div _ _ denominatorPositive.ne'
    onePositive.ne', abs_div, abs_of_pos (mul_pos denominatorPositive onePositive)]
  push_cast
  rfl

/-- A nearest rank is nearest by the values of the magnitudes. -/
theorem abs_sub_le_of_nearest {numerator denominator rank : Nat}
    (nearest : format.Nearest numerator denominator rank)
    (positive : 0 < denominator) (other : Nat) :
    |(numerator : ℚ) / denominator - format.units rank / format.one| ≤
        |(numerator : ℚ) / denominator - format.units other / format.one| ∧
      (|(numerator : ℚ) / denominator - format.units rank / format.one| =
          |(numerator : ℚ) / denominator - format.units other / format.one| →
        other = rank ∨ rank % 2 = 0) := by
  have scale : (0 : ℚ) < denominator * format.one := by
    exact_mod_cast Nat.mul_pos positive format.one_pos
  rw [distance_eq numerator rank positive, distance_eq numerator other positive]
  constructor
  · exact div_le_div_of_nonneg_right (by exact_mod_cast nearest.least other)
      scale.le
  · intro tie
    by_cases same : other = rank
    · exact .inl same
    · right
      refine nearest.even other same ?_
      exact_mod_cast (div_left_inj' scale.ne').mp tie

/-- A ratio is rounded to a number that is nearest to it. -/
theorem ofRatio_isNearest (hasBits : 0 < format.precision)
    (evenBinade : format.binade % 2 = 0) {numerator denominator : Nat}
    (positive : 0 < denominator)
    (finite : format.nearestRank numerator denominator < format.infinityRank) :
    IsNearest ((numerator : ℚ) / denominator)
      (ofRatio false numerator denominator : Binary format) := by
  obtain ⟨rank, isRank, nearest⟩ :
      ∃ rank, format.nearestRank numerator denominator =
          min format.infinityRank rank ∧
        format.Nearest numerator denominator rank :=
    Format.nearestRank_nearest hasBits evenBinade positive
  obtain rfl : rank = format.nearestRank numerator denominator := by omega
  have byRank := abs_sub_le_of_nearest nearest positive
  refine ⟨_, value?_eq_some_iff.mpr ⟨false, _, rfl, finite, rfl⟩, ?_⟩
  intro other near isNear
  obtain ⟨negative, place, rfl, _, rfl⟩ := value?_eq_some_iff.mp isNear
  obtain ⟨least, tied⟩ := byRank place.val
  rw [if_neg Bool.false_ne_true, one_mul]
  have isRatio : (0 : ℚ) ≤ (numerator : ℚ) / denominator := by positivity
  have isMagnitude : (0 : ℚ) ≤ format.units place.val / format.one := by
    positivity
  cases negative with
  | false =>
      rw [if_neg Bool.false_ne_true, one_mul]
      exact ⟨least, fun tie => (tied tie).imp_left fun same => by rw [same]⟩
  | true =>
      rw [if_pos rfl, neg_one_mul, sub_neg_eq_add,
        abs_of_nonneg (add_nonneg isRatio isMagnitude)]
      have fromZero := (byRank 0).1
      rw [Format.units_zero, Nat.cast_zero, zero_div, sub_zero,
        abs_of_nonneg isRatio] at fromZero
      refine ⟨by linarith, fun tie => ?_⟩
      -- Only zero is as near as its own opposite.
      have isZero : (format.units place.val : ℚ) / format.one = 0 := by
        linarith
      rw [isZero, add_zero] at tie
      rw [isZero, sub_zero, abs_of_nonneg isRatio] at tied
      rw [isZero, neg_zero]
      refine (tied tie).imp_left fun same => ?_
      rw [same] at isZero
      exact isZero.symm

end Binary

end Parley.Numeric
