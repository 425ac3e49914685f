import Parley.Proofs.Numeric.Rounding
import Parley.Provider.Parameters

/-!
Contract: which options of a call replace the parameters of a client.

A sampling value is judged once it is rounded to 32 bits. Rounding reaches zero up
to half of the least magnitude, and one from half of the last spacing below one, so
those are the bounds for the value that was given.

Owns: `Usable`, `Overridden`, and the exact result of `merge`.
-/

namespace Parley.Numeric

open Format (Nearest)

theorem single_binade_even : single.binade % 2 = 0 := by
  decide

/-- The magnitudes of 32 bits next to one. -/
theorem single_units_below_one :
    single.units 0x3F7FFFFF = 2 ^ 149 - 2 ^ 125 ∧
      single.units 0x3F800000 = 2 ^ 149 := by
  decide

namespace Binary

/-- The values that are strictly between zero and one once they are rounded to 32
bits. -/
def Usable (value : ℚ) : Prop :=
  1 / 2 ^ 150 < value ∧ value < 1 - 1 / 2 ^ 25

/-- The usable ratios, multiplied out. -/
theorem usable_ratio_iff {numerator denominator : Nat}
    (positive : 0 < denominator) :
    Usable ((numerator : ℚ) / denominator) ↔
      denominator < numerator * 2 ^ 150 ∧
        numerator * 2 ^ 25 < denominator * (2 ^ 25 - 1) := by
  have isPositive : (0 : ℚ) < denominator := by exact_mod_cast positive
  have gap : (1 : ℚ) - 1 / 2 ^ 25 = (2 ^ 25 - 1 : ℕ) / 2 ^ 25 := by norm_num
  rw [Usable, gap, div_lt_div_iff₀ (by positivity) isPositive,
    div_lt_div_iff₀ isPositive (by positivity), one_mul, mul_comm _ (denominator : ℚ)]
  exact_mod_cast Iff.rfl

/-- Where rounding to 32 bits stays off zero and one. -/
theorem insideUnit_ofRatio_iff {numerator denominator : Nat}
    (positive : 0 < denominator) :
    (ofRatio false numerator denominator : Single).insideUnit = true ↔
      Usable ((numerator : ℚ) / denominator) := by
  obtain ⟨rank, isRank, nearest⟩ :
      ∃ rank, single.nearestRank numerator denominator =
          min single.infinityRank rank ∧
        single.Nearest numerator denominator rank :=
    Format.nearestRank_nearest (by decide) single_binade_even positive
  have offZero := nearest.lt_iff positive 0
  have offOne := nearest.lt_iff positive 0x3F7FFFFF
  have one : single.one = 2 ^ 149 := rfl
  rw [single_units_below_one.1, single_units_below_one.2, one] at offOne
  rw [show single.units 0 = 0 from rfl, show single.units (0 + 1) = 1 from rfl,
    one] at offZero
  have below : single.units (single.nearestRank numerator denominator) <
      single.one ↔ ¬ 0x3F7FFFFF < rank := by
    rw [one, ← single_units_below_one.2,
      single.units_strictMono.lt_iff_lt, isRank,
      show single.infinityRank = 0x7F800000 from rfl]
    omega
  have above : 0 < single.units (single.nearestRank numerator denominator) ↔
      0 < rank := by
    rw [single.units_pos_iff, isRank,
      show single.infinityRank = 0x7F800000 from rfl]
    omega
  have inside : (ofRatio false numerator denominator : Single).insideUnit =
      true ↔ 0 < rank ∧ ¬ 0x3F7FFFFF < rank := by
    rw [← above, ← below, ofRatio, insideUnit, Bool.and_eq_true,
      decide_eq_true_iff, decide_eq_true_iff]
  rw [inside, usable_ratio_iff positive, offZero, offOne]
  omega

/-- The numbers strictly between zero and one. -/
def Between (number : Single) : Prop :=
  ∃ value, number.value? = some value ∧ 0 < value ∧ value < 1

theorem single_rank_lt {rank : Nat} (below : single.units rank < single.one) :
    rank < single.infinityRank := by
  rw [show single.one = 2 ^ 149 from rfl, ← single_units_below_one.2,
    single.units_strictMono.lt_iff_lt] at below
  exact below.trans (by decide)

theorem between_of_insideUnit {number : Single}
    (inside : number.insideUnit = true) : Between number := by
  cases number with
  | nan => cases inside
  | signed negative rank =>
      cases negative with
      | true => cases inside
      | false =>
          obtain ⟨above, below⟩ := Bool.and_eq_true_iff.mp inside
          have above := of_decide_eq_true above
          have below := of_decide_eq_true below
          refine ⟨single.units rank.val / single.one,
            value?_eq_some_iff.mpr ⟨false, rank, rfl, single_rank_lt below, ?_⟩,
            ?_, ?_⟩
          · rw [if_neg Bool.false_ne_true, one_mul]
          · have onePositive := single.one_pos
            positivity
          · rw [div_lt_one (by exact_mod_cast single.one_pos)]
            exact_mod_cast below

theorem insideUnit_iff_between {number : Single} :
    number.insideUnit = true ↔ Between number := by
  refine ⟨between_of_insideUnit, ?_⟩
  rintro ⟨_, isValue, above, below⟩
  obtain ⟨negative, rank, rfl, _, rfl⟩ := value?_eq_some_iff.mp isValue
  have onePositive : (0 : ℚ) < single.one := by
    exact_mod_cast single.one_pos
  cases negative with
  | true =>
      have magnitude : (0 : ℚ) ≤ single.units rank.val / single.one := by
        positivity
      rw [if_pos rfl, neg_one_mul] at above
      linarith
  | false =>
      rw [if_neg Bool.false_ne_true, one_mul] at above below
      rw [div_pos_iff_of_pos_right onePositive] at above
      rw [div_lt_one onePositive] at below
      exact Bool.and_eq_true_iff.mpr
        ⟨decide_eq_true (by exact_mod_cast above),
          decide_eq_true (by exact_mod_cast below)⟩

private theorem Usable.pos {value : ℚ} (usable : Usable value) : 0 < value :=
  lt_trans (by positivity) usable.1

private theorem not_insideUnit_infinity (negative : Bool) :
    (infinity negative : Single).insideUnit ≠ true := by
  intro inside
  cases negative with
  | true => cases inside
  | false =>
      rw [infinity, insideUnit, Bool.and_eq_true] at inside
      exact Nat.lt_irrefl _ (single_rank_lt (of_decide_eq_true inside.2))

/-- A number of 64 bits is strictly between zero and one once it is rounded to 32
bits exactly if it is usable. -/
theorem convert_insideUnit_iff {given : Double} :
    (given.convert single).insideUnit = true ↔
      ∃ value, given.value? = some value ∧ Usable value := by
  cases given with
  | nan =>
      constructor
      · intro inside
        cases inside
      · rintro ⟨_, noValue, _⟩
        cases noValue
  | signed negative rank =>
      rw [convert, value?]
      by_cases finite : rank.val < double.infinityRank
      · rw [if_pos finite, if_pos finite]
        cases negative with
        | true =>
            constructor
            · intro inside
              cases inside
            · rintro ⟨_, same, usable⟩
              have positive := usable.pos
              rw [← Option.some.inj same, if_pos rfl, neg_one_mul] at positive
              have notNegative : (0 : ℚ) ≤ double.units rank.val / double.one :=
                div_nonneg (Nat.cast_nonneg _) (Nat.cast_nonneg _)
              linarith
        | false =>
            rw [insideUnit_ofRatio_iff double.one_pos,
              if_neg Bool.false_ne_true, one_mul]
            constructor
            · intro usable
              exact ⟨_, rfl, usable⟩
            · rintro ⟨_, same, usable⟩
              rwa [← Option.some.inj same] at usable
      · rw [if_neg finite, if_neg finite]
        constructor
        · intro inside
          exact absurd inside (not_insideUnit_infinity negative)
        · rintro ⟨_, noValue, _⟩
          cases noValue

private theorem ofRatio_isNearest_of_insideUnit {numerator denominator : Nat}
    (positive : 0 < denominator)
    (inside : (ofRatio false numerator denominator : Single).insideUnit = true) :
    IsNearest ((numerator : ℚ) / denominator)
      (ofRatio false numerator denominator : Single) := by
  rw [ofRatio, insideUnit, Bool.and_eq_true] at inside
  exact ofRatio_isNearest (by decide) single_binade_even positive
    (single_rank_lt (of_decide_eq_true inside.2))

/-- A usable number is rounded to the nearest one of 32 bits. -/
theorem convert_isNearest {given : Double} {value : ℚ}
    (isValue : given.value? = some value) (usable : Usable value) :
    IsNearest value (given.convert single) := by
  have inside := convert_insideUnit_iff.mpr ⟨value, isValue, usable⟩
  obtain ⟨negative, rank, rfl, finite, rfl⟩ := value?_eq_some_iff.mp isValue
  rw [convert, if_pos finite] at inside ⊢
  cases negative with
  | true => cases inside
  | false =>
      rw [if_neg Bool.false_ne_true, one_mul]
      exact ofRatio_isNearest_of_insideUnit double.one_pos inside

end Binary

end Parley.Numeric

namespace Parley.Provider

open Parley.Numeric (Binary Double Single)
open Parley.Numeric.Binary (Between IsNearest Usable)
open Parley.Wire (Request)

/-- What becomes of a sampling value: it is the option, rounded to the nearest, if
that is usable, and the default otherwise. -/
structure Overridden (option : Option Double) (default merged : Option Single) :
    Prop where
  taken : ∀ given value, option = some given → given.value? = some value →
    Usable value → ∃ rounded, merged = some rounded ∧ IsNearest value rounded
  kept : (∀ given value, option = some given → given.value? = some value →
    ¬ Usable value) → merged = default
  inside : (∀ held, default = some held → Between held) →
    ∀ held, merged = some held → Between held

private theorem samplingOverride_of_usable {given : Double} {value : ℚ}
    (isValue : given.value? = some value) (usable : Usable value) :
    samplingOverride (some given) = some (given.convert Numeric.single) :=
  Option.filter_eq_some_iff.mpr
    ⟨rfl, Binary.convert_insideUnit_iff.mpr ⟨value, isValue, usable⟩⟩

private theorem samplingOverride_eq_none_iff {option : Option Double} :
    samplingOverride option = none ↔ ∀ given value, option = some given →
      given.value? = some value → ¬ Usable value := by
  cases option with
  | none => exact ⟨fun _ _ _ absent => (nomatch absent), fun _ => rfl⟩
  | some given =>
      have same : samplingOverride (some given) = none ↔
          ¬ (given.convert Numeric.single).insideUnit = true := by
        rw [samplingOverride, Option.map_some, Option.filter_some]
        split
        · exact ⟨fun absent => (nomatch absent), fun outside => absurd ‹_› outside⟩
        · exact ⟨fun _ => ‹_›, fun _ => rfl⟩
      rw [same, Binary.convert_insideUnit_iff]
      constructor
      · intro noneUsable other value isGiven isValue usable
        rw [← Option.some.inj isGiven] at isValue
        exact noneUsable ⟨value, isValue, usable⟩
      · rintro noneUsable ⟨value, isValue, usable⟩
        exact noneUsable given value rfl isValue usable

theorem overridden (option : Option Double) (default : Option Single) :
    Overridden option default ((samplingOverride option).or default) where
  taken given value isGiven isValue usable := by
    rw [isGiven, samplingOverride_of_usable isValue usable]
    exact ⟨_, rfl, Binary.convert_isNearest isValue usable⟩
  kept noneUsable := by
    rw [samplingOverride_eq_none_iff.mpr noneUsable, Option.none_or]
  inside admissible held isHeld := by
    rcases Option.or_eq_some_iff.mp isHeld with overrides | ⟨_, isDefault⟩
    · exact Binary.between_of_insideUnit (Option.filter_eq_some_iff.mp overrides).2
    · exact admissible held isDefault

private theorem merge_idempotent (defaults : Request) (options : CallOptions) :
    merge (merge defaults options) options = merge defaults options := by
  unfold merge
  dsimp only
  rw [← Option.or_assoc, ← Option.or_assoc, Option.or_self, Option.or_self]
  cases modelOverride options.model <;> rfl

/-- The options of a call override the parameters of a client exactly where they
are usable. What is merged once is not changed by merging the same options
again. -/
theorem merge_overrides_where_usable (defaults : Request)
    (options : CallOptions) :
    Overridden options.temperature defaults.temperature
        (merge defaults options).temperature ∧
      Overridden options.topP defaults.topP (merge defaults options).topP ∧
      (∀ name, options.model = some name → name ≠ "" →
        (merge defaults options).model = name) ∧
      (options.model = none ∨ options.model = some "" →
        (merge defaults options).model = defaults.model) ∧
      (merge defaults options).prompt = defaults.prompt ∧
      merge (merge defaults options) options = merge defaults options := by
  refine ⟨overridden _ _, overridden _ _, ?_, ?_, rfl,
    merge_idempotent defaults options⟩
  · intro name isName notEmpty
    have overrides : modelOverride options.model = some name :=
      Option.filter_eq_some_iff.mpr ⟨isName, by simpa using notEmpty⟩
    rw [merge, overrides, Option.getD_some]
  · intro unset
    have keeps : modelOverride options.model = none := by
      rcases unset with isNone | isEmpty
      · rw [isNone]
        rfl
      · rw [isEmpty]
        rfl
    rw [merge, keeps, Option.getD_none]

/-- The last number of 64 bits before one less `2 ^ -25`. -/
def lastUsable : Double :=
  .signed false ⟨0x3FEFFFFFEFFFFFFF, by decide⟩

/-- The number of 64 bits that is `2 ^ -150`. -/
def lastTooSmall : Double :=
  .signed false ⟨0x3690000000000000, by decide⟩

/-- The last number before the upper bound is taken, and the lower bound itself is
not. -/
theorem merge_lastUsable :
    (∃ value, lastUsable.value? = some value ∧ Usable value ∧
      ∃ rounded, (merge .standard ⟨none, some lastUsable, some lastTooSmall⟩).temperature =
        some rounded ∧ IsNearest value rounded) ∧
      (merge .standard ⟨none, some lastUsable, some lastTooSmall⟩).topP =
        Request.standard.topP := by
  obtain ⟨temperature, topP, _⟩ := merge_overrides_where_usable .standard
    ⟨none, some lastUsable, some lastTooSmall⟩
  constructor
  · have isValue : lastUsable.value? =
        some ((Numeric.double.units 0x3FEFFFFFEFFFFFFF : ℚ) /
          Numeric.double.one) := by
      rw [lastUsable, Binary.value?, if_pos (by decide),
        if_neg Bool.false_ne_true, one_mul]
    have usable : Usable ((Numeric.double.units 0x3FEFFFFFEFFFFFFF : ℚ) /
        Numeric.double.one) :=
      (Binary.usable_ratio_iff Numeric.double.one_pos).mpr (by decide +kernel)
    exact ⟨_, isValue, usable, temperature.taken _ _ rfl isValue usable⟩
  · refine topP.kept fun given value isGiven isValue usable => ?_
    have inside := Binary.convert_insideUnit_iff.mpr ⟨value, isValue, usable⟩
    rw [← Option.some.inj isGiven] at inside
    exact absurd inside (by decide +kernel)

end Parley.Provider
