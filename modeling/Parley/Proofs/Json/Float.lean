import Parley.Json.Writer
import Parley.Proofs.Json.Integer
import Parley.Proofs.Numeric.Shortest

/-!
Contract: floating-point numbers are written as numbers that can be read.

The digits of a decimal, laid out with a point or an exponent, are a number that
stands for the decimal exactly. A finite number of 32 bits is far from the ends of
the range of what is read, so its text is always read as a number.

Owns: `Numeral.exact`, the numerals of decimals, and when `Numeral.value?` is
defined.
-/

namespace Parley.Json

open Parley.Numeric (Binary Decimal Double Format Layout Single)

/-! ## What a number stands for exactly -/

/-- The power of ten that an exponent stands for. -/
def Exponent.value (exponent : Exponent) : Int :=
  if (exponentSign exponent.signed).1 then
    -(Nat.ofDigitChars 10 exponent.digits 0 : Int)
  else Nat.ofDigitChars 10 exponent.digits 0

namespace Numeral

/-- The power of ten by which an exponent scales, if there is one. -/
def shift (numeral : Numeral) : Int :=
  (numeral.exponent.map Exponent.value).getD 0

/-- What a number stands for without its sign. -/
def size (numeral : Numeral) : ℚ :=
  Nat.ofDigitChars 10 (numeral.whole ++ numeral.places) 0 *
    10 ^ (numeral.shift - numeral.places.length)

/-- What a number stands for, before any rounding. -/
def exact (numeral : Numeral) : ℚ :=
  if numeral.negative then -numeral.size else numeral.size

end Numeral

/-! ## Decimals as numbers -/

theorem Digits.append {first second : List Char} (isFirst : Digits first)
    (isSecond : Digits second) : Digits (first ++ second) := by
  intro char member
  rcases List.mem_append.mp member with inFirst | inSecond
  · exact isFirst char inFirst
  · exact isSecond char inSecond

theorem digits_zeros (count : Nat) : Digits (List.replicate count '0') := by
  intro char member
  rw [List.eq_of_mem_replicate member]
  rfl

theorem Digits.sublist {first second : List Char} (areDigits : Digits second)
    (part : first.Sublist second) : Digits first :=
  fun char member => areDigits char (part.subset member)

/-- Digits spell less than the power of ten that has one digit more. -/
theorem ofDigitChars_lt {digits : List Char} (areDigits : Digits digits) :
    Nat.ofDigitChars 10 digits 0 < 10 ^ digits.length := by
  induction digits with
  | nil => exact Nat.one_pos
  | cons digit digits inductionHypothesis =>
      have others := inductionHypothesis fun char member =>
        areDigits char (List.mem_cons_of_mem digit member)
      have isDigit := Char.isDigit_iff_toNat.mp
        (areDigits digit List.mem_cons_self)
      have small : 10 * 0 + (digit.toNat - '0'.toNat) ≤ 9 := by
        have zero : '0'.toNat = 48 := rfl
        have nine : '9'.toNat = 57 := rfl
        omega
      rw [Nat.ofDigitChars_cons, Nat.ofDigitChars_eq_ofDigitChars_zero,
        List.length_cons, Nat.pow_succ]
      nlinarith

variable {decimal : Decimal}

/-- The digits of a positive decimal. -/
theorem digits_head (positive : 0 < decimal.significand) :
    ∃ first more, decimal.digits = first :: more ∧ first ≠ '0' ∧
      Digits (first :: more) := by
  obtain ⟨first, more, digits, notZero⟩ := toDigits_head positive
  refine ⟨first, more, digits, notZero, ?_⟩
  rw [← digits]
  exact digits_toDigits _

private theorem pointed_of_ne_nil {places : List Char}
    (notEmpty : places ≠ []) :
    Numeral.pointed places = '.' :: places := by
  cases places with
  | nil => exact absurd rfl notEmpty
  | cons place places => rfl

/-- Digits with zeros behind them stand for a decimal that has no places. -/
theorem whole_numeral {digits : List Char} {exponent : Nat}
    (areDigits : Digits digits)
    (notZero : ∃ first more, digits = first :: more ∧ first ≠ '0')
    (spelled : Nat.ofDigitChars 10 digits 0 = decimal.significand)
    (isExponent : decimal.exponent = exponent) (negative : Bool) :
    ∃ numeral : Numeral, numeral.negative = negative ∧
      numeral.magnitude =
        digits ++ List.replicate exponent '0' ++ ['.', '0'] ∧
      numeral.size = decimal.value ∧ numeral.exponent = none ∧
      numeral.whole = digits ++ List.replicate exponent '0' := by
  obtain ⟨first, more, rfl, notZero⟩ := notZero
  refine ⟨⟨negative, first :: more ++ List.replicate exponent '0', ['0'], none,
    areDigits.append (digits_zeros exponent), digits_zeros 1,
    .inr ⟨first, _, rfl, notZero⟩⟩, rfl, rfl, ?_, rfl, rfl⟩
  simp only [Numeral.size, Numeral.shift, Nat.ofDigitChars_append, spelled,
    Nat.ofDigitChars_replicate_zero, Nat.ofDigitChars_cons,
    Nat.ofDigitChars_nil, Decimal.value, isExponent]
  norm_num
  ring

/-- Digits around a point stand for a decimal that has as many places as there
are digits behind the point. -/
theorem pointed_numeral {whole places : List Char} (areDigits : Digits whole)
    (arePlaces : Digits places)
    (noSpareZero : whole = ['0'] ∨
      ∃ first more, whole = first :: more ∧ first ≠ '0')
    (spelled : Nat.ofDigitChars 10 (whole ++ places) 0 = decimal.significand)
    (fractional : decimal.exponent < 0)
    (length : places.length = (-decimal.exponent).toNat) (negative : Bool) :
    ∃ numeral : Numeral, numeral.negative = negative ∧
      numeral.magnitude = whole ++ '.' :: places ∧
      numeral.size = decimal.value ∧ numeral.exponent = none ∧
      numeral.whole = whole := by
  have notEmpty : places ≠ [] := by
    rw [← List.length_pos_iff, length]
    omega
  have power : decimal.exponent = 0 - ((-decimal.exponent).toNat : Int) := by
    omega
  refine ⟨⟨negative, whole, places, none, areDigits, arePlaces, noSpareZero⟩,
    rfl, ?_, ?_, rfl, rfl⟩
  · rw [Numeral.magnitude, pointed_of_ne_nil notEmpty]
    exact congrArg (whole ++ ·) (List.append_nil _)
  · rw [Numeral.size, Numeral.shift, spelled, length, Decimal.value]
    exact congrArg (fun exponent : Int => _ * (10 : ℚ) ^ exponent) power.symm

/-- Positional text is a number without exponent that stands for the decimal. Its
whole part has no more digits than the decimal has before the point. -/
theorem positional_numeral (positive : 0 < decimal.significand)
    (negative : Bool) :
    ∃ numeral : Numeral, numeral.negative = negative ∧
      numeral.magnitude = decimal.positional ∧
      numeral.size = decimal.value ∧ numeral.exponent = none ∧
      (numeral.whole.length : Int) ≤ max 1 (decimal.leadingExponent + 1) := by
  obtain ⟨first, more, digits, notZero, areDigits⟩ := digits_head positive
  have spelled : Nat.ofDigitChars 10 (first :: more) 0 =
      decimal.significand := by
    rw [← digits]
    exact Nat.ofDigitChars_ten_toDigits
  unfold Decimal.positional Decimal.leadingExponent
  rw [digits]
  dsimp only
  split
  · rename_i noPlaces
    obtain ⟨exponent, isExponent⟩ := Int.eq_ofNat_of_zero_le noPlaces
    obtain ⟨numeral, isNegative, isText, isValue, noExponent, isWhole⟩ :=
      whole_numeral areDigits ⟨first, more, rfl, notZero⟩ spelled isExponent
        negative
    rw [isExponent, Int.toNat_natCast]
    refine ⟨numeral, isNegative, isText, isValue, noExponent, ?_⟩
    rw [isWhole, List.length_append, List.length_replicate]
    omega
  rename_i notWhole
  have fractional : decimal.exponent < 0 := Int.not_le.mp notWhole
  split
  · rename_i fewer
    obtain ⟨count, isCount⟩ : ∃ count, (first :: more).length -
        (-decimal.exponent).toNat = count + 1 :=
      ⟨(first :: more).length - (-decimal.exponent).toNat - 1, by omega⟩
    rw [isCount]
    rw [List.length_cons] at isCount fewer
    have joined : Nat.ofDigitChars 10
        (first :: more.take count ++ more.drop count) 0 =
          decimal.significand := by
      rw [List.cons_append, List.take_append_drop, spelled]
    obtain ⟨numeral, isNegative, isText, isValue, noExponent, isWhole⟩ :=
      pointed_numeral
        (areDigits.sublist ((List.take_sublist count more).cons_cons first))
        (areDigits.sublist ((List.drop_sublist count more).cons first))
        (.inr ⟨first, _, rfl, notZero⟩) joined fractional
        (by rw [List.length_drop]; omega) negative
    refine ⟨numeral, isNegative, isText, isValue, noExponent, ?_⟩
    rw [isWhole, List.length_cons, List.length_take, List.length_cons]
    omega
  · rename_i noWhole
    have zeros := digits_zeros
      ((-decimal.exponent).toNat - (first :: more).length)
    have joined : Nat.ofDigitChars 10 (['0'] ++ (List.replicate
        ((-decimal.exponent).toNat - (first :: more).length) '0' ++
          first :: more)) 0 = decimal.significand := by
      have nothing : Nat.ofDigitChars 10 ['0'] 0 = 0 := rfl
      rw [Nat.ofDigitChars_append, Nat.ofDigitChars_append, nothing,
        Nat.ofDigitChars_replicate_zero, Nat.mul_zero, spelled]
    obtain ⟨numeral, isNegative, isText, isValue, noExponent, isWhole⟩ :=
      pointed_numeral (digits_zeros 1) (zeros.append areDigits) (.inl rfl)
        joined fractional
        (by rw [List.length_append, List.length_replicate]; omega) negative
    refine ⟨numeral, isNegative, isText, isValue, noExponent, ?_⟩
    rw [isWhole]
    exact le_max_left _ _

/-- The exponent part that stands for an integer. -/
def Exponent.ofInt (plusSign : Bool) (value : Int) : Exponent where
  marker := 'e'
  sign := if value < 0 then ['-'] else if plusSign then ['+'] else []
  digits := Nat.toDigits 10 value.natAbs
  isMarker := .inl rfl
  isSign := by
    split
    · exact .inr (.inr rfl)
    split
    · exact .inr (.inl rfl)
    · exact .inl rfl
  areDigits := digits_toDigits _
  notEmpty := Nat.toDigits_ne_nil

private theorem Exponent.value_ofInt (plusSign : Bool) (value : Int) :
    (Exponent.ofInt plusSign value).value = value := by
  have isNegative : (exponentSign (Exponent.ofInt plusSign value).signed).1 =
      decide (value < 0) := by
    unfold Exponent.signed Exponent.ofInt
    dsimp only
    split
    · rename_i negative
      rw [decide_eq_true negative]
      rfl
    rename_i notNegative
    rw [decide_eq_false notNegative]
    split
    · rfl
    · obtain ⟨first, more, digits, isDigit⟩ := toDigits_starts value.natAbs
      rw [digits, List.nil_append, exponentSign_digit isDigit]
  have spelled : Nat.ofDigitChars 10 (Exponent.ofInt plusSign value).digits 0 =
      value.natAbs :=
    Nat.ofDigitChars_ten_toDigits
  unfold Exponent.value
  rw [isNegative, spelled]
  split
  · rename_i negative
    rw [decide_eq_true_iff] at negative
    omega
  · rename_i notNegative
    rw [decide_eq_true_iff] at notNegative
    omega

/-- Scientific text is a number with one digit before the point that stands for
the decimal. -/
theorem scientific_numeral (positive : 0 < decimal.significand)
    (negative plusSign : Bool) :
    ∃ numeral : Numeral, numeral.negative = negative ∧
      numeral.magnitude = decimal.scientific plusSign ∧
      numeral.size = decimal.value ∧
      numeral.exponent =
        some (Exponent.ofInt plusSign decimal.leadingExponent) ∧
      numeral.whole.length = 1 := by
  obtain ⟨first, more, digits, notZero, areDigits⟩ := digits_head positive
  have spelled : Nat.ofDigitChars 10 (first :: more) 0 =
      decimal.significand := by
    rw [← digits]
    exact Nat.ofDigitChars_ten_toDigits
  refine ⟨⟨negative, [first], more,
    some (Exponent.ofInt plusSign decimal.leadingExponent),
    areDigits.sublist ((List.nil_sublist more).cons_cons first),
    areDigits.sublist ((List.Sublist.refl more).cons first),
    .inr ⟨first, [], rfl, notZero⟩⟩, rfl, ?_, ?_, rfl, rfl⟩
  · unfold Decimal.scientific
    rw [digits]
    cases more <;> rfl
  · have power : decimal.leadingExponent - (more.length : Int) =
        decimal.exponent := by
      rw [Decimal.leadingExponent, digits, List.length_cons]
      omega
    rw [Numeral.size, Numeral.shift, Option.map_some, Option.getD_some,
      Exponent.value_ofInt, List.singleton_append, spelled, power,
      Decimal.value]

/-! ## Numbers in range -/

/-- A product of a numeral and a power of ten far below the largest number of 64
bits is finite. -/
theorem scaleUp_isFinite (negative : Bool) {digits exponent : Nat}
    (bounded : digits * 10 ^ exponent < 2 ^ 200) :
    ((Binary.ofRatio negative digits 1 : Double).scaleUp
      (powerOfTen exponent)).isFinite = true := by
  have wide := Numeric.Format.double_wide
  have inRange (power : Nat) (small : power ≤ 201) :
      Numeric.double.powerRank power < Numeric.double.infinityRank := by
    have binade : Numeric.double.binade = 0x10000000000000 := rfl
    have infinity : Numeric.double.infinityRank = 0x7FF0000000000000 := rfl
    have scale : Numeric.double.scale = 1074 := rfl
    have precision : Numeric.double.precision = 53 := rfl
    rw [Numeric.Format.powerRank, binade, infinity, scale, precision]
    omega
  have squared : 0 < Numeric.double.one * Numeric.double.one :=
    Nat.mul_pos (Numeric.Format.one_pos _) (Numeric.Format.one_pos _)
  rcases Nat.eq_zero_or_pos digits with rfl | positive
  · obtain ⟨rank, isRank, _⟩ := Binary.ofRatio_units_le wide false Nat.one_pos
      (show 10 ^ exponent ≤ 1 * 2 ^ (Nat.log2 (10 ^ exponent) + 1) by
        rw [Nat.one_mul]
        exact Nat.lt_log2_self.le)
    rw [Binary.ofRatio_zero wide negative Nat.one_pos, powerOfTen, Nat.pow_eq,
      isRank]
    refine Binary.ofRatio_isFinite wide negative squared ?_
      (inRange 0 (Nat.zero_le _))
    rw [Numeric.Format.units_zero, Nat.zero_mul]
    exact Nat.zero_le _
  · have log := Nat.log2_self_le (Nat.ne_of_gt positive)
    have powerLog := Nat.log2_self_le
      (Nat.ne_of_gt (Nat.pow_pos (by decide) : 0 < 10 ^ exponent))
    have bits : Nat.log2 digits + Nat.log2 (10 ^ exponent) < 200 := by
      rw [← Nat.pow_lt_pow_iff_right (show 1 < 2 by decide), pow_add]
      exact (Nat.mul_le_mul log powerLog).trans_lt bounded
    obtain ⟨rank, isRank, within⟩ := Binary.ofRatio_units_le wide negative
      Nat.one_pos (show digits ≤ 1 * 2 ^ (Nat.log2 digits + 1) by
        rw [Nat.one_mul]
        exact Nat.lt_log2_self.le)
    obtain ⟨powerRank, isPowerRank, powerWithin⟩ :=
      Binary.ofRatio_units_le wide false Nat.one_pos
        (show 10 ^ exponent ≤ 1 * 2 ^ (Nat.log2 (10 ^ exponent) + 1) by
          rw [Nat.one_mul]
          exact Nat.lt_log2_self.le)
    rw [isRank, powerOfTen, Nat.pow_eq, isPowerRank]
    refine Binary.ofRatio_isFinite wide negative squared ?_
      (inRange (Nat.log2 digits + 1 + (Nat.log2 (10 ^ exponent) + 1))
        (by omega))
    rw [pow_add]
    calc _ ≤ _ := Nat.mul_le_mul within powerWithin
      _ = _ := by ring

/-- A significand far below the largest number of 64 bits stands for one. -/
theorem toDouble?_isSome {number : Significand}
    (bounded : (number.digits : ℚ) * 10 ^ number.exponent < 2 ^ 200) :
    number.toDouble?.isSome = true := by
  unfold Significand.toDouble?
  dsimp only
  split
  · rfl
  rename_i notNegative
  obtain ⟨exponent, isExponent⟩ :=
    Int.eq_ofNat_of_zero_le (Int.not_lt.mp notNegative)
  rw [isExponent, zpow_natCast] at bounded
  have bounded : number.digits * 10 ^ exponent < 2 ^ 200 := by
    exact_mod_cast bounded
  split
  · rw [isExponent, Int.toNat_natCast, if_pos (scaleUp_isFinite _ bounded)]
    rfl
  rename_i large
  split
  · rfl
  · rename_i notZero
    exfalso
    have power : 10 ^ 61 ≤ 10 ^ exponent :=
      Nat.pow_le_pow_right (by decide) (by omega)
    have atLeast : 10 ^ exponent ≤ number.digits * 10 ^ exponent :=
      Nat.le_mul_of_pos_left _ (Nat.pos_of_ne_zero notZero)
    have apart : 2 ^ 200 < 10 ^ 61 := by norm_num
    omega

/-- What a numeral has taken counts for no more than all digits do. -/
theorem growNumeral_le (limit numeral count : Nat) (digits : List Char) :
    (growNumeral limit numeral count digits).1 *
        10 ^ (growNumeral limit numeral count digits).2.2.length ≤
      Nat.ofDigitChars 10 digits numeral := by
  induction digits generalizing numeral count with
  | nil =>
      rw [growNumeral, Nat.ofDigitChars_nil, List.length_nil, Nat.pow_zero,
        Nat.mul_one]
  | cons digit digits inductionHypothesis =>
      rw [growNumeral]
      split
      · rw [Nat.ofDigitChars_cons, Nat.mul_comm 10]
        exact inductionHypothesis _ _
      · rw [Nat.ofDigitChars_eq_ofDigitChars_zero, Nat.mul_comm]
        exact Nat.le_add_right _ _

/-- The digits that are kept of a number count for no more than the number. -/
theorem extend_le {numeral : Numeral} {number : Significand}
    (isWhole : number =
      ⟨numeral.negative, Nat.ofDigitChars 10 numeral.whole 0, 0⟩) :
    ((number.extend numeral.places).digits : ℚ) *
        10 ^ ((number.extend numeral.places).exponent + numeral.shift) ≤
      numeral.size := by
  subst isWhole
  have taken := growNumeral_le UInt64.size
    (Nat.ofDigitChars 10 numeral.whole 0) 0 numeral.places
  have counted := growNumeral_count UInt64.size
    (Nat.ofDigitChars 10 numeral.whole 0) 0 numeral.places
  unfold Numeral.size Significand.extend
  dsimp only
  rw [Nat.ofDigitChars_append]
  generalize growNumeral UInt64.size (Nat.ofDigitChars 10 numeral.whole 0) 0
    numeral.places = grown at taken counted ⊢
  have split : 0 - (grown.2.1 : Int) + numeral.shift =
      (grown.2.2.length : Int) +
        (numeral.shift - (numeral.places.length : Int)) := by
    omega
  rw [split, zpow_add₀ (by norm_num), zpow_natCast, ← mul_assoc]
  refine mul_le_mul_of_nonneg_right ?_ (zpow_nonneg (by norm_num) _)
  exact_mod_cast taken

theorem Numeral.value?_isSome {numeral : Numeral}
    (wholeFits : Nat.ofDigitChars 10 numeral.whole 0 < UInt64.size)
    (exponentFits : ∀ exponent, numeral.exponent = some exponent →
      Nat.ofDigitChars 10 exponent.digits 0 < exponentLimit)
    (bounded : numeral.size < 2 ^ 200) : numeral.value?.isSome = true := by
  have grown := growNumeral_of_lt 0 numeral.areDigits wholeFits
  have number : wholeSignificand numeral.negative numeral.whole =
      ⟨numeral.negative, Nat.ofDigitChars 10 numeral.whole 0, 0⟩ := by
    rw [wholeSignificand, grown]
    rfl
  have kept := (extend_le number).trans_lt bounded
  unfold Numeral.value?
  dsimp only
  split
  · rfl
  cases exponent : numeral.exponent with
  | none =>
      rw [Numeral.shift, exponent, Option.map_none, Option.getD_none,
        Int.add_zero] at kept
      rw [Significand.value?, Option.isSome_map]
      exact toDouble?_isSome kept
  | some part =>
      have grownExponent := growNumeral_of_lt 0 part.areDigits
        (exponentFits part exponent)
      rw [Numeral.shift, exponent, Option.map_some, Option.getD_some] at kept
      rw [Significand.value?, Significand.raise?, grownExponent]
      dsimp only
      rw [if_pos rfl, Option.isSome_map]
      exact toDouble?_isSome kept

/-! ## Written numbers -/

/-- The first digit of a decimal counts for no more than the decimal. -/
theorem leading_le_value (positive : 0 < decimal.significand) :
    (10 : ℚ) ^ decimal.leadingExponent ≤ decimal.value := by
  have length := Nat.length_toDigits_pos (b := 10) (n := decimal.significand)
  have atLeast : 10 ^ (decimal.digits.length - 1) ≤ decimal.significand := by
    by_contra fewer
    rcases Nat.eq_zero_or_pos (decimal.digits.length - 1) with single | several
    · rw [single] at fewer
      omega
    · have short := (Nat.length_toDigits_le_iff (by decide) several).mpr
        (Nat.not_le.mp fewer)
      unfold Decimal.digits at short several
      omega
  have split : decimal.leadingExponent =
      ((decimal.digits.length - 1 : Nat) : Int) + decimal.exponent := by
    unfold Decimal.leadingExponent Decimal.digits
    omega
  rw [split, zpow_add₀ (by norm_num), zpow_natCast, Decimal.value]
  refine mul_le_mul_of_nonneg_right ?_ (zpow_nonneg (by norm_num) _)
  exact_mod_cast atLeast

/-- A decimal of moderate size is written as a number that stands for it and is
not out of range. -/
theorem decimal_numeral (positive : 0 < decimal.significand)
    (bounded : decimal.value < 2 ^ 200) (places : -0x10000 ≤ decimal.exponent)
    {layout : Layout} (short : layout.positionalBelow ≤ 19) (negative : Bool) :
    ∃ numeral : Numeral, numeral.negative = negative ∧
      numeral.magnitude = decimal.write layout ∧
      numeral.size = decimal.value ∧ numeral.value?.isSome = true := by
  unfold Decimal.write
  split
  · rename_i positional
    obtain ⟨numeral, isNegative, magnitude, size, noExponent, length⟩ :=
      positional_numeral positive negative
    refine ⟨numeral, isNegative, magnitude, size, Numeral.value?_isSome ?_ ?_ ?_⟩
    · have wholeLength : numeral.whole.length ≤ 19 := by
        omega
      calc Nat.ofDigitChars 10 numeral.whole 0
          < 10 ^ numeral.whole.length := ofDigitChars_lt numeral.areDigits
        _ ≤ 10 ^ 19 := Nat.pow_le_pow_right (by decide) wholeLength
        _ ≤ UInt64.size := by decide
    · intro exponent isSome
      rw [noExponent] at isSome
      cases isSome
    · rwa [size]
  · obtain ⟨numeral, isNegative, magnitude, size, isExponent, length⟩ :=
      scientific_numeral positive negative layout.plusSign
    refine ⟨numeral, isNegative, magnitude, size, Numeral.value?_isSome ?_ ?_ ?_⟩
    · calc Nat.ofDigitChars 10 numeral.whole 0
          < 10 ^ numeral.whole.length := ofDigitChars_lt numeral.areDigits
        _ ≤ UInt64.size := by
            rw [length]
            decide
    · intro exponent isSome
      rw [isExponent] at isSome
      rw [← Option.some.inj isSome]
      have below : decimal.leadingExponent < 61 := by
        have power : (10 : ℚ) ^ decimal.leadingExponent < 10 ^ (61 : Int) :=
          calc (10 : ℚ) ^ decimal.leadingExponent
              ≤ decimal.value := leading_le_value positive
            _ < 2 ^ 200 := bounded
            _ < 10 ^ (61 : Int) := by norm_num
        exact (zpow_lt_zpow_iff_right₀ (by norm_num)).mp power
      have above : -0x10000 ≤ decimal.leadingExponent := by
        have length := Nat.length_toDigits_pos (b := 10)
          (n := decimal.significand)
        unfold Decimal.leadingExponent Decimal.digits
        omega
      have spelled : Nat.ofDigitChars 10
          (Exponent.ofInt layout.plusSign decimal.leadingExponent).digits 0 =
          decimal.leadingExponent.natAbs :=
        Nat.ofDigitChars_ten_toDigits
      have limit : exponentLimit = 0x80000000 := rfl
      rw [spelled, limit]
      omega
    · rwa [size]

/-- The number zero, as floating-point numbers are written. -/
def Numeral.zero (negative : Bool) : Numeral where
  negative := negative
  whole := ['0']
  places := ['0']
  exponent := none
  areDigits := digits_zeros 1
  arePlaces := digits_zeros 1
  noSpareZero := .inl rfl

/-- The magnitude of a finite number of 32 bits is written as a number. -/
theorem single_magnitude (negative : Bool) {rank : Nat}
    (finite : rank < Numeric.single.infinityRank) :
    ∃ numeral : Numeral, numeral.negative = negative ∧
      numeral.magnitude = (if rank = 0 then ['0', '.', '0']
        else (Numeric.single.shortest singleLayout.tie rank).write
          singleLayout) ∧
      numeral.value?.isSome = true ∧
      (0 < rank → numeral.size =
        (Numeric.single.shortest singleLayout.tie rank).value) := by
  rcases Nat.eq_zero_or_pos rank with rfl | positive
  · have small : Nat.ofDigitChars 10 ['0'] 0 < UInt64.size := by decide
    refine ⟨.zero negative, rfl, rfl, Numeral.value?_isSome small ?_ ?_,
      fun positive => absurd positive (Nat.lt_irrefl 0)⟩
    · intro exponent isSome
      cases isSome
    · have nothing : Nat.ofDigitChars 10 ['0', '0'] 0 = 0 := rfl
      rw [Numeral.size]
      show (Nat.ofDigitChars 10 ['0', '0'] 0 : ℚ) * _ < _
      rw [nothing, Nat.cast_zero, zero_mul]
      norm_num
  · have wide := Numeric.Format.single_wide
    have below : Numeric.single.units rank < Numeric.single.one * 2 ^ 128 := by
      rw [← Numeric.Format.units_powerRank wide]
      exact Numeric.single.units_strictMono finite
    have bounded := Numeric.Format.shortest_lt_power wide positive below
      singleLayout.tie
    have valuePositive :=
      Numeric.single.shortest_pos positive singleLayout.tie
    have places := Numeric.single.exponent_shortest rank singleLayout.tie
    have significand :
        0 < (Numeric.single.shortest singleLayout.tie rank).significand := by
      refine Nat.pos_of_ne_zero fun isZero => ?_
      rw [Decimal.value, isZero, Nat.cast_zero, zero_mul] at valuePositive
      exact lt_irrefl _ valuePositive
    have scale : (Numeric.single.scale : Int) = 149 := rfl
    obtain ⟨numeral, isNegative, magnitude, size, inRange⟩ :=
      decimal_numeral significand (bounded.trans (by norm_num)) (by omega)
        (show singleLayout.positionalBelow ≤ 19 by decide) negative
    refine ⟨numeral, isNegative, ?_, inRange, fun _ => size⟩
    rw [if_neg (Nat.ne_of_gt positive), magnitude]

/-- A finite number of 32 bits is written as a number that is not out of range. If
it lies strictly between zero and one, then so does what the text stands for. -/
theorem single_numeral {value : Single} (finite : value.isFinite = true) :
    ∃ numeral : Numeral,
      Number.write (.single value) = numeral.spelled ∧
        numeral.value?.isSome = true ∧
        (value.insideUnit = true → 0 < numeral.exact ∧ numeral.exact < 1) := by
  cases value with
  | nan => cases finite
  | signed negative rank =>
      have finite : rank.val < Numeric.single.infinityRank :=
        of_decide_eq_true finite
      obtain ⟨numeral, isNegative, magnitude, inRange, size⟩ :=
        single_magnitude negative finite
      refine ⟨numeral, ?_, inRange, fun inside => ?_⟩
      · show (Binary.write singleLayout _).toList = _
        unfold Binary.write
        dsimp only
        rw [if_neg (Nat.ne_of_lt finite), ← magnitude, String.toList_ofList,
          Numeral.spelled, isNegative]
      · cases negative with
        | true => cases inside
        | false =>
            obtain ⟨above, below⟩ := Bool.and_eq_true_iff.mp inside
            have above := Numeric.single.units_pos_iff.mp
              (of_decide_eq_true above)
            have below : Numeric.single.units rank.val <
                Numeric.single.one * 2 ^ 0 := by
              rw [Nat.pow_zero, Nat.mul_one]
              exact of_decide_eq_true below
            have exact : numeral.exact =
                (Numeric.single.shortest singleLayout.tie rank.val).value := by
              rw [Numeral.exact, isNegative, if_neg Bool.false_ne_true,
                size above]
            rw [exact]
            refine ⟨Numeric.single.shortest_pos above singleLayout.tie, ?_⟩
            exact (Numeric.Format.shortest_lt_power
              Numeric.Format.single_wide above below
              singleLayout.tie).trans_eq (pow_zero 2)

end Parley.Json
