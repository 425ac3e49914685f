import Parley.Json.Writer
import Parley.Proofs.Json.Number

/-!
Contract: integers are read as they were written.

The digits of a natural number are a whole part without spare zeros, and an
integer of 64 bits never loses one of them.

Owns: `Numeral.ofNat`, `Fits64`, and the round trip of integers.
-/

namespace Parley.Json

/-! ## Digits -/

private theorem le_ofDigitChars (digits : List Char) (numeral : Nat) :
    numeral ≤ Nat.ofDigitChars 10 digits numeral := by
  induction digits generalizing numeral with
  | nil => exact Nat.le_refl numeral
  | cons digit digits inductionHypothesis =>
      rw [Nat.ofDigitChars_cons]
      exact Nat.le_trans (by omega) (inductionHypothesis _)

/-- A numeral takes all digits if what they spell stays below the limit. -/
theorem growNumeral_of_lt {limit numeral : Nat} (count : Nat)
    {digits : List Char} (areDigits : Digits digits)
    (below : Nat.ofDigitChars 10 digits numeral < limit) :
    growNumeral limit numeral count digits =
      (Nat.ofDigitChars 10 digits numeral, count + digits.length, []) := by
  induction digits generalizing numeral count with
  | nil => rfl
  | cons digit digits inductionHypothesis =>
      have isDigit := areDigits digit List.mem_cons_self
      have others : Digits digits := fun char member =>
        areDigits char (List.mem_cons_of_mem digit member)
      have same : 10 * numeral + (digit.toNat - '0'.toNat) =
          numeral * 10 + Numeric.digitValue digit := by
        rw [Numeric.digitValue, Nat.mul_comm]
      rw [Nat.ofDigitChars_cons, same] at below ⊢
      have next := Nat.lt_of_le_of_lt (le_ofDigitChars digits _) below
      rw [growNumeral, if_pos ⟨isDigit, next⟩,
        inductionHypothesis (count + 1) others below, List.length_cons]
      congr 2
      omega

theorem digits_toDigits (value : Nat) : Digits (Nat.toDigits 10 value) :=
  fun _ member => Nat.isDigit_of_mem_toDigits (by decide) (by decide) member

theorem toDigits_starts (value : Nat) :
    ∃ first rest, Nat.toDigits 10 value = first :: rest ∧
      first.isDigit = true := by
  cases digits : Nat.toDigits 10 value with
  | nil => exact absurd digits Nat.toDigits_ne_nil
  | cons first rest =>
      have areDigits := digits_toDigits value
      rw [digits] at areDigits
      exact ⟨first, rest, rfl, areDigits first List.mem_cons_self⟩

/-- The digits of a positive number start with no zero. -/
theorem toDigits_head {value : Nat} (positive : 0 < value) :
    ∃ first rest, Nat.toDigits 10 value = first :: rest ∧ first ≠ '0' := by
  induction value using Nat.strongRecOn with
  | ind value inductionHypothesis =>
      rcases Nat.lt_or_ge value 10 with small | large
      · rw [Nat.toDigits_of_lt_base small]
        refine ⟨value.digitChar, [], rfl, ?_⟩
        rw [Ne, Nat.digitChar_eq_zero]
        omega
      · obtain ⟨first, rest, digits, notZero⟩ :=
          inductionHypothesis (value / 10) (by omega) (by omega)
        rw [Nat.toDigits_of_base_le (by decide) large, digits]
        exact ⟨first, _, rfl, notZero⟩

theorem toDigits_noSpareZero (value : Nat) :
    Nat.toDigits 10 value = ['0'] ∨
      ∃ first rest, Nat.toDigits 10 value = first :: rest ∧ first ≠ '0' := by
  rcases Nat.eq_zero_or_pos value with rfl | positive
  · exact .inl rfl
  · exact .inr (toDigits_head positive)

/-- The number whose digits are those of a natural number. -/
def Numeral.ofNat (negative : Bool) (value : Nat) : Numeral where
  negative := negative
  whole := Nat.toDigits 10 value
  places := []
  exponent := none
  areDigits := digits_toDigits value
  arePlaces := fun _ absent => absurd absent List.not_mem_nil
  noSpareZero := toDigits_noSpareZero value

theorem Numeral.value?_ofNat (negative : Bool) {value : Nat}
    (fits : value < UInt64.size) :
    (Numeral.ofNat negative value).value? =
      some (wholeNumber negative value) := by
  have below : Nat.ofDigitChars 10 (Nat.toDigits 10 value) 0 < UInt64.size := by
    rwa [Nat.ofDigitChars_ten_toDigits]
  have grown := growNumeral_of_lt 0 (digits_toDigits value) below
  rw [Nat.ofDigitChars_ten_toDigits] at grown
  have number : wholeSignificand (Numeral.ofNat negative value).negative
      (Numeral.ofNat negative value).whole = ⟨negative, value, 0⟩ := by
    rw [wholeSignificand, ofNat, grown]
    rfl
  rw [value?, number, if_pos ⟨rfl, rfl, rfl⟩]
  rfl

theorem Numeral.spelled_ofNat (negative : Bool) (value : Nat) :
    (Numeral.ofNat negative value).spelled =
      (if negative then ['-'] else []) ++ (toString value).toList := by
  have magnitude : (Numeral.ofNat negative value).magnitude =
      (toString value).toList := by
    rw [Nat.toString_eq_ofList_toDigits, String.toList_ofList]
    exact List.append_nil _
  rw [spelled, magnitude]
  cases negative <;> rfl

/-- Whether an integer has 64 bits, with a sign or without. -/
def Fits64 (value : Int) : Prop :=
  Numeric.fitsSigned 64 value = true ∨ Numeric.fitsUnsigned 64 value = true

theorem fits64_iff {value : Int} :
    Fits64 value ↔ -0x8000000000000000 ≤ value ∧ value < 0x10000000000000000 := by
  unfold Fits64 Numeric.fitsSigned Numeric.fitsUnsigned
  rw [Bool.and_eq_true, Bool.and_eq_true, decide_eq_true_iff,
    decide_eq_true_iff, decide_eq_true_iff, decide_eq_true_iff]
  have signed : Nat.pow 2 (64 - 1) = 0x8000000000000000 := rfl
  have unsigned : Nat.pow 2 64 = 0x10000000000000000 := rfl
  rw [signed, unsigned]
  omega

/-- The numeral of an integer. -/
def Numeral.ofInt : Int → Numeral
  | .ofNat value => .ofNat false value
  | .negSucc value => .ofNat true (value + 1)

theorem write_integer (value : Int) :
    Number.write (.integer value) = (Numeral.ofInt value).spelled := by
  cases value with
  | ofNat natural =>
      rw [Numeral.ofInt, Numeral.spelled_ofNat]
      rfl
  | negSucc natural =>
      rw [Numeral.ofInt, Numeral.spelled_ofNat]
      show ("-" ++ toString (natural + 1)).toList = _
      rw [String.toList_append]
      rfl

/-- The numeral of an integer of 64 bits stands for it. -/
theorem Numeral.value?_ofInt {value : Int} (fits : Fits64 value) :
    (Numeral.ofInt value).value? = some (.integer value) := by
  have bounds := fits64_iff.mp fits
  have size : UInt64.size = 0x10000000000000000 := rfl
  cases value with
  | ofNat natural =>
      rw [Int.ofNat_eq_natCast] at bounds
      rw [ofInt, value?_ofNat false (by omega)]
      rfl
  | negSucc natural =>
      have inRange : 0 < natural + 1 ∧
          Numeric.fitsSigned 64 (-((natural + 1 : Nat) : Int)) = true := by
        refine ⟨Nat.succ_pos natural, ?_⟩
        have signed : Nat.pow 2 (64 - 1) = 0x8000000000000000 := rfl
        rw [Numeric.fitsSigned, Bool.and_eq_true, decide_eq_true_iff,
          decide_eq_true_iff, signed]
        omega
      rw [ofInt, value?_ofNat true (by omega), wholeNumber, if_pos rfl,
        if_pos inRange]
      rfl

end Parley.Json
