import Parley.Proofs.Json.Integer
import Parley.Yaml.Scalar

/-!
Contract: what a written number means in YAML.

The digits of a natural number are no octal or hexadecimal number and spell that
number. A numeral of JSON is no word for the empty value.

Owns: the meaning of the numerals that are written for integers.
-/

namespace Parley.Yaml

open Parley.Json (Digits Numeral digits_toDigits toDigits_noSpareZero
  toDigits_starts)

/-! ## Integers -/

private theorem digitIn?_digit {digit : Char} (isDigit : digit.isDigit = true) :
    Text.digitIn? 10 digit = some (digit.toNat - '0'.toNat) := by
  obtain ⟨least, most⟩ := Char.isDigit_iff_toNat.mp isDigit
  have inRange : '0' ≤ digit ∧ digit ≤ '9' := ⟨least, most⟩
  have below : digit.toNat - '0'.toNat < 10 :=
    Nat.sub_lt_left_of_lt_add least (Nat.lt_succ_of_le most)
  rw [Text.digitIn?, if_pos inRange]
  exact Option.filter_some_pos (decide_eq_true below)

private theorem numberIn?_digits {digits : List Char}
    (areDigits : Digits digits)
    (total : Nat) :
    digits.foldlM
        (fun total char => (Text.digitIn? 10 char).map (total * 10 + ·)) total =
      some (Nat.ofDigitChars 10 digits total) := by
  induction digits generalizing total with
  | nil => rfl
  | cons digit digits inductionHypothesis =>
      obtain ⟨isDigit, areDigits⟩ := List.forall_mem_cons.mp areDigits
      rw [List.foldlM_cons, digitIn?_digit isDigit, Nat.ofDigitChars_cons,
        Nat.mul_comm]
      exact inductionHypothesis areDigits _

private theorem naturalIn?_toDigits (value : Nat) :
    naturalIn? 10 (Nat.toDigits 10 value) = some value := by
  obtain ⟨first, rest, digits, _⟩ := toDigits_starts value
  have number : Text.numberIn? 10 (Nat.toDigits 10 value) = some value := by
    rw [Text.numberIn?, numberIn?_digits (digits_toDigits value),
      Nat.ofDigitChars_ten_toDigits]
  rw [digits] at number ⊢
  exact number

private theorem takeSign_digit {first : Char} (isDigit : first.isDigit = true)
    (rest : List Char) :
    Numeric.takeSign (first :: rest) = (false, first :: rest) := by
  unfold Numeric.takeSign
  split
  · rename_i same
    obtain ⟨rfl, _⟩ := List.cons.inj same
    cases isDigit
  · rename_i same
    obtain ⟨rfl, _⟩ := List.cons.inj same
    cases isDigit
  · rfl

private theorem integer?_toDigits (value : Nat) :
    integer? (Nat.toDigits 10 value) = some (value : Int) := by
  obtain ⟨first, rest, digits, isDigit⟩ := toDigits_starts value
  have unsigned : Numeric.takeSign (Nat.toDigits 10 value) =
      (false, Nat.toDigits 10 value) := by
    rw [digits, takeSign_digit isDigit]
  -- No zero stands before other digits, so the digits start with no base either.
  have noZero : hasLeadingZero (Nat.toDigits 10 value) = false ∧
      magnitude? (Nat.toDigits 10 value) = naturalIn? 10 (Nat.toDigits 10 value) := by
    rw [hasLeadingZero, unsigned]
    rcases toDigits_noSpareZero value with zero | ⟨first, rest, digits, notZero⟩
    · rw [zero]
      exact ⟨rfl, rfl⟩
    · have other (mark : Char) (more : List Char) :
          first :: rest ≠ '0' :: mark :: more :=
        fun same => notZero (List.cons.inj same).1
      rw [digits]
      constructor
      · split
        · rename_i same
          exact absurd same (other _ _)
        · rfl
      · rw [magnitude?] <;> exact other _
  rw [integer?, if_neg (by rw [noZero.1]; decide), unsigned]
  dsimp only
  rw [noZero.2, naturalIn?_toDigits]
  rfl

theorem readAs?_natural {value : Nat} (small : value < UInt64.size) :
    (⟨none, .plain, String.ofList (Json.Number.write (.integer value))⟩ :
        Scalar).readAs? .unsigned = some (.integer value) := by
  have digits : Json.Number.write (.integer value) = Nat.toDigits 10 value := by
    show (toString value).toList = _
    rw [Nat.toString_eq_ofList_toDigits, String.toList_ofList]
  have noSign :
      (String.ofList (Nat.toDigits 10 value)).startsWith "-" = false := by
    rw [Bool.eq_false_iff, Ne, String.startsWith_string_iff]
    rintro ⟨rest, same⟩
    have signed : '-' :: rest = Nat.toDigits 10 value :=
      same.trans String.toList_ofList
    have isDigit := digits_toDigits value '-' (signed ▸ List.mem_cons_self)
    cases isDigit
  have fits : Numeric.fitsUnsigned 64 (value : Int) = true := by
    rw [Numeric.fitsUnsigned, Bool.and_eq_true, decide_eq_true_iff,
      decide_eq_true_iff]
    exact ⟨Int.natCast_nonneg value, Int.ofNat_lt.mpr small⟩
  rw [digits, Scalar.readAs?, noSign, String.toList_ofList,
    integer?_toDigits, Option.filter_some_pos fits]
  rfl

/-! ## The empty value -/

/-- Whether a text starts like a numeral. -/
def startsNumeral (text : String) : Bool :=
  text.toList.head?.any fun char => char.isDigit || char == '-'

/-- No numeral is a word for the empty value. -/
theorem isNullWord_numeral (numeral : Numeral) :
    ((String.ofList numeral.spelled).isEmpty ||
      isNullWord (String.ofList numeral.spelled)) = false := by
  obtain ⟨first, more, opened, starts⟩ := numeral.spelled_head
  have isNumber : startsNumeral (String.ofList numeral.spelled) = true := by
    rw [startsNumeral, String.toList_ofList, opened]
    show (first.isDigit || first == '-') = true
    rwa [Bool.or_eq_true, beq_iff_eq]
  have others : ∀ word ∈ ["", "null", "Null", "NULL", "~"],
      startsNumeral word = false := by
    decide
  have differs : ∀ word ∈ ["", "null", "Null", "NULL", "~"],
      String.ofList numeral.spelled ≠ word := by
    rintro word isEmptyWord rfl
    cases isNumber.symm.trans (others _ isEmptyWord)
  rw [Bool.or_eq_false_iff, ← Bool.not_eq_true, ← Bool.not_eq_true,
    String.isEmpty_iff, isNullWord, List.contains_iff_mem]
  exact ⟨differs "" List.mem_cons_self,
    fun isNull => differs _ (List.mem_cons_of_mem _ isNull) rfl⟩

end Parley.Yaml
