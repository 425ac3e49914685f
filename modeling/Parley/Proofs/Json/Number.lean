import Parley.Json.Number

/-!
Contract: the grammar of JSON numbers, and what numbers denote.

A number has a whole part without superfluous zeros, and may have a sign, places
behind a point, and an exponent. What is read is exactly what the grammar allows
up to the first character that does not continue the number, and what it denotes
does not depend on what comes after.

Owns: `Exponent`, `Numeral`, `Separated`, and both directions of `readNumber`.
-/

namespace Parley.Json

open Parley.Numeric (Binary)

/-! ## Grammar -/

/-- Whether characters are digits. -/
def Digits (chars : List Char) : Prop :=
  ∀ char ∈ chars, char.isDigit = true

/-- The exponent of a number: its marker, its sign and its digits. -/
structure Exponent where
  marker : Char
  sign : List Char
  digits : List Char
  isMarker : marker = 'e' ∨ marker = 'E'
  isSign : sign = [] ∨ sign = ['+'] ∨ sign = ['-']
  areDigits : Digits digits
  notEmpty : digits ≠ []

/-- The text of an exponent after its marker. -/
def Exponent.signed (exponent : Exponent) : List Char :=
  exponent.sign ++ exponent.digits

/-- A number as it is spelled. One without places has no point. -/
structure Numeral where
  negative : Bool
  whole : List Char
  places : List Char
  exponent : Option Exponent
  areDigits : Digits whole
  arePlaces : Digits places
  noSpareZero : whole = ['0'] ∨ ∃ first rest, whole = first :: rest ∧ first ≠ '0'

namespace Numeral

/-- The text of places, with their point. -/
def pointed : List Char → List Char
  | [] => []
  | place :: places => '.' :: place :: places

/-- The text of an exponent, if there is one. -/
def scale : Option Exponent → List Char
  | none => []
  | some exponent => exponent.marker :: exponent.signed

/-- The text of a number without its sign. -/
def magnitude (numeral : Numeral) : List Char :=
  numeral.whole ++ (pointed numeral.places ++ scale numeral.exponent)

def spelled (numeral : Numeral) : List Char :=
  if numeral.negative then '-' :: numeral.magnitude else numeral.magnitude

end Numeral

/-- Whether no character at the start of a text continues the number before. -/
def Separated : List Char → Prop
  | [] => True
  | char :: _ =>
      char.isDigit = false ∧ char ≠ '.' ∧ char ≠ 'e' ∧ char ≠ 'E'

/-- Whether a text starts with none of the characters. -/
def StartsWithout (chars : List Char) : List Char → Prop
  | [] => True
  | char :: _ => char ∉ chars

/-- Whether a number with the given parts ends before a text: the text has no
more digits, and no part that the number could still have. -/
structure EndsBefore (places : List Char) (exponent : Option Exponent)
    (rest : List Char) : Prop where
  noDigit : startsWithDigit rest = false
  noExponent : exponent = none → StartsWithout ['e', 'E'] rest
  noPoint : places = [] → exponent = none → StartsWithout ['.'] rest

theorem Separated.startsWithDigit {rest : List Char}
    (separated : Separated rest) : startsWithDigit rest = false := by
  cases rest with
  | nil => rfl
  | cons char rest => exact separated.1

theorem Separated.endsBefore {rest : List Char} (separated : Separated rest)
    (places : List Char) (exponent : Option Exponent) :
    EndsBefore places exponent rest := by
  refine ⟨separated.startsWithDigit, fun _ => ?_, fun _ _ => ?_⟩
  · cases rest with
    | nil => trivial
    | cons char rest => simp [StartsWithout, separated.2.2]
  · cases rest with
    | nil => trivial
    | cons char rest => simp [StartsWithout, separated.2.1]

/-! ## What numbers denote -/

/-- A significand with places behind the point. Those that no longer fit are
dropped. -/
def Significand.extend (number : Significand) (places : List Char) :
    Significand :=
  let grown := growNumeral UInt64.size number.digits 0 places
  ⟨number.negative, grown.1, number.exponent - grown.2.1⟩

/-- What a significand with an exponent denotes. -/
def Significand.raise? (number : Significand) (negative : Bool)
    (digits : List Char) : Option Number :=
  let grown := growNumeral exponentLimit 0 0 digits
  if grown.2.2 = [] then
    let shift : Int := if negative then -grown.1 else grown.1
    (Significand.toDouble?
      ⟨number.negative, number.digits, number.exponent + shift⟩).map .double
  else if number.digits = 0 ∨ negative then
    some (.double (.zero number.negative))
  else none

def Significand.value? (number : Significand) :
    Option Exponent → Option Number
  | none => number.toDouble?.map .double
  | some exponent =>
      number.raise? (exponentSign exponent.signed).1 exponent.digits

/-- The digits of a whole part that fit in 64 bits, and how many there are
more. -/
def wholeSignificand (negative : Bool) (whole : List Char) : Significand :=
  let grown := growNumeral UInt64.size 0 0 whole
  ⟨negative, grown.1, grown.2.2.length⟩

/-- What a number denotes; nothing if it is out of range. -/
def Numeral.value? (numeral : Numeral) : Option Number :=
  let number := wholeSignificand numeral.negative numeral.whole
  if number.exponent = 0 ∧ numeral.places = [] ∧ numeral.exponent = none then
    some (wholeNumber numeral.negative number.digits)
  else (number.extend numeral.places).value? numeral.exponent

private theorem Significand.extend_nil (number : Significand) :
    number.extend [] = number := by
  cases number
  simp [Significand.extend, growNumeral]

/-! ## Runs of digits -/

theorem startsWithDigit_append {digits : List Char} (areDigits : Digits digits)
    {rest : List Char} (ended : startsWithDigit rest = false) :
    startsWithDigit (digits ++ rest) = !digits.isEmpty := by
  cases digits with
  | nil => exact ended
  | cons digit digits => exact areDigits digit List.mem_cons_self

theorem dropDigits_append {digits : List Char} (areDigits : Digits digits)
    {rest : List Char} (ended : startsWithDigit rest = false) :
    (digits ++ rest).dropWhile Char.isDigit = rest ∧
      (digits ++ rest).takeWhile Char.isDigit = digits := by
  rw [List.dropWhile_append_of_pos areDigits,
    List.takeWhile_append_of_pos areDigits]
  cases rest with
  | nil => exact ⟨rfl, List.append_nil digits⟩
  | cons char rest =>
      have notDigit : ¬ char.isDigit = true := by
        rw [show char.isDigit = false from ended]
        decide
      rw [List.dropWhile_cons_of_neg notDigit,
        List.takeWhile_cons_of_neg notDigit, List.append_nil]
      exact ⟨rfl, rfl⟩

/-- A text is a run of digits and a rest that starts with none. -/
theorem split_digits (text : List Char) :
    ∃ digits rest, text = digits ++ rest ∧ Digits digits ∧
      startsWithDigit rest = false := by
  refine ⟨text.takeWhile Char.isDigit, text.dropWhile Char.isDigit,
    List.takeWhile_append_dropWhile.symm,
    List.all_eq_true.mp List.all_takeWhile, ?_⟩
  cases dropped : text.dropWhile Char.isDigit with
  | nil => rfl
  | cons char rest =>
      have nonempty : text.dropWhile Char.isDigit ≠ [] := by
        rw [dropped]
        exact List.cons_ne_nil char rest
      have notDigit := List.head_dropWhile_not Char.isDigit nonempty
      simp only [dropped, List.head_cons] at notDigit
      exact notDigit

/-- A numeral grows by the digits of a run only. -/
theorem growNumeral_append (limit numeral count : Nat) (digits : List Char)
    {rest : List Char} (ended : startsWithDigit rest = false) :
    growNumeral limit numeral count (digits ++ rest) =
      ((growNumeral limit numeral count digits).1,
        (growNumeral limit numeral count digits).2.1,
        (growNumeral limit numeral count digits).2.2 ++ rest) := by
  induction digits generalizing numeral count with
  | nil =>
      cases rest with
      | nil => rfl
      | cons char rest =>
          have notDigit : ¬ char.isDigit = true := by
            rw [show char.isDigit = false from ended]
            decide
          simp only [List.nil_append, growNumeral]
          rw [if_neg fun both => notDigit both.1]
  | cons digit digits inductionHypothesis =>
      rw [List.cons_append, growNumeral, growNumeral]
      split
      · exact inductionHypothesis _ _
      · rfl

private theorem growNumeral_suffix (limit numeral count : Nat)
    (digits : List Char) :
    (growNumeral limit numeral count digits).2.2 <:+ digits := by
  induction digits generalizing numeral count with
  | nil => exact List.suffix_refl []
  | cons digit digits inductionHypothesis =>
      rw [growNumeral]
      split
      · exact (inductionHypothesis _ _).trans (List.suffix_cons digit digits)
      · exact List.suffix_refl _

/-- A numeral takes digits or leaves them. -/
theorem growNumeral_count (limit numeral count : Nat) (digits : List Char) :
    (growNumeral limit numeral count digits).2.1 +
        (growNumeral limit numeral count digits).2.2.length =
      count + digits.length := by
  induction digits generalizing numeral count with
  | nil => rfl
  | cons digit digits inductionHypothesis =>
      rw [growNumeral]
      split
      · rw [inductionHypothesis, List.length_cons]
        omega
      · rfl

/-- The digits that a numeral has no room for. -/
theorem growNumeral_digits (limit numeral count : Nat) {digits : List Char}
    (areDigits : Digits digits) :
    Digits (growNumeral limit numeral count digits).2.2 :=
  fun char member => areDigits char
    ((growNumeral_suffix limit numeral count digits).subset member)

/-! ## Reading the parts of a number -/

theorem endNumber_eq_ok_iff {number : Significand} {rest after : List Char}
    {value : Number} :
    endNumber number rest = .ok (value, after) ↔
      number.toDouble?.map .double = some value ∧ after = rest := by
  unfold endNumber
  cases number.toDouble? with
  | none =>
      constructor
      · intro failed
        cases failed
      · rintro ⟨nothing, _⟩
        cases nothing
  | some double =>
      constructor
      · intro same
        obtain ⟨rfl, rfl⟩ := Prod.mk.inj (Except.ok.inj same)
        exact ⟨rfl, rfl⟩
      · rintro ⟨same, rfl⟩
        rw [← Option.some.inj same]

theorem exponentSign_digit {digit : Char} (isDigit : digit.isDigit = true)
    (more : List Char) : exponentSign (digit :: more) = (false, digit :: more) := by
  unfold exponentSign
  split
  · rename_i same
    rw [(List.cons.inj same).1] at isDigit
    cases isDigit
  · rename_i same
    rw [(List.cons.inj same).1] at isDigit
    cases isDigit
  · rfl

/-- The sign of an exponent is read as far as it goes. -/
theorem exponentSign_signed (exponent : Exponent) (rest : List Char) :
    exponentSign (exponent.signed ++ rest) =
      ((exponentSign exponent.signed).1, exponent.digits ++ rest) := by
  obtain ⟨marker, sign, digits, isMarker, isSign, areDigits, notEmpty⟩ :=
    exponent
  cases digits with
  | nil => exact absurd rfl notEmpty
  | cons digit digits =>
      have isDigit : digit.isDigit = true := areDigits digit List.mem_cons_self
      rcases isSign with rfl | rfl | rfl
      · simp only [Exponent.signed, List.nil_append, List.cons_append,
          exponentSign_digit isDigit]
      · rfl
      · rfl

private theorem readExponent_signed {number : Significand} (exponent : Exponent)
    {rest after : List Char} {value : Number}
    (ended : startsWithDigit rest = false) :
    readExponent number (exponent.signed ++ rest) = .ok (value, after) ↔
      number.value? (some exponent) = some value ∧ after = rest := by
  have surplus := growNumeral_digits exponentLimit 0 0 exponent.areDigits
  have grown := growNumeral_append exponentLimit 0 0 exponent.digits ended
  have isDigit : ∀ digit ∈ exponent.digits, digit.isDigit = true :=
    exponent.areDigits
  unfold readExponent
  rw [exponentSign_signed]
  rw [Significand.value?, Significand.raise?]
  cases shape : exponent.digits with
  | nil => exact absurd shape exponent.notEmpty
  | cons digit digits =>
      rw [shape] at grown surplus isDigit
      rw [List.cons_append] at grown ⊢
      dsimp only
      rw [if_pos (isDigit digit List.mem_cons_self), grown]
      dsimp only
      rw [startsWithDigit_append surplus ended]
      cases left : (growNumeral exponentLimit 0 0 (digit :: digits)).2.2 with
      | nil =>
          rw [if_pos rfl, List.isEmpty_nil, Bool.not_true,
            if_neg Bool.false_ne_true, List.nil_append]
          exact endNumber_eq_ok_iff
      | cons extra more =>
          rw [if_neg (List.cons_ne_nil extra more), List.isEmpty_cons,
            Bool.not_false, if_pos rfl]
          rw [left] at surplus
          rw [(dropDigits_append surplus ended).1]
          split
          · constructor
            · intro same
              obtain ⟨rfl, rfl⟩ := Prod.mk.inj (Except.ok.inj same)
              exact ⟨rfl, rfl⟩
            · rintro ⟨same, rfl⟩
              rw [← Option.some.inj same]
          · constructor
            · intro failed
              cases failed
            · rintro ⟨nothing, _⟩
              cases nothing

theorem readOptionalExponent_scale {number : Significand}
    (exponent : Option Exponent) {rest after : List Char} {value : Number}
    (ended : startsWithDigit rest = false)
    (noExponent : exponent = none → StartsWithout ['e', 'E'] rest) :
    readOptionalExponent number (Numeral.scale exponent ++ rest) =
        .ok (value, after) ↔
      number.value? exponent = some value ∧ after = rest := by
  cases exponent with
  | some exponent =>
      rw [Numeral.scale, List.cons_append, readOptionalExponent,
        if_pos exponent.isMarker]
      exact readExponent_signed exponent ended
  | none =>
      have without := noExponent rfl
      rw [Numeral.scale, List.nil_append, Significand.value?]
      cases rest with
      | nil => exact endNumber_eq_ok_iff
      | cons char rest =>
          have notMarker : ¬ (char = 'e' ∨ char = 'E') := by
            simpa [StartsWithout] using without
          rw [readOptionalExponent, if_neg notMarker]
          exact endNumber_eq_ok_iff

/-- Whether no digit starts what stands behind the digits of a number. -/
theorem scale_ended (exponent : Option Exponent) {rest : List Char}
    (ended : startsWithDigit rest = false) :
    startsWithDigit (Numeral.scale exponent ++ rest) = false := by
  cases exponent with
  | none => exact ended
  | some exponent =>
      show exponent.marker.isDigit = false
      rcases exponent.isMarker with isMarker | isMarker <;> rw [isMarker] <;> rfl

private theorem readFraction_places {number : Significand} {places : List Char}
    (arePlaces : Digits places) (notEmpty : places ≠ [])
    (exponent : Option Exponent) {rest after : List Char} {value : Number}
    (ended : startsWithDigit rest = false)
    (noExponent : exponent = none → StartsWithout ['e', 'E'] rest) :
    readFraction number (places ++ (Numeral.scale exponent ++ rest)) =
        .ok (value, after) ↔
      (number.extend places).value? exponent = some value ∧ after = rest := by
  have behind := scale_ended exponent ended
  have surplus :=
    growNumeral_digits UInt64.size number.digits 0 arePlaces
  unfold readFraction
  rw [growNumeral_append _ _ _ _ behind]
  dsimp only
  rw [startsWithDigit_append surplus behind, Significand.extend]
  cases left : (growNumeral UInt64.size number.digits 0 places).2.2 with
  | nil =>
      have counted :
          ¬ (growNumeral UInt64.size number.digits 0 places).2.1 = 0 := by
        have all := growNumeral_count UInt64.size number.digits 0 places
        have some := List.length_pos_iff.mpr notEmpty
        rw [left, List.length_nil] at all
        omega
      rw [List.isEmpty_nil, Bool.not_true, if_neg Bool.false_ne_true,
        if_neg counted, List.nil_append]
      exact readOptionalExponent_scale exponent ended noExponent
  | cons extra more =>
      rw [left] at surplus
      rw [List.isEmpty_cons, Bool.not_false, if_pos rfl,
        (dropDigits_append surplus behind).1]
      exact readOptionalExponent_scale exponent ended noExponent

theorem readAfterWhole_pointed {number : Significand} {places : List Char}
    (arePlaces : Digits places) {exponent : Option Exponent}
    {rest after : List Char} {value : Number}
    (ends : EndsBefore places exponent rest) :
    readAfterWhole number
          (Numeral.pointed places ++ (Numeral.scale exponent ++ rest)) =
        .ok (value, after) ↔
      (number.extend places).value? exponent = some value ∧ after = rest := by
  cases places with
  | cons place places =>
      exact readFraction_places arePlaces (List.cons_ne_nil place places)
        exponent ends.noDigit ends.noExponent
  | nil =>
      rw [number.extend_nil, Numeral.pointed, List.nil_append]
      have noPoint : StartsWithout ['.'] (Numeral.scale exponent ++ rest) := by
        cases exponent with
        | none => exact ends.noPoint rfl rfl
        | some exponent =>
            show exponent.marker ∉ ['.']
            rcases exponent.isMarker with isMarker | isMarker <;>
              rw [isMarker] <;> decide
      unfold readAfterWhole
      split
      · rename_i behind
        rw [behind] at noPoint
        exact absurd List.mem_cons_self noPoint
      · exact readOptionalExponent_scale exponent ends.noDigit ends.noExponent

/-- Behind a whole part that fits, a number is whole or has other parts. -/
theorem readBehindWhole_pointed {number : Significand} {places : List Char}
    (arePlaces : Digits places) {exponent : Option Exponent}
    {rest after : List Char} {value : Number}
    (ends : EndsBefore places exponent rest) :
    readBehindWhole number
          (Numeral.pointed places ++ (Numeral.scale exponent ++ rest)) =
        .ok (value, after) ↔
      (if places = [] ∧ exponent = none then
          some (wholeNumber number.negative number.digits)
        else (number.extend places).value? exponent) = some value ∧
        after = rest := by
  by_cases isWhole : places = [] ∧ exponent = none
  · obtain ⟨rfl, rfl⟩ := isWhole
    have noExponent := ends.noExponent rfl
    have noPoint := ends.noPoint rfl rfl
    have ended : readBehindWhole number rest =
        .ok (wholeNumber number.negative number.digits, rest) := by
      cases rest with
      | nil => rfl
      | cons char rest =>
          have unmarked : ¬ (char = '.' ∨ char = 'e' ∨ char = 'E') := by
            simp only [StartsWithout, List.mem_cons, List.not_mem_nil,
              or_false] at noExponent noPoint
            exact fun marked => marked.elim noPoint noExponent
          rw [readBehindWhole, if_neg unmarked]
    rw [if_pos ⟨rfl, rfl⟩, Numeral.pointed, Numeral.scale, List.nil_append,
      List.nil_append, ended, Except.ok.injEq, Prod.mk.injEq, Option.some_inj]
    exact and_congr_right fun _ => eq_comm
  · rw [if_neg isWhole]
    have marked : readBehindWhole number
          (Numeral.pointed places ++ (Numeral.scale exponent ++ rest)) =
        readAfterWhole number
          (Numeral.pointed places ++ (Numeral.scale exponent ++ rest)) := by
      cases places with
      | cons place places =>
          rw [Numeral.pointed, List.cons_append, readBehindWhole,
            if_pos (Or.inl rfl)]
      | nil =>
          cases exponent with
          | none => exact absurd ⟨rfl, rfl⟩ isWhole
          | some exponent => exact if_pos (Or.inr exponent.isMarker)
    rw [marked]
    exact readAfterWhole_pointed arePlaces ends

/-- A whole part is read up to a text that starts with no digit. -/
theorem readMagnitude_whole (negative : Bool) {whole : List Char}
    (areDigits : Digits whole)
    (noSpareZero : whole = ['0'] ∨
      ∃ first rest, whole = first :: rest ∧ first ≠ '0')
    {tail : List Char} (ended : startsWithDigit tail = false) :
    readMagnitude negative (whole ++ tail) =
      let number := wholeSignificand negative whole
      if number.exponent = 0 then readBehindWhole number tail
      else readAfterWhole number tail := by
  rcases noSpareZero with rfl | ⟨first, more, rfl, notZero⟩
  · have same : wholeSignificand negative ['0'] = ⟨negative, 0, 0⟩ := rfl
    rw [List.singleton_append, readMagnitude, ended,
      if_neg Bool.false_ne_true, same]
    rfl
  · have surplus := growNumeral_digits UInt64.size 0 0 areDigits
    have grown := growNumeral_append UInt64.size 0 0 (first :: more) ended
    have isDigit := areDigits first List.mem_cons_self
    rw [List.cons_append] at grown ⊢
    rw [readMagnitude, if_pos isDigit, grown, wholeSignificand]
    · dsimp only
      rw [startsWithDigit_append surplus ended]
      cases left : (growNumeral UInt64.size 0 0 (first :: more)).2.2 with
      | nil => rfl
      | cons extra others =>
          rw [left] at surplus
          obtain ⟨dropped, taken⟩ := dropDigits_append surplus ended
          have counted : ¬ ((extra :: others).length : Int) = 0 := by
            rw [List.length_cons]
            omega
          rw [if_neg counted, dropped, taken]
          rfl
    · exact notZero

/-! ## Reading numbers -/

/-- Behind a whole part stand its places and its exponent. -/
theorem pointed_ended {places : List Char} {exponent : Option Exponent}
    {rest : List Char} (ended : startsWithDigit rest = false) :
    startsWithDigit
      (Numeral.pointed places ++ (Numeral.scale exponent ++ rest)) = false := by
  cases places with
  | nil => exact scale_ended exponent ended
  | cons place places => rfl

private theorem readMagnitude_magnitude (numeral : Numeral)
    {rest after : List Char}
    {value : Number} (ends : EndsBefore numeral.places numeral.exponent rest) :
    readMagnitude numeral.negative (numeral.magnitude ++ rest) =
        .ok (value, after) ↔
      numeral.value? = some value ∧ after = rest := by
  rw [Numeral.magnitude, List.append_assoc, List.append_assoc,
    readMagnitude_whole numeral.negative numeral.areDigits numeral.noSpareZero
      (pointed_ended ends.noDigit), Numeral.value?]
  dsimp only
  by_cases fits : (wholeSignificand numeral.negative numeral.whole).exponent = 0
  · rw [if_pos fits]
    simp only [fits, true_and]
    exact readBehindWhole_pointed numeral.arePlaces ends
  · rw [if_neg fits, if_neg fun all => fits all.1]
    exact readAfterWhole_pointed numeral.arePlaces ends

theorem Numeral.magnitude_head (numeral : Numeral) :
    ∃ first more, numeral.magnitude = first :: more ∧ first.isDigit = true := by
  have areDigits := numeral.areDigits
  rw [magnitude]
  rcases numeral.noSpareZero with isZero | ⟨first, more, split, _⟩
  · rw [isZero]
    exact ⟨'0', _, rfl, rfl⟩
  · rw [split] at areDigits ⊢
    exact ⟨first, _, rfl, areDigits first List.mem_cons_self⟩

theorem Numeral.spelled_head (numeral : Numeral) :
    ∃ first more, numeral.spelled = first :: more ∧
      (first.isDigit = true ∨ first = '-') := by
  obtain ⟨first, more, magnitude, isDigit⟩ := numeral.magnitude_head
  unfold spelled
  split
  · exact ⟨'-', _, rfl, .inr rfl⟩
  · exact ⟨first, more, magnitude, .inl isDigit⟩

/-- A number is spelled with digits, a point and the marks of signs and
exponents. -/
theorem Numeral.chars (numeral : Numeral) : ∀ char ∈ numeral.spelled,
    char.isDigit = true ∨ char ∈ ['-', '+', '.', 'e', 'E'] := by
  have magnitude : ∀ char ∈ numeral.magnitude,
      char.isDigit = true ∨ char ∈ ['-', '+', '.', 'e', 'E'] := by
    intro char member
    rw [magnitude, List.mem_append, List.mem_append] at member
    rcases member with inWhole | inPlaces | inScale
    · exact .inl (numeral.areDigits char inWhole)
    · cases isPlaces : numeral.places with
      | nil =>
          rw [isPlaces] at inPlaces
          cases inPlaces
      | cons place places =>
          rw [isPlaces] at inPlaces
          rcases List.mem_cons.mp inPlaces with rfl | isPlace
          · exact .inr (by decide)
          · exact .inl (numeral.arePlaces char (isPlaces ▸ isPlace))
    · cases isExponent : numeral.exponent with
      | none =>
          rw [isExponent] at inScale
          cases inScale
      | some exponent =>
          rw [isExponent, scale, Exponent.signed, List.mem_cons,
            List.mem_append] at inScale
          rcases inScale with rfl | inSign | inDigits
          · right
            rcases exponent.isMarker with isMarker | isMarker <;>
              rw [isMarker] <;> decide
          · right
            rcases exponent.isSign with isSign | isSign | isSign <;>
              rw [isSign] at inSign
            · cases inSign
            · rw [List.mem_singleton.mp inSign]
              decide
            · rw [List.mem_singleton.mp inSign]
              decide
          · exact .inl (exponent.areDigits char inDigits)
  intro char member
  unfold spelled at member
  split at member
  · rcases List.mem_cons.mp member with rfl | isMagnitude
    · exact .inr (by decide)
    · exact magnitude char isMagnitude
  · exact magnitude char member

/-- A text that starts with a digit has no sign. -/
theorem readNumber_digit {first : Char} (isDigit : first.isDigit = true)
    (more : List Char) :
    readNumber (first :: more) = readMagnitude false (first :: more) := by
  unfold readNumber
  split
  · rename_i same
    rw [(List.cons.inj same).1] at isDigit
    cases isDigit
  · rfl

/-- A number is read up to a text that does not continue it. -/
theorem readNumber_spelled (numeral : Numeral) {rest after : List Char}
    {value : Number} (ends : EndsBefore numeral.places numeral.exponent rest) :
    readNumber (numeral.spelled ++ rest) = .ok (value, after) ↔
      numeral.value? = some value ∧ after = rest := by
  have magnitude : readMagnitude numeral.negative (numeral.magnitude ++ rest) =
      .ok (value, after) ↔ numeral.value? = some value ∧ after = rest :=
    readMagnitude_magnitude numeral ends
  unfold Numeral.spelled
  split
  · rename_i negative
    rw [negative] at magnitude
    exact magnitude
  · rename_i positive
    rw [Bool.not_eq_true] at positive
    obtain ⟨first, more, split, isDigit⟩ := numeral.magnitude_head
    rw [positive, split] at magnitude
    rw [split, List.cons_append, readNumber_digit isDigit]
    exact magnitude

/-! ## Numbers in a text -/

private theorem exponentSign_split (text : List Char) :
    ∃ sign, (sign = [] ∨ sign = ['+'] ∨ sign = ['-']) ∧
      text = sign ++ (exponentSign text).2 := by
  unfold exponentSign
  split
  · exact ⟨['+'], .inr (.inl rfl), rfl⟩
  · exact ⟨['-'], .inr (.inr rfl), rfl⟩
  · exact ⟨[], .inl rfl, rfl⟩

/-- Where an exponent is read there is one. -/
theorem exponent_of_read {number : Significand} {value : Number} {marker : Char}
    (isMarker : marker = 'e' ∨ marker = 'E') {text after : List Char}
    (read : readExponent number text = .ok (value, after)) :
    ∃ (exponent : Exponent) (rest : List Char), exponent.marker = marker ∧
      text = exponent.signed ++ rest ∧ startsWithDigit rest = false := by
  obtain ⟨sign, isSign, split⟩ := exponentSign_split text
  obtain ⟨digits, rest, splitDigits, areDigits, ended⟩ :=
    split_digits (exponentSign text).2
  rw [splitDigits] at split
  have notEmpty : digits ≠ [] := by
    rintro rfl
    unfold readExponent at read
    cases parts : exponentSign text with
    | mk negative tail =>
        rw [parts] at read splitDigits
        simp only [List.nil_append] at read splitDigits
        subst splitDigits
        cases tail with
        | nil => cases read
        | cons char tail =>
            dsimp only at read
            rw [show char.isDigit = false from ended] at read
            cases read
  refine ⟨⟨marker, sign, digits, isMarker, isSign, areDigits, notEmpty⟩, rest,
    rfl, ?_, ended⟩
  rw [Exponent.signed, List.append_assoc]
  exact split

theorem scale_of_read {number : Significand} {value : Number}
    {text after : List Char} (ended : startsWithDigit text = false)
    (read : readOptionalExponent number text = .ok (value, after)) :
    ∃ exponent rest, text = Numeral.scale exponent ++ rest ∧
      startsWithDigit rest = false ∧
      (exponent = none → StartsWithout ['e', 'E'] rest) := by
  cases text with
  | nil => exact ⟨none, [], rfl, rfl, fun _ => trivial⟩
  | cons char rest =>
      rw [readOptionalExponent] at read
      split at read
      · rename_i isMarker
        obtain ⟨exponent, rest, rfl, rfl, restEnded⟩ :=
          exponent_of_read isMarker read
        refine ⟨some exponent, rest, rfl, restEnded, fun absent => ?_⟩
        cases absent
      · rename_i notMarker
        refine ⟨none, char :: rest, rfl, ended, fun _ => ?_⟩
        simpa [StartsWithout] using notMarker

private theorem places_of_read {number : Significand} {value : Number}
    {text after : List Char}
    (read : readFraction number text = .ok (value, after)) :
    ∃ places exponent rest, places ≠ [] ∧ Digits places ∧
      text = places ++ (Numeral.scale exponent ++ rest) ∧
      startsWithDigit rest = false ∧
      (exponent = none → StartsWithout ['e', 'E'] rest) := by
  obtain ⟨places, tail, rfl, arePlaces, ended⟩ := split_digits text
  have surplus := growNumeral_digits UInt64.size number.digits 0 arePlaces
  unfold readFraction at read
  rw [growNumeral_append _ _ _ _ ended] at read
  dsimp only at read
  rw [startsWithDigit_append surplus ended] at read
  have notEmpty : places ≠ [] := by
    rintro rfl
    simp only [growNumeral, List.isEmpty_nil, Bool.not_true,
      Bool.false_eq_true, if_false, if_true, List.nil_append] at read
    split at read <;> cases read
  have tailRead : ∃ longer, readOptionalExponent longer tail =
      .ok (value, after) := by
    cases left : (growNumeral UInt64.size number.digits 0 places).2.2 with
    | nil =>
        rw [left, List.isEmpty_nil, Bool.not_true, if_neg Bool.false_ne_true,
          List.nil_append] at read
        split at read
        · split at read <;> cases read
        · exact ⟨_, read⟩
    | cons extra more =>
        rw [left] at surplus read
        rw [List.isEmpty_cons, Bool.not_false, if_pos rfl,
          (dropDigits_append surplus ended).1] at read
        exact ⟨_, read⟩
  obtain ⟨longer, tailRead⟩ := tailRead
  obtain ⟨exponent, rest, rfl, ended, noExponent⟩ :=
    scale_of_read ended tailRead
  exact ⟨places, exponent, rest, notEmpty, arePlaces, rfl, ended, noExponent⟩

/-- Where the parts behind a whole part are read they are there. -/
theorem parts_of_read {number : Significand} {value : Number}
    {text after : List Char} (ended : startsWithDigit text = false)
    (read : readAfterWhole number text = .ok (value, after)) :
    ∃ places exponent rest, Digits places ∧
      text = Numeral.pointed places ++ (Numeral.scale exponent ++ rest) ∧
      EndsBefore places exponent rest := by
  unfold readAfterWhole at read
  split at read
  · rename_i behind
    obtain ⟨places, exponent, rest, notEmpty, arePlaces, rfl, ended,
      noExponent⟩ := places_of_read read
    refine ⟨places, exponent, rest, arePlaces, ?_, ended, noExponent,
      fun empty => absurd empty notEmpty⟩
    cases places with
    | nil => exact absurd rfl notEmpty
    | cons place places => rfl
  · rename_i notPointed
    obtain ⟨exponent, rest, rfl, restEnded, noExponent⟩ :=
      scale_of_read ended read
    refine ⟨[], exponent, rest, fun _ absent => absurd absent List.not_mem_nil,
      rfl, restEnded, noExponent, fun _ isNone => ?_⟩
    cases rest with
    | nil => trivial
    | cons char rest =>
        rw [isNone] at notPointed
        have notPoint : char ≠ '.' := by
          rintro rfl
          exact notPointed rest rfl
        simpa [StartsWithout] using notPoint

private theorem parts_of_readBehindWhole {number : Significand} {value : Number}
    {text after : List Char} (ended : startsWithDigit text = false)
    (read : readBehindWhole number text = .ok (value, after)) :
    ∃ places exponent rest, Digits places ∧
      text = Numeral.pointed places ++ (Numeral.scale exponent ++ rest) ∧
      EndsBefore places exponent rest := by
  have noPlaces : Digits [] := fun _ absent => absurd absent List.not_mem_nil
  cases text with
  | nil =>
      exact ⟨[], none, [], noPlaces, rfl, rfl, fun _ => trivial,
        fun _ _ => trivial⟩
  | cons char rest =>
      rw [readBehindWhole] at read
      split at read
      · exact parts_of_read ended read
      · rename_i unmarked
        obtain ⟨notPoint, notMarker⟩ := not_or.mp unmarked
        refine ⟨[], none, char :: rest, noPlaces, rfl, ended, fun _ => ?_,
          fun _ _ => ?_⟩
        · simpa [StartsWithout] using notMarker
        · simpa [StartsWithout] using notPoint

/-- Where a magnitude is read there is a number without its sign. -/
theorem magnitude_of_read {negative : Bool} {value : Number}
    {text after : List Char}
    (read : readMagnitude negative text = .ok (value, after)) :
    ∃ (numeral : Numeral) (rest : List Char), numeral.negative = negative ∧
      text = numeral.magnitude ++ rest ∧
      EndsBefore numeral.places numeral.exponent rest := by
  obtain ⟨whole, tail, rfl, areDigits, ended⟩ := split_digits text
  have noSpareZero : whole = ['0'] ∨
      ∃ first rest, whole = first :: rest ∧ first ≠ '0' := by
    cases whole with
    | nil =>
        exfalso
        cases tail with
        | nil => cases read
        | cons char tail =>
            have notZero : char ≠ '0' := by
              rintro rfl
              cases ended
            rw [List.nil_append, readMagnitude,
              show char.isDigit = false from ended] at read
            · cases read
            · exact notZero
    | cons first more =>
        by_cases isZero : first = '0'
        · subst isZero
          cases more with
          | nil => exact .inl rfl
          | cons second more =>
              exfalso
              have isDigit : startsWithDigit (second :: more ++ tail) = true :=
                areDigits second
                  (List.mem_cons_of_mem _ List.mem_cons_self)
              rw [List.cons_append, readMagnitude, if_pos isDigit] at read
              cases read
        · exact .inr ⟨first, more, rfl, isZero⟩
  have parts : ∃ places exponent rest, Digits places ∧
      tail = Numeral.pointed places ++ (Numeral.scale exponent ++ rest) ∧
      EndsBefore places exponent rest := by
    rw [readMagnitude_whole negative areDigits noSpareZero ended] at read
    dsimp only at read
    split at read
    · exact parts_of_readBehindWhole ended read
    · exact parts_of_read ended read
  obtain ⟨places, exponent, rest, arePlaces, rfl, ends⟩ := parts
  refine ⟨⟨negative, whole, places, exponent, areDigits, arePlaces,
    noSpareZero⟩, rest, rfl, ?_, ends⟩
  rw [Numeral.magnitude, List.append_assoc, List.append_assoc]

/-- What is read as a number is what the grammar allows, as far as it goes. -/
theorem readNumber_eq_ok_iff {text rest : List Char} {value : Number} :
    readNumber text = .ok (value, rest) ↔
      ∃ numeral : Numeral, text = numeral.spelled ++ rest ∧
        EndsBefore numeral.places numeral.exponent rest ∧
        numeral.value? = some value := by
  constructor
  · intro read
    have spelled : ∃ (numeral : Numeral) (after : List Char),
        text = numeral.spelled ++ after ∧
          EndsBefore numeral.places numeral.exponent after := by
      unfold readNumber at read
      split at read
      · obtain ⟨numeral, after, negative, rfl, ends⟩ := magnitude_of_read read
        refine ⟨numeral, after, ?_, ends⟩
        rw [Numeral.spelled, negative, if_pos rfl, List.cons_append]
      · obtain ⟨numeral, after, negative, rfl, ends⟩ := magnitude_of_read read
        refine ⟨numeral, after, ?_, ends⟩
        rw [Numeral.spelled, negative, if_neg Bool.false_ne_true]
    obtain ⟨numeral, after, rfl, ends⟩ := spelled
    obtain ⟨isValue, rfl⟩ := (readNumber_spelled numeral ends).mp read
    exact ⟨numeral, rfl, ends, isValue⟩
  · rintro ⟨numeral, rfl, ends, isValue⟩
    exact (readNumber_spelled numeral ends).mpr ⟨isValue, rfl⟩

end Parley.Json
