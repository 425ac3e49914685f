import Parley.Json.Writer

/-!
Contract: the text of a JSON value stands on one line.

Strings escape the characters below U+0020, and no token, separator or number
has one. So the text of a value has no line end, whatever texts the value holds.

Owns: `Printed`, and that written values are printed.
-/

namespace Parley.Json

open Parley.Numeric (Binary Decimal Format Layout)

/-- Whether a text has no control character below U+0020. -/
def Printed (text : List Char) : Prop :=
  ∀ char ∈ text, 0x20 ≤ char.toNat

instance (text : List Char) : Decidable (Printed text) :=
  List.decidableBAll (fun char : Char => 0x20 ≤ char.toNat) text

namespace Printed

variable {text first second : List Char} {char : Char}

theorem cons (isPrinted : 0x20 ≤ char.toNat) (rest : Printed text) :
    Printed (char :: text) := by
  intro other member
  rcases List.mem_cons.mp member with rfl | later
  · exact isPrinted
  · exact rest other later

theorem append (front : Printed first) (back : Printed second) :
    Printed (first ++ second) := by
  intro char member
  rcases List.mem_append.mp member with inFront | inBack
  · exact front char inFront
  · exact back char inBack

theorem subset (whole : Printed text) (part : ∀ char ∈ first, char ∈ text) :
    Printed first :=
  fun char member => whole char (part char member)

theorem flatMap {write : Char → List Char}
    (each : ∀ char, Printed (write char)) (text : List Char) :
    Printed (text.flatMap write) := by
  intro char member
  obtain ⟨source, _, written⟩ := List.mem_flatMap.mp member
  exact each source char written

/-- Printed text has no line end. -/
theorem ne_lineEnd (printed : Printed text) (member : char ∈ text) :
    char ≠ '\n' ∧ char ≠ '\r' := by
  have bound := printed char member
  constructor
  · rintro rfl
    exact absurd bound (by decide)
  · rintro rfl
    exact absurd bound (by decide)

end Printed

/-! ## Numbers -/

theorem toDigits_printed (value : Nat) : Printed (Nat.toDigits 10 value) := by
  intro char member
  have digit := Nat.isDigit_of_mem_toDigits (by decide) (by decide) member
  exact Nat.le_trans (by decide) (Char.isDigit_iff_toNat.mp digit).1

theorem zeros_printed (count : Nat) : Printed (List.replicate count '0') := by
  intro char member
  rw [List.eq_of_mem_replicate member]
  decide

private theorem positional_printed (decimal : Decimal) :
    Printed decimal.positional := by
  have digits : Printed decimal.digits := toDigits_printed _
  unfold Decimal.positional
  dsimp only
  split
  · exact (digits.append (zeros_printed _)).append (by decide)
  split
  · exact (digits.subset fun _ => List.mem_of_mem_take).append
      (.cons (by decide) (digits.subset fun _ => List.mem_of_mem_drop))
  · exact .cons (by decide) (.cons (by decide) ((zeros_printed _).append digits))

private theorem scientific_printed (plusSign : Bool) (decimal : Decimal) :
    Printed (decimal.scientific plusSign) := by
  have digits : Printed decimal.digits := toDigits_printed _
  unfold Decimal.scientific
  dsimp only
  refine .append ?_ (.cons (by decide) (.append ?_ (toDigits_printed _)))
  · split
    · decide
    · rename_i only
      exact only ▸ digits
    · rename_i digit more _ several
      rw [several] at digits
      exact .cons (digits digit List.mem_cons_self)
        (.cons (by decide) (digits.subset fun _ => List.mem_cons_of_mem _))
  · split
    · decide
    split <;> decide

theorem binary_printed {format : Format} {layout : Layout}
    (nan : Printed layout.nan.toList) (infinity : Printed layout.infinity.toList)
    (negativeInfinity : Printed layout.negativeInfinity.toList)
    (value : Binary format) : Printed (value.write layout).toList := by
  unfold Binary.write
  split
  · exact nan
  split
  · split
    · exact negativeInfinity
    · exact infinity
  · rename_i negative rank _
    dsimp only
    have magnitude : Printed (if rank.val = 0 then ['0', '.', '0']
        else (format.shortest layout.tie rank.val).write layout) := by
      split
      · decide
      unfold Decimal.write
      split
      · exact positional_printed _
      · exact scientific_printed _ _
    rw [String.toList_ofList]
    split
    · exact .cons (by decide) magnitude
    · exact magnitude

private theorem integer_printed (value : Int) : Printed (toString value).toList
    := by
  cases value with
  | ofNat natural =>
      show Printed (toString natural).toList
      rw [Nat.toString_eq_ofList_toDigits, String.toList_ofList]
      exact toDigits_printed _
  | negSucc natural =>
      show Printed ("-" ++ toString (natural + 1)).toList
      rw [String.toList_append]
      refine .append (by decide) ?_
      rw [Nat.toString_eq_ofList_toDigits, String.toList_ofList]
      exact toDigits_printed _

theorem Number.write_printed (number : Number) : Printed number.write := by
  cases number with
  | integer value => exact integer_printed value
  | single value =>
      exact binary_printed (by decide) (by decide) (by decide) value
  | double value =>
      exact binary_printed (by decide) (by decide) (by decide) value

/-! ## Texts and containers -/

private theorem shortEscape?_printed {char letter : Char}
    (escape : shortEscape? char = some letter) : 0x20 ≤ letter.toNat := by
  have listed : letter ∈ ['"', '\\', 'b', 'f', 'n', 'r', 't'] := by
    unfold shortEscape? at escape
    grind
  exact (show Printed ['"', '\\', 'b', 'f', 'n', 'r', 't'] by decide) letter
    listed

theorem hexDigit_printed {value : Nat} (isDigit : value < 16) :
    0x20 ≤ (hexDigit value).toNat :=
  (show ∀ digit, digit < 16 → 0x20 ≤ (hexDigit digit).toNat by decide) value
    isDigit

private theorem writeChar_printed (char : Char) : Printed (writeChar char) := by
  unfold writeChar
  split
  · rename_i letter escape
    exact .cons (by decide) (.cons (shortEscape?_printed escape) (by decide))
  split
  · refine .append (show Printed ['\\', 'u', '0', '0'] by decide) ?_
    exact .cons (hexDigit_printed (by omega))
      (.cons (hexDigit_printed (by omega)) (by decide))
  · rename_i notControl
    exact .cons (Nat.not_lt.mp notControl) (by decide)

theorem writeText_printed (text : String) : Printed (writeText text) :=
  .cons (by decide)
    ((Printed.flatMap writeChar_printed _).append (by decide))

mutual

/-- The text of a value has no control character. -/
theorem Value.write_printed : (value : Value) → Printed value.write
  | .null => by decide
  | .boolean true => by decide
  | .boolean false => by decide
  | .number value => value.write_printed
  | .text value => writeText_printed value
  | .sequence [] => by decide
  | .sequence (item :: items) =>
      .cons (by decide) (item.write_printed.append (writeItems_printed items))
  | .object [] => by decide
  | .object ((key, value) :: members) =>
      .cons (by decide) ((writeText_printed key).append (.cons (by decide)
        (value.write_printed.append (writeMembers_printed members))))

theorem writeItems_printed : (items : List Value) → Printed (writeItems items)
  | [] => by decide
  | item :: items =>
      .cons (by decide) (item.write_printed.append (writeItems_printed items))

theorem writeMembers_printed :
    (members : List (String × Value)) → Printed (writeMembers members)
  | [] => by decide
  | (key, value) :: members =>
      .cons (by decide) ((writeText_printed key).append (.cons (by decide)
        (value.write_printed.append (writeMembers_printed members))))

end

end Parley.Json
