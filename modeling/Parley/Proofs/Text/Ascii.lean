import Parley.Proofs.Text.Utf8

/-!
Contract: cutting texts at their bytes.

A text has at least as many bytes as characters, and exactly as many if all of its
characters are ASCII. A text may be cut in front of every byte that starts a
character, and at its end. An ASCII text may be cut anywhere, a part of its bytes
encodes the same part of its characters, and marks are found at the same places.

Owns: `IsAscii`, `isBoundary`, `slice?`, and the bytes of ASCII texts.
-/

namespace Parley.Text.Utf8

/-- Whether every character is one byte. -/
def IsAscii (text : List Char) : Prop :=
  ∀ char ∈ text, char.toNat < 0x80

instance (text : List Char) : Decidable (IsAscii text) :=
  List.decidableBAll (fun char : Char => char.toNat < 0x80) text

/-- Whether a text may be cut in front of a byte: at its end, and where no
character goes on. -/
def isBoundary (bytes : Bytes) (index : Nat) : Bool :=
  match bytes[index]? with
  | none => index == bytes.length
  | some byte => byte < 0x80 || 0xC0 ≤ byte

/-- The bytes from one index up to another, if a text may be cut at both. -/
def slice? (bytes : Bytes) (start stop : Nat) : Option Bytes :=
  if start ≤ stop ∧ isBoundary bytes start = true ∧ isBoundary bytes stop = true
  then some ((bytes.take stop).drop start)
  else none

/-! ## The bytes of a character -/

theorem encodeChar_ascii {char : Char} (ascii : char.toNat < 0x80) :
    String.utf8EncodeChar char = [UInt8.ofNat char.toNat] := by
  unfold String.utf8EncodeChar
  exact if_pos (Nat.le_of_lt_succ ascii)

/-- The bytes of characters that are not ASCII are not, either. -/
theorem not_ascii_of_encodeChar {char : Char} (beyond : 0x80 ≤ char.toNat) :
    ∃ byte ∈ String.utf8EncodeChar char, ¬ byte < 0x80 := by
  obtain ⟨lead, tail, encoded, first⟩ := firstPiece_encoded char
  refine ⟨lead, encoded ▸ List.mem_cons_self, fun single => ?_⟩
  have alone := first []
  rw [firstPiece, if_pos single] at alone
  have same : Char.ofNat lead.toNat = char :=
    Piece.char.inj (congrArg Prod.fst alone)
  have small : lead.toNat < 0x80 := UInt8.lt_iff_toNat_lt.mp single
  have number : (Char.ofNat lead.toNat).toNat = lead.toNat :=
    (by decide : ∀ code < 0x80, (Char.ofNat code).toNat = code) _ small
  rw [← same, number] at beyond
  omega

/-! ## The bytes of a text -/

theorem encode_ascii {text : String} (ascii : IsAscii text.toList) :
    encode text = text.toList.map fun char => UInt8.ofNat char.toNat := by
  rw [encode]
  generalize text.toList = chars at ascii ⊢
  induction chars with
  | nil => rfl
  | cons char rest inductionHypothesis =>
      rw [List.flatMap_cons, encodeChar_ascii (ascii char List.mem_cons_self),
        inductionHypothesis fun other member =>
          ascii other (List.mem_cons_of_mem _ member)]
      rfl

theorem length_encode_ascii {text : String} (ascii : IsAscii text.toList) :
    (encode text).length = text.toList.length := by
  rw [encode_ascii ascii, List.length_map]

private theorem ofNat_toNat_inj {char other : Char} (ascii : char.toNat < 0x80)
    (otherAscii : other.toNat < 0x80) :
    UInt8.ofNat char.toNat = UInt8.ofNat other.toNat ↔ char = other := by
  rw [← UInt8.toNat_inj, UInt8.toNat_ofNat', UInt8.toNat_ofNat',
    Nat.mod_eq_of_lt (by omega), Nat.mod_eq_of_lt (by omega), Char.toNat_inj]

/-- A mark stands at the same place among the bytes of an ASCII text as among its
characters. -/
theorem findIdx?_encode_ascii {text : String} (ascii : IsAscii text.toList)
    {mark : Char} (markAscii : mark.toNat < 0x80) :
    (encode text).findIdx? (· == UInt8.ofNat mark.toNat) =
      text.toList.findIdx? (· == mark) := by
  rw [encode_ascii ascii, List.findIdx?_map]
  generalize text.toList = chars at ascii ⊢
  induction chars with
  | nil => rfl
  | cons char rest inductionHypothesis =>
      have isMark : (UInt8.ofNat char.toNat == UInt8.ofNat mark.toNat) =
          (char == mark) := by
        rw [Bool.eq_iff_iff, beq_iff_eq, beq_iff_eq,
          ofNat_toNat_inj (ascii char List.mem_cons_self) markAscii]
      rw [List.findIdx?_cons, List.findIdx?_cons, Function.comp_apply, isMark,
        inductionHypothesis fun other member =>
          ascii other (List.mem_cons_of_mem _ member)]

/-- A text has no more characters than bytes. -/
theorem length_le_encode (text : String) :
    text.toList.length ≤ (encode text).length := by
  rw [encode]
  induction text.toList with
  | nil => exact Nat.zero_le _
  | cons char rest inductionHypothesis =>
      obtain ⟨lead, tail, encoded, _⟩ := firstPiece_encoded char
      rw [List.flatMap_cons, encoded, List.length_append, List.length_cons,
        List.length_cons]
      omega

theorem encode_isEmpty (text : String) :
    (encode text).isEmpty = text.toList.isEmpty := by
  rw [Bool.eq_iff_iff, List.isEmpty_iff, List.isEmpty_iff]
  constructor
  · intro none
    have length := length_le_encode text
    rw [none] at length
    exact List.eq_nil_of_length_eq_zero (Nat.le_zero.mp length)
  · intro none
    rw [encode, none]
    rfl

/-- A text is ASCII exactly if all of its bytes are. -/
theorem isAscii_iff_bytes (text : String) :
    IsAscii text.toList ↔ ∀ byte ∈ encode text, byte < 0x80 := by
  constructor
  · intro ascii byte member
    obtain ⟨char, inText, member⟩ := List.mem_flatMap.mp member
    have isAscii := ascii char inText
    rw [encodeChar_ascii isAscii, List.mem_singleton] at member
    rw [member, UInt8.lt_iff_toNat_lt, UInt8.toNat_ofNat']
    exact Nat.lt_of_le_of_lt (Nat.mod_le _ _) isAscii
  · intro bytes char inText
    refine Nat.lt_of_not_le fun beyond => ?_
    obtain ⟨byte, member, notAscii⟩ := not_ascii_of_encodeChar beyond
    exact notAscii (bytes byte (List.mem_flatMap.mpr ⟨char, inText, member⟩))

/-! ## Slices -/

/-- An ASCII text may be cut anywhere. -/
theorem isBoundary_ascii {bytes : Bytes} (ascii : ∀ byte ∈ bytes, byte < 0x80)
    {index : Nat} (inside : index ≤ bytes.length) :
    isBoundary bytes index = true := by
  unfold isBoundary
  split
  · rename_i beyond
    have atEnd := List.getElem?_eq_none_iff.mp beyond
    exact beq_iff_eq.mpr (Nat.le_antisymm inside atEnd)
  · rename_i byte found
    have single := ascii byte (List.mem_of_getElem? found)
    rw [decide_eq_true single, Bool.true_or]

/-- A slice of an ASCII text encodes the same part of its characters. -/
theorem slice?_ascii {text : String} (ascii : IsAscii text.toList)
    {start stop : Nat} (ordered : start ≤ stop)
    (inside : stop ≤ text.toList.length) :
    slice? (encode text) start stop =
      some (encode (String.ofList ((text.toList.take stop).drop start))) := by
  have bytes := (isAscii_iff_bytes text).mp ascii
  have inBytes : stop ≤ (encode text).length := by
    rwa [length_encode_ascii ascii]
  have part : IsAscii
      (String.ofList ((text.toList.take stop).drop start)).toList := by
    rw [String.toList_ofList]
    exact fun char member =>
      ascii char (List.mem_of_mem_take (List.mem_of_mem_drop member))
  rw [slice?, if_pos ⟨ordered, isBoundary_ascii bytes (Nat.le_trans ordered inBytes),
    isBoundary_ascii bytes inBytes⟩, encode_ascii ascii, encode_ascii part,
    String.toList_ofList, List.map_drop, List.map_take]

end Parley.Text.Utf8
