import Parley.Proofs.Text.Utf8

/-!
Contract: the valid beginning of bytes that arrive in two parts.

A character that was read stays read, whatever bytes follow. So the valid
beginning of all bytes is that of the first part, and then that of what the
first part left together with the second.

Owns: the steps of `validPart`, and `validPart` of joined and of encoded bytes.
-/

namespace Parley.Text.Utf8

/-! ## More bytes behind a character -/

private theorem continuation_char_append {payload : Nat}
    {taken bytes after : Bytes}
    {ranges : List (UInt8 × UInt8)} {value : Char}
    (read : continuation payload taken ranges bytes = (.char value, after))
    (more : Bytes) :
    continuation payload taken ranges (bytes ++ more) =
      (.char value, after ++ more) := by
  induction ranges generalizing payload taken bytes with
  | nil =>
      rw [continuation] at read ⊢
      obtain ⟨isChar, rfl⟩ := Prod.mk.inj read
      rw [isChar]
  | cons range ranges inductionHypothesis =>
      cases bytes with
      | nil => cases (Prod.mk.inj read).1
      | cons byte bytes =>
          rw [List.cons_append]
          rw [continuation] at read ⊢
          split at read
          · rename_i within
            rw [if_pos within]
            exact inductionHypothesis read
          · cases (Prod.mk.inj read).1

/-- The first piece stays the same character if more bytes follow. -/
theorem firstPiece_char_append {lead : UInt8} {rest after : Bytes}
    {value : Char} (read : firstPiece lead rest = (.char value, after))
    (more : Bytes) :
    firstPiece lead (rest ++ more) = (.char value, after ++ more) := by
  unfold firstPiece at read ⊢
  split at read
  · rename_i single
    obtain ⟨isChar, rfl⟩ := Prod.mk.inj read
    rw [if_pos single, isChar]
  · rename_i several
    rw [if_neg several]
    split at read
    · cases (Prod.mk.inj read).1
    · exact continuation_char_append read more

/-! ## Steps -/

/-- What was read before is put in front. -/
theorem validOnto_eq (done : List Char) (bytes : Bytes) :
    validOnto done bytes =
      (done.reverse ++ (validPart bytes).1, (validPart bytes).2) := by
  match bytes with
  | [] => rw [validPart, validOnto, validOnto, List.reverse_nil, List.append_nil]
  | lead :: rest =>
      rw [validPart, validOnto, validOnto]
      split
      · rename_i value _
        rw [validOnto_eq (value :: done), validOnto_eq [value],
          List.reverse_cons, List.append_assoc]
        rfl
      · rw [List.reverse_nil, List.append_nil]
termination_by bytes.length
decreasing_by all_goals exact Nat.lt_succ_of_le (firstPiece_length_le lead rest)

theorem validPart_nil : validPart [] = ([], []) := by
  rw [validPart, validOnto, List.reverse_nil]

theorem validPart_of_char {lead : UInt8} {rest after : Bytes} {value : Char}
    (read : firstPiece lead rest = (.char value, after)) :
    validPart (lead :: rest) =
      (value :: (validPart after).1, (validPart after).2) := by
  rw [validPart, validOnto, read]
  exact validOnto_eq [value] after

private theorem validPart_of_malformed {lead : UInt8} {rest after bytes : Bytes}
    {truncated : Bool}
    (read : firstPiece lead rest = (.malformed bytes truncated, after)) :
    validPart (lead :: rest) = ([], lead :: rest) := by
  rw [validPart, validOnto, read]
  rfl

/-! ## Joined and encoded bytes -/

/-- What one part leaves is read with the part behind it. -/
theorem validPart_append (bytes more : Bytes) :
    validPart (bytes ++ more) =
      ((validPart bytes).1 ++ (validPart ((validPart bytes).2 ++ more)).1,
        (validPart ((validPart bytes).2 ++ more)).2) := by
  match bytes with
  | [] => rw [validPart_nil, List.nil_append, List.nil_append]
  | lead :: rest =>
      rcases read : firstPiece lead rest with ⟨value | _, after⟩
      · have shorter : after.length ≤ rest.length := by
          have bound := firstPiece_length_le lead rest
          rwa [read] at bound
        rw [List.cons_append,
          validPart_of_char (firstPiece_char_append read more),
          validPart_of_char read, validPart_append after more]
        rfl
      · -- What is malformed may be a character that is cut, so all of it is left.
        rw [validPart_of_malformed read]
        rfl
termination_by bytes.length
decreasing_by exact Nat.lt_succ_of_le shorter

/-- Nothing of an encoded text is left. -/
theorem validPart_encode (text : String) :
    validPart (encode text) = (text.toList, []) := by
  rw [encode]
  induction text.toList with
  | nil => exact validPart_nil
  | cons char chars inductionHypothesis =>
      obtain ⟨lead, tail, encoded, first⟩ := firstPiece_encoded char
      rw [List.flatMap_cons, encoded, List.cons_append,
        validPart_of_char (first _), inductionHypothesis]

end Parley.Text.Utf8
