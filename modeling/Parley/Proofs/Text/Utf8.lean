import Parley.Text.Utf8

/-!
Contract: decoding undoes encoding.

The first piece of an encoded character is that character, whatever follows it,
so the pieces of an encoded text are its characters.

Among any bytes, one below `0x80` is a character for itself.

Owns: the pieces and the lossy reading of encoded text, and single bytes.
-/

namespace Parley.Text.Utf8

/-! ## Lead bytes by their number -/

theorem announced?_ofNat {lead : Nat} (small : lead < 256) :
    announced? (.ofNat lead) =
      if lead < 0xC2 then none
      else if lead < 0xE0 then some (lead % 32, [(0x80, 0xBF)])
      else if lead = 0xE0 then some (0, [(0xA0, 0xBF), (0x80, 0xBF)])
      else if lead = 0xED then some (13, [(0x80, 0x9F), (0x80, 0xBF)])
      else if lead < 0xF0 then
        some (lead % 16, [(0x80, 0xBF), (0x80, 0xBF)])
      else if lead = 0xF0 then
        some (0, [(0x90, 0xBF), (0x80, 0xBF), (0x80, 0xBF)])
      else if lead < 0xF4 then
        some (lead % 8, [(0x80, 0xBF), (0x80, 0xBF), (0x80, 0xBF)])
      else if lead = 0xF4 then
        some (4, [(0x80, 0x8F), (0x80, 0xBF), (0x80, 0xBF)])
      else none := by
  have number : (UInt8.ofNat lead).toNat = lead := by
    rw [UInt8.toNat_ofNat']
    exact Nat.mod_eq_of_lt small
  simp only [announced?, UInt8.lt_iff_toNat_lt, ← UInt8.toNat_inj, number]
  rfl

private theorem announced?_two {lead : Nat} (above : 0xC2 ≤ lead)
    (below : lead < 0xE0) :
    announced? (.ofNat lead) = some (lead % 32, [(0x80, 0xBF)]) := by
  rw [announced?_ofNat (by omega), if_neg (by omega), if_pos below]

private theorem announced?_three {lead : Nat} (above : 0xE0 ≤ lead)
    (below : lead < 0xF0) :
    announced? (.ofNat lead) = some (lead % 16,
      [(if lead = 0xE0 then 0xA0 else 0x80,
        if lead = 0xED then 0x9F else 0xBF), (0x80, 0xBF)]) := by
  rw [announced?_ofNat (by omega), if_neg (by omega), if_neg (by omega)]
  by_cases least : lead = 0xE0
  · subst least
    rfl
  by_cases surrogate : lead = 0xED
  · subst surrogate
    rfl
  · rw [if_neg least, if_neg surrogate, if_pos below, if_neg least,
      if_neg surrogate]

private theorem announced?_four {lead : Nat} (above : 0xF0 ≤ lead)
    (below : lead < 0xF5) :
    announced? (.ofNat lead) = some (lead % 8,
      [(if lead = 0xF0 then 0x90 else 0x80,
        if lead = 0xF4 then 0x8F else 0xBF), (0x80, 0xBF),
        (0x80, 0xBF)]) := by
  rw [announced?_ofNat (by omega), if_neg (by omega), if_neg (by omega),
    if_neg (by omega), if_neg (by omega), if_neg (by omega)]
  by_cases least : lead = 0xF0
  · subst least
    rfl
  by_cases most : lead = 0xF4
  · subst most
    rfl
  · rw [if_neg least, if_pos (by omega), if_neg least, if_neg most]

/-! ## Characters -/

/-- A continuation byte in its range adds six bits. -/
theorem continuation_byte {payload bits : Nat} {taken rest : Bytes}
    {least most : UInt8} {ranges : List (UInt8 × UInt8)}
    (small : bits < 64) (above : least.toNat ≤ bits + 0x80)
    (below : bits + 0x80 ≤ most.toNat) :
    continuation payload taken ((least, most) :: ranges)
        (.ofNat (bits + 0x80) :: rest) =
      continuation (payload * 64 + bits) (.ofNat (bits + 0x80) :: taken)
        ranges rest := by
  have number : (UInt8.ofNat (bits + 0x80)).toNat = bits + 0x80 := by
    rw [UInt8.toNat_ofNat']
    omega
  have within : least ≤ UInt8.ofNat (bits + 0x80) ∧
      UInt8.ofNat (bits + 0x80) ≤ most := by
    rw [UInt8.le_iff_toNat_le, UInt8.le_iff_toNat_le, number]
    exact ⟨above, below⟩
  rw [continuation, if_pos within, number]
  congr 2
  omega

/-- Only bytes of a single-byte character lie below `0x80`. -/
theorem firstPiece_announced {lead payload : Nat} {rest : Bytes}
    {ranges : List (UInt8 × UInt8)} (above : 0x80 ≤ lead)
    (small : lead < 256)
    (announced : announced? (.ofNat lead) = some (payload, ranges)) :
    firstPiece (.ofNat lead) rest =
      continuation payload [.ofNat lead] ranges rest := by
  have notSingle : ¬ UInt8.ofNat lead < 0x80 := by
    rw [UInt8.lt_iff_toNat_lt, UInt8.toNat_ofNat', Nat.mod_eq_of_lt small]
    exact Nat.not_lt.mpr above
  rw [firstPiece, if_neg notSingle, announced]

/-- The first piece behind an encoded character is that character. -/
theorem firstPiece_encoded (char : Char) : ∃ lead tail,
    String.utf8EncodeChar char = lead :: tail ∧
      ∀ rest, firstPiece lead (tail ++ rest) = (.char char, rest) := by
  have scalar : char.val.toNat < 0xD800 ∨
      0xDFFF < char.val.toNat ∧ char.val.toNat < 0x110000 := char.valid
  have number : Char.ofNat char.val.toNat = char := Char.ofNat_toNat char
  unfold String.utf8EncodeChar
  generalize char.val.toNat = code at scalar number
  simp only
  by_cases one : code ≤ 0x7F
  · rw [if_pos one]
    refine ⟨_, _, rfl, fun rest => ?_⟩
    have exact : (UInt8.ofNat code).toNat = code := by
      rw [UInt8.toNat_ofNat']
      omega
    have single : UInt8.ofNat code < 0x80 := by
      rw [UInt8.lt_iff_toNat_lt, exact]
      exact Nat.lt_succ_of_le one
    rw [firstPiece, if_pos single, exact, number]
    rfl
  rw [if_neg one]
  by_cases two : code ≤ 0x7FF
  · rw [if_pos two]
    refine ⟨_, _, rfl, fun rest => ?_⟩
    rw [firstPiece_announced (by omega) (by omega)
      (announced?_two (by omega) (by omega)), List.cons_append,
      continuation_byte (by omega) (by simp) (by simp; omega), continuation,
      show (code / 64 % 32 + 0xC0) % 32 * 64 + code % 64 = code by omega,
      number]
    rfl
  rw [if_neg two]
  by_cases three : code ≤ 0xFFFF
  · rw [if_pos three]
    refine ⟨_, _, rfl, fun rest => ?_⟩
    rw [firstPiece_announced (by omega) (by omega)
      (announced?_three (by omega) (by omega)), List.cons_append,
      List.cons_append,
      continuation_byte (by omega) (by split <;> simp; omega)
        (by split <;> simp <;> omega),
      continuation_byte (by omega) (by simp) (by simp; omega), continuation,
      show ((code / 4096 % 16 + 0xE0) % 16 * 64 + code / 64 % 64) * 64 +
        code % 64 = code by omega, number]
    rfl
  · rw [if_neg three]
    refine ⟨_, _, rfl, fun rest => ?_⟩
    rw [firstPiece_announced (by omega) (by omega)
      (announced?_four (by omega) (by omega)), List.cons_append,
      List.cons_append, List.cons_append,
      continuation_byte (by omega) (by split <;> simp; omega)
        (by split <;> simp <;> omega),
      continuation_byte (by omega) (by simp) (by simp; omega),
      continuation_byte (by omega) (by simp) (by simp; omega), continuation,
      show (((code / 262144 % 8 + 0xF0) % 8 * 64 + code / 4096 % 64) * 64 +
        code / 64 % 64) * 64 + code % 64 = code by omega, number]
    rfl

/-! ## Texts -/

private theorem piecesOnto_encoded (done : List Piece) (chars : List Char) :
    piecesOnto done (chars.flatMap String.utf8EncodeChar) =
      done.reverse ++ chars.map .char := by
  induction chars generalizing done with
  | nil => rw [List.flatMap_nil, piecesOnto, List.map_nil, List.append_nil]
  | cons char chars inductionHypothesis =>
      obtain ⟨lead, tail, encoded, first⟩ := firstPiece_encoded char
      rw [List.flatMap_cons, encoded, List.cons_append, piecesOnto, first,
        inductionHypothesis, List.reverse_cons, List.append_assoc]
      rfl

/-- The pieces of an encoded text are its characters. -/
theorem pieces_encode (text : String) :
    pieces (encode text) = text.toList.map .char := by
  rw [pieces, encode, piecesOnto_encoded, List.reverse_nil, List.nil_append]

/-- The lossy reading of well-formed bytes loses nothing. -/
theorem decodeLossy_encode (text : String) :
    decodeLossy (encode text) = text := by
  rw [decodeLossy, pieces_encode, List.map_map,
    show Piece.shown ∘ Piece.char = id from rfl, List.map_id,
    String.ofList_toList]

/-- Well-formed bytes are read as the text that they encode. -/
theorem decode?_encode (text : String) : decode? (encode text) = some text := by
  have eachChar (chars : List Char) :
      (chars.map Piece.char).mapM Piece.char? = some chars := by
    induction chars with
    | nil => rfl
    | cons char chars inductionHypothesis =>
        rw [List.map_cons, List.mapM_cons, inductionHypothesis]
        rfl
  rw [decode?, pieces_encode, eachChar, Option.map_some, String.ofList_toList]

/-! ## Single bytes -/

private theorem announced?_ranges {lead : UInt8} {payload : Nat}
    {ranges : List (UInt8 × UInt8)}
    (announced : announced? lead = some (payload, ranges)) :
    ranges.all (0x80 ≤ ·.1) = true := by
  unfold announced? at announced
  dsimp only at announced
  repeat' split at announced
  all_goals
    cases announced
    try decide

/-- Behind an announced byte only bytes from `0x80` on are read. -/
theorem mem_continuation {byte : UInt8} (single : byte < 0x80)
    {ranges : List (UInt8 × UInt8)}
    (beyond : ranges.all (0x80 ≤ ·.1) = true) {bytes : Bytes}
    (member : byte ∈ bytes) (payload : Nat) (taken : Bytes) :
    byte ∈ (continuation payload taken ranges bytes).2 := by
  induction ranges generalizing payload taken bytes with
  | nil =>
      rw [continuation]
      exact member
  | cons range ranges inductionHypothesis =>
      rw [List.all_cons, Bool.and_eq_true, decide_eq_true_eq] at beyond
      cases bytes with
      | nil => cases member
      | cons first rest =>
          rw [continuation]
          split
          · rename_i inside
            rcases List.mem_cons.mp member with rfl | later
            · exact absurd (UInt8.le_trans beyond.1 inside.1)
                (UInt8.not_le.mpr single)
            · exact inductionHypothesis beyond.2 later _ _
          · exact member

private theorem mem_firstPiece {byte lead : UInt8} (single : byte < 0x80)
    {rest : Bytes}
    (member : byte ∈ rest) : byte ∈ (firstPiece lead rest).2 := by
  unfold firstPiece
  split
  · exact member
  · split
    · exact member
    · rename_i announced
      exact mem_continuation single (announced?_ranges announced) member _ _

/-- A byte below `0x80` is a character for itself among any bytes. -/
theorem char_mem_pieces {byte : UInt8} (single : byte < 0x80) {bytes : Bytes}
    (member : byte ∈ bytes) :
    Piece.char (.ofNat byte.toNat) ∈ pieces bytes := by
  have onto (done : List Piece) (present : Piece.char (.ofNat byte.toNat) ∈ done ∨
      byte ∈ bytes) : Piece.char (.ofNat byte.toNat) ∈ piecesOnto done bytes := by
    clear member
    fun_induction piecesOnto done bytes with
    | case1 done =>
        exact List.mem_reverse.mpr (present.resolve_right List.not_mem_nil)
    | case2 done lead rest step inductionHypothesis =>
        refine inductionHypothesis ?_
        rcases present with earlier | present
        · exact .inl (List.mem_cons_of_mem _ earlier)
        · rcases List.mem_cons.mp present with rfl | later
          · refine .inl (List.mem_cons.mpr (.inl ?_))
            show _ = (firstPiece _ rest).1
            rw [firstPiece, if_pos single]
          · exact .inr (mem_firstPiece single later)
  exact onto [] (.inr member)

end Parley.Text.Utf8
