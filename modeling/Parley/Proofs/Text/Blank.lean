import Parley.Text.Blank

/-!
Contract: white space, and what trimming removes.

Owns: `IsWhiteSpace`, `Trimmed`, and `trimChars` as the text that it leaves.
-/

namespace Parley.Text

/-- The code points with the Unicode property White_Space. -/
def whiteSpace : List Nat :=
  [0x09, 0x0A, 0x0B, 0x0C, 0x0D, 0x20, 0x85, 0xA0, 0x1680, 0x2000, 0x2001,
    0x2002, 0x2003, 0x2004, 0x2005, 0x2006, 0x2007, 0x2008, 0x2009, 0x200A,
    0x2028, 0x2029, 0x202F, 0x205F, 0x3000]

/-- Whether a character is white space. -/
def IsWhiteSpace (char : Char) : Prop :=
  char.toNat ∈ whiteSpace

instance (char : Char) : Decidable (IsWhiteSpace char) :=
  inferInstanceAs (Decidable (char.toNat ∈ whiteSpace))

/-- Whether a text is another one without the white space at either end. -/
structure Trimmed (whole text : List Char) : Prop where
  cut : ∃ before after, whole = before ++ (text ++ after) ∧
    (∀ char ∈ before, IsWhiteSpace char) ∧ ∀ char ∈ after, IsWhiteSpace char
  start : ∀ char rest, text = char :: rest → ¬ IsWhiteSpace char
  stop : ∀ front char, text = front ++ [char] → ¬ IsWhiteSpace char

theorem isBlank_iff {char : Char} : isBlank char = true ↔ IsWhiteSpace char := by
  simp only [isBlank, IsWhiteSpace, whiteSpace, Bool.or_eq_true,
    Bool.and_eq_true, decide_eq_true_eq, beq_iff_eq, List.mem_cons,
    List.not_mem_nil, or_false]
  omega

/-- What is dropped is white space, and what is left does not start with any. -/
theorem dropWhile_isBlank (chars : List Char) :
    ∃ before, chars = before ++ chars.dropWhile isBlank ∧
      (∀ char ∈ before, IsWhiteSpace char) ∧
      ∀ char rest, chars.dropWhile isBlank = char :: rest →
        ¬ IsWhiteSpace char := by
  refine ⟨chars.takeWhile isBlank, List.takeWhile_append_dropWhile.symm,
    fun char member => ?_, fun char rest left => ?_⟩
  · exact isBlank_iff.mp (List.all_eq_true.mp List.all_takeWhile char member)
  · have notBlank := List.head?_dropWhile_not isBlank chars
    rw [left, List.head?_cons] at notBlank
    rw [← isBlank_iff, notBlank]
    exact Bool.false_ne_true

theorem trimChars_trimmed (whole : List Char) :
    Trimmed whole (trimChars whole) := by
  obtain ⟨before, split, blankBefore, start⟩ := dropWhile_isBlank whole
  obtain ⟨after, splitAgain, blankAfter, stop⟩ :=
    dropWhile_isBlank (whole.dropWhile isBlank).reverse
  have kept : whole.dropWhile isBlank = trimChars whole ++ after.reverse := by
    rw [trimChars, ← List.reverse_append, ← splitAgain, List.reverse_reverse]
  constructor
  · refine ⟨before, after.reverse, kept ▸ split, blankBefore, ?_⟩
    intro char member
    exact blankAfter char (List.mem_reverse.mp member)
  · intro char rest isText
    rw [isText] at kept
    exact start char (rest ++ after.reverse) kept
  · intro front char isText
    refine stop char front.reverse ?_
    rw [← List.reverse_reverse (List.dropWhile _ _),
      show (List.dropWhile isBlank _).reverse = trimChars whole from rfl,
      isText, List.reverse_append]
    rfl

/-- Nothing is left exactly of white space. -/
theorem Trimmed.eq_nil_iff {whole text : List Char}
    (trimmed : Trimmed whole text) :
    text = [] ↔ ∀ char ∈ whole, IsWhiteSpace char := by
  obtain ⟨⟨before, after, split, blankBefore, blankAfter⟩, start, _⟩ := trimmed
  constructor
  · rintro rfl char member
    rw [split] at member
    rcases List.mem_append.mp member with inBefore | inAfter
    · exact blankBefore char inBefore
    · exact blankAfter char inAfter
  · intro allBlank
    cases text with
    | nil => rfl
    | cons char rest =>
        refine absurd (allBlank char ?_) (start char rest rfl)
        rw [split]
        exact List.mem_append_right _ List.mem_cons_self

/-- White space is dropped up to the first character that is none. -/
theorem dropWhile_isBlank_append {before : List Char}
    (blank : ∀ char ∈ before, IsWhiteSpace char) {char : Char}
    (visible : ¬ IsWhiteSpace char) (rest : List Char) :
    (before ++ char :: rest).dropWhile isBlank = char :: rest := by
  rw [List.dropWhile_append_of_pos fun other member =>
      isBlank_iff.mpr (blank other member),
    List.dropWhile_cons_of_neg (mt isBlank_iff.mp visible)]

/-- There is only one text without the white space at either end. -/
theorem Trimmed.eq_trimChars {whole text : List Char}
    (trimmed : Trimmed whole text) : text = trimChars whole := by
  have sameEmpty : text = [] ↔ trimChars whole = [] := by
    rw [trimmed.eq_nil_iff, (trimChars_trimmed whole).eq_nil_iff]
  by_cases empty : text = []
  · rw [empty, sameEmpty.mp empty]
  obtain ⟨⟨before, after, split, blankBefore, blankAfter⟩, start, stop⟩ :=
    trimmed
  obtain ⟨first, rest, isCons⟩ := List.exists_cons_of_ne_nil empty
  have isConcat := (List.dropLast_concat_getLast empty).symm
  have kept : whole.dropWhile isBlank = text ++ after := by
    rw [split, isCons]
    exact dropWhile_isBlank_append blankBefore (start first rest isCons) _
  have back : (text ++ after).reverse.dropWhile isBlank = text.reverse := by
    rw [List.reverse_append, isConcat, List.reverse_append]
    exact dropWhile_isBlank_append
      (fun char member => blankAfter char (List.mem_reverse.mp member))
      (stop _ _ isConcat) _
  rw [trimChars, kept, back, List.reverse_reverse]

end Parley.Text
