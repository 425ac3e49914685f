import Parley.Json.Writer
import Parley.Proofs.Json.Integer
import Parley.Proofs.Yaml.Printable

/-!
Contract: the scalars of a written JSON text as YAML scans them.

A JSON string of printable characters is a double-quoted scalar with the same
text: its two escapes mean the same in YAML, and the spaces in it are kept. The
numbers and the word of the empty value are plain scalars that end where a mark of
a flow collection or the end of the text stands.

Owns: the scanning of written strings, `IsWord`, and the scanning of words.
-/

namespace Parley.Yaml

open Parley.Json (writeChar writeText)

/-! ## Quoted scalars -/

/-- Of the printable characters the quote and the reverse solidus are escaped. -/
theorem writeChar_printable {char : Char} (printable : IsPrintable char) :
    (char = '"' ∨ char = '\\') ∧ writeChar char = ['\\', char] ∨
      (char ≠ '"' ∧ char ≠ '\\') ∧ writeChar char = [char] := by
  by_cases isQuote : char = '"'
  · subst isQuote
    exact .inl ⟨.inl rfl, rfl⟩
  by_cases isEscape : char = '\\'
  · subst isEscape
    exact .inl ⟨.inr rfl, rfl⟩
  right
  have noShort (control : Char) (notPrintable : ¬ IsPrintable control) :
      char ≠ control :=
    fun same => notPrintable (same ▸ printable)
  refine ⟨⟨isQuote, isEscape⟩, ?_⟩
  rw [writeChar, Json.shortEscape?, if_neg isQuote, if_neg isEscape,
    if_neg (noShort _ (by decide)), if_neg (noShort _ (by decide)),
    if_neg (noShort _ (by decide)), if_neg (noShort _ (by decide)),
    if_neg (noShort _ (by decide))]
  exact if_neg (Nat.not_lt.mpr printable.1)

theorem printable_writeChars {text : List Char} (printable : Printable text) :
    Printable (text.flatMap writeChar) := by
  intro char member
  obtain ⟨source, isSource, written⟩ := List.mem_flatMap.mp member
  rcases writeChar_printable (printable source isSource) with
    ⟨_, same⟩ | ⟨_, same⟩
  · rw [same] at written
    rcases List.mem_cons.mp written with rfl | last
    · decide
    · exact List.mem_singleton.mp last ▸ printable source isSource
  · rw [same] at written
    exact List.mem_singleton.mp written ▸ printable source isSource

theorem printable_writeText {text : String} (printable : Printable text.toList) :
    Printable (writeText text) :=
  Printable.cons_iff.mpr ⟨by decide,
    Printable.append_iff.mpr ⟨printable_writeChars printable, by decide⟩⟩

section Quoted

variable {taken rest : List Char} {column : Nat}

/-- Within a line no document ends. -/
theorem not_atMarker (inside : 0 < column) (text : List Char) :
    ¬ (decide (column = 0) && atDocumentMarker text) = true := by
  rw [decide_eq_false (Nat.ne_of_gt inside), Bool.false_and]
  exact Bool.false_ne_true

private theorem scanQuotedOnto_end (inside : 0 < column) :
    scanQuotedOnto '"' taken column ('"' :: rest) = .ok (taken.reverse, rest) := by
  rw [scanQuotedOnto, if_neg (not_atMarker inside _), if_pos rfl]
  exact if_neg fun isSingle => absurd isSingle.1 (by decide)

private theorem scanQuotedOnto_escape {letter : Char}
    (escape : letter = '"' ∨ letter = '\\') (inside : 0 < column) :
    scanQuotedOnto '"' taken column ('\\' :: letter :: rest) =
      scanQuotedOnto '"' (letter :: taken) (column + 2) rest := by
  have noBreak : ¬ (letter :: rest).head?.any isBreak = true := by
    show ¬ isBreak letter = true
    rcases escape with rfl | rfl <;> decide
  have scanned : scanEscape (letter :: rest) = .ok (letter, rest) := by
    rcases escape with rfl | rfl <;> rfl
  rw [scanQuotedOnto, if_neg (not_atMarker inside _), if_neg (by decide),
    if_pos (by decide), if_neg noBreak]
  split
  · rename_i failed
    rw [scanned] at failed
    cases failed
  · rename_i escaped next isScanned
    rw [scanned] at isScanned
    cases isScanned
    dsimp only
    rw [List.length_cons, Nat.add_sub_cancel_left]

private theorem scanQuotedOnto_char {char : Char} (notGap : isGap char = false)
    (notQuote : char ≠ '"') (notEscape : char ≠ '\\') (inside : 0 < column) :
    scanQuotedOnto '"' taken column (char :: rest) =
      scanQuotedOnto '"' (char :: taken) (column + 1) rest := by
  rw [scanQuotedOnto, if_neg (not_atMarker inside _), if_neg notQuote,
    if_neg fun isEscape => notEscape isEscape.2,
    if_neg (Bool.eq_false_iff.mp notGap)]

/-- A run of spaces within a line is taken as it is. -/
theorem scanQuotedOnto_spaces (inside : 0 < column)
    (printable : Printable rest) :
    scanQuotedOnto '"' taken column (' ' :: rest) =
      scanQuotedOnto '"' ((' ' :: rest.takeWhile isGap).reverse ++ taken)
        (column + (rest.takeWhile isGap).length + 1) (rest.dropWhile isGap) := by
  have isLine : Printable (' ' :: rest.takeWhile isGap) :=
    Printable.cons_iff.mpr ⟨by decide, fun char member =>
      printable char ((List.takeWhile_sublist isGap).subset member)⟩
  have folded : foldGap (' ' :: rest.takeWhile isGap) =
      ' ' :: rest.takeWhile isGap := by
    rw [foldGap, isLine.any_isBreak]
    rfl
  have reached : columnAfter column (' ' :: rest.takeWhile isGap) =
      column + (rest.takeWhile isGap).length + 1 := by
    rw [columnAfter, Mark.over_printable isLine]
    rfl
  rw [scanQuotedOnto, if_neg (not_atMarker inside _), if_neg (by decide),
    if_neg (by decide), if_pos (by decide)]
  dsimp only
  rw [folded, reached]

/-- So a space is taken as any other character. -/
theorem scanQuotedOnto_space (inside : 0 < column) (printable : Printable rest) :
    scanQuotedOnto '"' taken column (' ' :: rest) =
      scanQuotedOnto '"' (' ' :: taken) (column + 1) rest := by
  rw [scanQuotedOnto_spaces inside printable]
  cases rest with
  | nil => rfl
  | cons char rest =>
      obtain ⟨isChar, isRest⟩ := Printable.cons_iff.mp printable
      cases gap : isGap char with
      | false =>
          rw [List.takeWhile_cons_of_neg (Bool.eq_false_iff.mp gap),
            List.dropWhile_cons_of_neg (Bool.eq_false_iff.mp gap)]
          rfl
      | true =>
          obtain rfl : char = ' ' := eq_of_beq (isChar.isGap.symm.trans gap)
          rw [scanQuotedOnto_spaces (Nat.succ_pos column) isRest,
            List.takeWhile_cons_of_pos gap, List.dropWhile_cons_of_pos gap,
            List.length_cons, @List.reverse_cons Char ' ' (' ' :: _),
            List.append_assoc, Nat.add_right_comm column]
          rfl

/-- What is written inside a JSON string is scanned as the same text. -/
theorem scanQuotedOnto_written {text : List Char} (printable : Printable text)
    (inside : 0 < column) (isRest : Printable rest) :
    scanQuotedOnto '"' taken column (text.flatMap writeChar ++ '"' :: rest) =
      .ok (taken.reverse ++ text, rest) := by
  induction text generalizing taken column with
  | nil => rw [List.append_nil]; exact scanQuotedOnto_end inside
  | cons char text inductionHypothesis =>
      obtain ⟨isChar, isText⟩ := Printable.cons_iff.mp printable
      have others (column : Nat) (inside : 0 < column) :
          scanQuotedOnto '"' (char :: taken) column
              (text.flatMap writeChar ++ '"' :: rest) =
            .ok (taken.reverse ++ char :: text, rest) := by
        rw [inductionHypothesis isText inside, List.reverse_cons,
          List.append_assoc, List.singleton_append]
      rw [List.flatMap_cons, List.append_assoc]
      rcases writeChar_printable isChar with
        ⟨isEscape, written⟩ | ⟨⟨notQuote, notEscape⟩, written⟩
      · rw [written]
        exact (scanQuotedOnto_escape isEscape inside).trans
          (others _ (Nat.succ_pos _))
      rw [written]
      by_cases isSpace : char = ' '
      · subst isSpace
        have isLine : Printable (text.flatMap writeChar ++ '"' :: rest) :=
          Printable.append_iff.mpr ⟨printable_writeChars isText,
            Printable.cons_iff.mpr ⟨by decide, isRest⟩⟩
        exact (scanQuotedOnto_space inside isLine).trans
          (others _ (Nat.succ_pos _))
      · have notGap : isGap char = false := by
          rw [isChar.isGap]
          exact beq_false_of_ne isSpace
        exact (scanQuotedOnto_char notGap notQuote notEscape inside).trans
          (others _ (Nat.succ_pos _))

end Quoted

/-- A JSON string is scanned as the text that it was written for. -/
theorem scanQuoted_written {text : String} (printable : Printable text.toList)
    {rest : List Char} (isRest : Printable rest) (column : Nat) :
    scanQuoted '"' column (writeText text ++ rest) =
      .ok (text.toList, rest) := by
  show scanQuotedOnto '"' [] (column + 1)
    (text.toList.flatMap writeChar ++ ['"'] ++ rest) = _
  rw [List.append_assoc]
  exact scanQuotedOnto_written printable (Nat.succ_pos column) isRest

/-! ## Words -/

/-- The names of the empty value and of the truth values. -/
def names : List (List Char) :=
  [['n', 'u', 'l', 'l'], ['t', 'r', 'u', 'e'], ['f', 'a', 'l', 's', 'e']]

/-- The texts that are written for values which are neither texts nor
containers. -/
inductive IsWord : List Char → Prop where
  | name {word : List Char} (isName : word ∈ names) : IsWord word
  | number (numeral : Json.Numeral) : IsWord numeral.spelled

/-- The characters of words. -/
def InWord (char : Char) : Prop :=
  char.isDigit = true ∨
    char ∈ ['-', '+', '.', 'e', 'E'] ++ names.flatten

instance (char : Char) : Decidable (InWord char) :=
  instDecidableOr

namespace InWord

variable {char : Char}

theorem isPrintable (inWord : InWord char) : IsPrintable char := by
  rcases inWord with isDigit | isListed
  · obtain ⟨least, most⟩ := Char.isDigit_iff_toNat.mp isDigit
    exact ⟨Nat.le_trans (by decide) least, Nat.le_trans most (by decide)⟩
  · exact (by decide : Printable (['-', '+', '.', 'e', 'E'] ++ names.flatten))
      char isListed

theorem ne {other : Char} (inWord : InWord char) (notInWord : ¬ InWord other) :
    char ≠ other :=
  fun same => notInWord (same ▸ inWord)

theorem notGap (inWord : InWord char) : isGap char = false := by
  rw [inWord.isPrintable.isGap]
  exact beq_false_of_ne (inWord.ne (by decide))

private theorem notFlowMark (inWord : InWord char) :
    isFlowMark char = false := by
  have differs {mark : Char} (notInWord : ¬ InWord mark) :
      (char == mark) = false :=
    beq_false_of_ne (inWord.ne notInWord)
  rw [isFlowMark, differs (by decide), differs (by decide),
    differs (by decide), differs (by decide), differs (by decide)]
  rfl

end InWord

namespace IsWord

variable {word : List Char}

theorem inWord (isWord : IsWord word) : ∀ char ∈ word, InWord char := by
  intro char member
  cases isWord with
  | name isName =>
      exact .inr (List.mem_append_right _
        (List.mem_flatten_of_mem isName member))
  | number numeral =>
      exact (numeral.chars char member).imp_right (List.mem_append_left _)

theorem printable (isWord : IsWord word) : Printable word :=
  fun char member => (isWord.inWord char member).isPrintable

/-- A word starts with a digit or a letter, or with a sign and a digit. -/
theorem starts (isWord : IsWord word) :
    ∃ first rest, (first.isDigit = true ∨ first ∈ ['n', 't', 'f']) ∧
      (word = first :: rest ∨ word = '-' :: first :: rest) := by
  cases isWord with
  | name isName =>
      simp only [names, List.mem_cons, List.not_mem_nil, or_false] at isName
      rcases isName with rfl | rfl | rfl
      · exact ⟨'n', _, .inr (by decide), .inl rfl⟩
      · exact ⟨'t', _, .inr (by decide), .inl rfl⟩
      · exact ⟨'f', _, .inr (by decide), .inl rfl⟩
  | number numeral =>
      obtain ⟨first, rest, magnitude, isDigit⟩ := numeral.magnitude_head
      refine ⟨first, rest, .inl isDigit, ?_⟩
      rw [Json.Numeral.spelled, magnitude]
      cases numeral.negative
      · exact .inl rfl
      · exact .inr rfl

end IsWord

/-- Whether a word ends before a text, which is the end of the document or, in a
flow collection, starts with a mark. -/
def EndsWord (inFlow : Bool) : List Char → Prop
  | [] => True
  | char :: _ => inFlow = true ∧ isFlowMark char = true

theorem isFlowMark_not_plain {mark : Char} (isMark : isFlowMark mark = true) :
    isGap mark = false ∧ (mark == ':') = false := by
  simp only [isFlowMark, Bool.or_eq_true, beq_iff_eq] at isMark
  rcases isMark with (((rfl | rfl) | rfl) | rfl) | rfl <;> decide

private theorem EndsWord.takeWhile_isGap {inFlow : Bool} {rest : List Char}
    (ends : EndsWord inFlow rest) : rest.takeWhile isGap = [] := by
  cases rest with
  | nil => rfl
  | cons mark rest =>
      exact List.takeWhile_cons_of_neg
        (Bool.eq_false_iff.mp (isFlowMark_not_plain ends.2).1)

private theorem plainRun_word {inFlow : Bool} {word rest : List Char}
    (inWord : ∀ char ∈ word, InWord char) (ends : EndsWord inFlow rest) :
    plainRun inFlow (word ++ rest) = .ok (word, rest) := by
  induction word with
  | nil =>
      cases rest with
      | nil => rfl
      | cons mark rest =>
          obtain ⟨rfl, isMark⟩ := ends
          obtain ⟨notGap, notColon⟩ := isFlowMark_not_plain isMark
          rw [List.nil_append, plainRun, notGap, notColon, isMark]
          rfl
  | cons char word inductionHypothesis =>
      obtain ⟨isChar, isWord⟩ := List.forall_mem_cons.mp inWord
      have notColon : (char == ':') = false :=
        beq_false_of_ne (isChar.ne (by decide))
      rw [List.cons_append, plainRun, isChar.notGap, notColon,
        isChar.notFlowMark, inductionHypothesis isWord, Bool.and_false inFlow]
      rfl

theorem atTriple_of_ne (front : List Char) {mark char : Char}
    (short : front.length < 3) (differs : char ≠ mark) (text : List Char) :
    atTriple mark (front ++ char :: text) = false := by
  have member : char ∈ (front ++ char :: text).take 3 := by
    obtain ⟨left, isLeft⟩ := Nat.exists_eq_add_of_lt short
    have remains : 3 - front.length = left + 1 := by omega
    rw [List.take_append, remains, List.take_succ_cons]
    exact List.mem_append_right _ List.mem_cons_self
  rw [atTriple, Bool.and_eq_false_iff]
  left
  refine beq_false_of_ne fun same => differs ?_
  rw [same] at member
  exact List.eq_of_mem_replicate (n := 3) member

namespace IsWord

variable {word : List Char}

/-- No document starts or ends at a word. -/
theorem not_atTriple (isWord : IsWord word) {mark : Char}
    (isMark : mark = '-' ∨ mark = '.') (rest : List Char) :
    atTriple mark (word ++ rest) = false := by
  obtain ⟨first, more, isFirst, rfl | rfl⟩ := isWord.starts
  · refine atTriple_of_ne [] (by decide) ?_ _
    rintro rfl
    rcases isMark with rfl | rfl <;> exact absurd isFirst (by decide)
  · refine atTriple_of_ne ['-'] (by decide) ?_ _
    rintro rfl
    rcases isMark with rfl | rfl <;> exact absurd isFirst (by decide)

/-- A word is scanned up to its end. -/
theorem scanPlain {inFlow : Bool} {rest : List Char} (isWord : IsWord word)
    (ends : EndsWord inFlow rest) (indent : Int) (column : Nat) :
    scanPlain inFlow indent column (word ++ rest) =
      .ok (⟨word, false⟩, rest) := by
  have run := plainRun_word isWord.inWord ends
  have notMarker : atDocumentMarker (word ++ rest) = false := by
    rw [atDocumentMarker, isWord.not_atTriple (.inl rfl),
      isWord.not_atTriple (.inr rfl)]
    rfl
  have isChar := isWord.inWord
  obtain ⟨first, more, rfl⟩ : ∃ first more, word = first :: more := by
    obtain ⟨first, more, _, rfl | rfl⟩ := isWord.starts <;> exact ⟨_, _, rfl⟩
  have noComment : ((first :: more ++ rest).head? == some '#') = false :=
    beq_false_of_ne fun same =>
      (isChar first List.mem_cons_self).ne (by decide) (Option.some.inj same)
  rw [Yaml.scanPlain, scanPlainOnto, notMarker, noComment, Bool.and_false]
  dsimp only
  rw [if_neg (show ¬ (false || false) = true from Bool.false_ne_true)]
  split
  · rename_i failed
    rw [run] at failed
    cases failed
  · rename_i empty
    rw [run] at empty
    cases empty
  · rename_i char word after scanned
    rw [run] at scanned
    cases scanned
    rw [ends.takeWhile_isGap]
    rfl

end IsWord

end Parley.Yaml
