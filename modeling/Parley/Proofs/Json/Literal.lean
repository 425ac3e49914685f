import Parley.Json.Literal
import Parley.Json.Writer

/-!
Contract: the grammar of JSON string literals, and what literals denote.

A literal stands between double quotes. Inside, a character that needs no escape
stands for itself; a reverse solidus starts a short escape, an escape by code
unit, or a pair of escapes by surrogates. What is read after an opening quote is
exactly what the grammar allows up to the first quote that is not escaped, and
what is written is a literal of the text that was written.

Owns: `Denotes`, `IsLiteral`, and both directions of `readLiteral`.
-/

namespace Parley.Json

open Parley.Text (digitIn? numberIn?)

/-! ## Grammar -/

/-- The hexadecimal digits and their values. -/
def hexDigits : List (Char × Nat) :=
  [('0', 0), ('1', 1), ('2', 2), ('3', 3), ('4', 4), ('5', 5), ('6', 6),
    ('7', 7), ('8', 8), ('9', 9), ('a', 10), ('b', 11), ('c', 12), ('d', 13),
    ('e', 14), ('f', 15), ('A', 10), ('B', 11), ('C', 12), ('D', 13),
    ('E', 14), ('F', 15)]

/-- The letters of short escapes and the characters that they denote. -/
def shortEscapes : List (Char × Char) :=
  [('"', '"'), ('\\', '\\'), ('/', '/'), ('b', '\x08'), ('f', '\x0c'),
    ('n', '\n'), ('r', '\r'), ('t', '\t')]

/-- Four hexadecimal digits and the code unit that they spell. -/
inductive SpellsUnit : List Char → Nat → Prop where
  | digits {first second third fourth : Char} {a b c d : Nat}
      (isFirst : (first, a) ∈ hexDigits) (isSecond : (second, b) ∈ hexDigits)
      (isThird : (third, c) ∈ hexDigits) (isFourth : (fourth, d) ∈ hexDigits) :
      SpellsUnit [first, second, third, fourth]
        (a * 0x1000 + b * 0x100 + c * 0x10 + d)

/-- What stands behind the reverse solidus of an escape, and the character that
it denotes. Code units of surrogates denote one only as a pair. -/
inductive Escapes : List Char → Char → Prop where
  | short {letter char : Char} (listed : (letter, char) ∈ shortEscapes) :
      Escapes [letter] char
  | unit {digits : List Char} {unit : Nat} (spelled : SpellsUnit digits unit)
      (noSurrogate : unit < 0xD800 ∨ 0xDFFF < unit) :
      Escapes ('u' :: digits) (Char.ofNat unit)
  | pair {highDigits lowDigits : List Char} {high low : Nat}
      (spelledHigh : SpellsUnit highDigits high)
      (spelledLow : SpellsUnit lowDigits low)
      (isHigh : 0xD800 ≤ high ∧ high ≤ 0xDBFF)
      (isLow : 0xDC00 ≤ low ∧ low ≤ 0xDFFF) :
      Escapes ('u' :: (highDigits ++ '\\' :: 'u' :: lowDigits))
        (Char.ofNat (0x10000 + (high - 0xD800) * 0x400 + (low - 0xDC00)))

/-- What stands between the quotes of a literal, and the text that it denotes. -/
inductive Denotes : List Char → List Char → Prop where
  | nil : Denotes [] []
  | plain {char : Char} {body text : List Char} (notControl : 0x20 ≤ char.toNat)
      (notQuote : char ≠ '"') (notEscape : char ≠ '\\')
      (rest : Denotes body text) : Denotes (char :: body) (char :: text)
  | escaped {spelled body text : List Char} {char : Char}
      (escape : Escapes spelled char) (rest : Denotes body text) :
      Denotes ('\\' :: (spelled ++ body)) (char :: text)

/-- Whether characters are blanks of JSON. -/
def Blanks (chars : List Char) : Prop :=
  ∀ char ∈ chars, char ∈ [' ', '\t', '\n', '\r']

/-- Whether a text is a literal of another text, with blanks around it. -/
def IsLiteral (raw text : String) : Prop :=
  ∃ before body after,
    raw.toList = before ++ '"' :: (body ++ '"' :: after) ∧
      Blanks before ∧ Denotes body text.toList ∧ Blanks after

/-! ## Code units -/

theorem digitIn?_of_mem {char : Char} {value : Nat}
    (digit : (char, value) ∈ hexDigits) : digitIn? 16 char = some value :=
  (show ∀ entry ∈ hexDigits, digitIn? 16 entry.1 = some entry.2 by decide)
    (char, value) digit

theorem mem_of_digitIn? {char : Char} {value : Nat}
    (digit : digitIn? 16 char = some value) : (char, value) ∈ hexDigits := by
  have ascii : char.toNat < 128 := by
    refine Nat.lt_of_not_le fun large => ?_
    have above (bound : Char) (isAscii : bound.toNat < 128) :
        ¬ char ≤ bound := by
      rw [Char.le_def, UInt32.le_iff_toNat_le]
      exact Nat.not_le.mpr (Nat.lt_of_lt_of_le isAscii large)
    rw [digitIn?, if_neg (fun between => above '9' (by decide) between.2),
      if_neg (fun between => above 'z' (by decide) between.2),
      if_neg (fun between => above 'Z' (by decide) between.2)] at digit
    cases digit
  have listed := (show ∀ code, code < 128 →
    ∀ value ∈ digitIn? 16 (Char.ofNat code),
      (Char.ofNat code, value) ∈ hexDigits by decide) char.toNat ascii
  rw [Char.ofNat_toNat] at listed
  exact listed value digit

private theorem length_le_utf8ByteSize (chars : List Char) :
    chars.length ≤ (String.ofList chars).utf8ByteSize := by
  induction chars with
  | nil => exact Nat.zero_le _
  | cons char chars inductionHypothesis =>
      have split : String.ofList (char :: chars) =
          String.singleton char ++ String.ofList chars := by
        rw [String.singleton_eq_ofList, ← String.ofList_append]
        rfl
      have positive := char.utf8Size_pos
      rw [split, String.utf8ByteSize_append, String.utf8ByteSize_singleton,
        List.length_cons]
      omega

private theorem hexUnit?_of_spells {digits : List Char} {unit : Nat}
    (spelled : SpellsUnit digits unit) : hexUnit? digits = some unit := by
  cases spelled with
  | @digits first second third fourth a b c d isFirst isSecond isThird
      isFourth =>
      rw [hexUnit?, if_pos (show [first, second, third, fourth].length = 4
        from rfl), numberIn?]
      simp only [List.foldlM_cons, List.foldlM_nil, digitIn?_of_mem isFirst,
        digitIn?_of_mem isSecond, digitIn?_of_mem isThird,
        digitIn?_of_mem isFourth, Option.map_some, Option.bind_eq_bind,
        Option.bind_some, Option.pure_def, Option.some_inj]
      omega

private theorem spells_of_hexUnit? {digits : List Char} {unit : Nat}
    (number : hexUnit? digits = some unit) : SpellsUnit digits unit := by
  unfold hexUnit? at number
  split at number
  · rename_i four
    match digits, four with
    | [first, second, third, fourth], _ =>
        simp only [numberIn?, List.foldlM_cons, List.foldlM_nil,
          Option.bind_eq_bind, Option.bind_eq_some_iff, Option.map_eq_some_iff,
          Option.pure_def, Option.some_inj] at number
        obtain ⟨_, ⟨a, isFirst, rfl⟩, _, ⟨b, isSecond, rfl⟩, _,
          ⟨c, isThird, rfl⟩, _, ⟨d, isFourth, rfl⟩, rfl⟩ := number
        have spelled := SpellsUnit.digits (mem_of_digitIn? isFirst)
          (mem_of_digitIn? isSecond) (mem_of_digitIn? isThird)
          (mem_of_digitIn? isFourth)
        have same : a * 0x1000 + b * 0x100 + c * 0x10 + d =
            (((0 * 16 + a) * 16 + b) * 16 + c) * 16 + d := by omega
        rwa [same] at spelled
  · cases number

private theorem length_of_spells {digits : List Char} {unit : Nat}
    (spelled : SpellsUnit digits unit) : digits.length = 4 := by
  cases spelled
  rfl

/-- A code unit is read exactly from its four digits. -/
theorem readUnit_eq_ok_iff {text rest : List Char} {unit : Nat} :
    readUnit text = .ok (unit, rest) ↔
      ∃ digits, text = digits ++ rest ∧ SpellsUnit digits unit := by
  constructor
  · intro read
    rw [readUnit] at read
    split at read
    · cases read
    split at read
    · rename_i number
      obtain ⟨rfl, rfl⟩ := Prod.mk.inj (Except.ok.inj read)
      exact ⟨text.take 4, (List.take_append_drop 4 text).symm,
        spells_of_hexUnit? number⟩
    · cases read
  · rintro ⟨digits, rfl, spelled⟩
    have four := length_of_spells spelled
    have room : ¬ (String.ofList digits).utf8ByteSize < 4 := by
      have bound := length_le_utf8ByteSize digits
      omega
    rw [readUnit, List.take_left' four, List.drop_left' four]
    simp only [if_neg room, hexUnit?_of_spells spelled]

/-! ## Escapes -/

theorem shortEscaped?_eq_some_iff {letter char : Char} :
    shortEscaped? letter = some char ↔ (letter, char) ∈ shortEscapes := by
  constructor
  · intro escape
    simp only [shortEscapes, List.mem_cons, Prod.mk.injEq, List.not_mem_nil,
      or_false]
    unfold shortEscaped? at escape
    repeat' split at escape
    all_goals grind
  · intro listed
    exact (show ∀ entry ∈ shortEscapes, shortEscaped? entry.1 = some entry.2 by
      decide) (letter, char) listed

theorem u_not_short (char : Char) : ('u', char) ∉ shortEscapes := by
  intro listed
  exact (show ∀ entry ∈ shortEscapes, entry.1 ≠ 'u' by decide) _ listed rfl

theorem readMark_eq_ok_iff {mark : Char} {text rest : List Char} :
    readMark mark text = .ok rest ↔ text = mark :: rest := by
  cases text with
  | nil => simp [readMark]
  | cons char more =>
      rw [readMark]
      split
      · rename_i isMark
        rw [Except.ok.injEq, List.cons.injEq, isMark]
        exact ⟨fun same => ⟨rfl, same⟩, fun same => same.2⟩
      · rename_i notMark
        simp [notMark]

theorem readMarks_eq_ok_iff {text rest : List Char} :
    (readMark '\\' text >>= readMark 'u') = .ok rest ↔
      text = '\\' :: 'u' :: rest := by
  constructor
  · intro read
    cases first : readMark '\\' text with
    | error fault =>
        rw [first] at read
        cases read
    | ok marked =>
        rw [first] at read
        rw [readMark_eq_ok_iff.mp first, readMark_eq_ok_iff.mp read]
  · rintro rfl
    rfl

theorem isLeading_iff {unit : Nat} :
    isLeading unit = true ↔ 0xD800 ≤ unit ∧ unit ≤ 0xDBFF := by
  rw [isLeading, Bool.and_eq_true, decide_eq_true_iff, decide_eq_true_iff]

theorem isTrailing_iff {unit : Nat} :
    isTrailing unit = true ↔ 0xDC00 ≤ unit ∧ unit ≤ 0xDFFF := by
  rw [isTrailing, Bool.and_eq_true, decide_eq_true_iff, decide_eq_true_iff]

theorem readPair_eq_ok_iff {leading : Nat} {text rest : List Char}
    {char : Char} :
    readPair leading text = .ok (char, rest) ↔
      ∃ digits low, text = '\\' :: 'u' :: (digits ++ rest) ∧
        SpellsUnit digits low ∧ (0xDC00 ≤ low ∧ low ≤ 0xDFFF) ∧
        char = pairChar leading low := by
  constructor
  · intro read
    rw [readPair] at read
    split at read
    · cases read
    rename_i marked marks
    split at read
    · cases read
    rename_i low after unitRead
    split at read
    · rename_i trailing
      obtain ⟨rfl, rfl⟩ := Prod.mk.inj (Except.ok.inj read)
      obtain ⟨digits, rfl, spelled⟩ := readUnit_eq_ok_iff.mp unitRead
      exact ⟨digits, low, readMarks_eq_ok_iff.mp marks, spelled,
        isTrailing_iff.mp trailing, rfl⟩
    · cases read
  · rintro ⟨digits, low, rfl, spelled, isLow, isChar⟩
    rw [isChar, readPair, readMarks_eq_ok_iff.mpr rfl]
    dsimp only
    rw [readUnit_eq_ok_iff.mpr ⟨digits, rfl, spelled⟩]
    dsimp only
    rw [if_pos (isTrailing_iff.mpr isLow)]

theorem readCodeEscape_eq_ok_iff {text rest : List Char} {char : Char} :
    readCodeEscape text = .ok (char, rest) ↔
      ∃ spelled, text = spelled ++ rest ∧ Escapes ('u' :: spelled) char := by
  constructor
  · intro read
    rw [readCodeEscape] at read
    split at read
    · cases read
    rename_i unit after unitRead
    obtain ⟨digits, rfl, spelled⟩ := readUnit_eq_ok_iff.mp unitRead
    split at read
    · cases read
    rename_i notTrailing
    split at read
    · rename_i leading
      obtain ⟨lowDigits, low, rfl, spelledLow, isLow, isChar⟩ :=
        readPair_eq_ok_iff.mp read
      rw [isChar]
      refine ⟨digits ++ '\\' :: 'u' :: lowDigits, ?_,
        .pair spelled spelledLow (isLeading_iff.mp leading) isLow⟩
      rw [List.append_assoc]
      rfl
    · rename_i notLeading
      obtain ⟨rfl, rfl⟩ := Prod.mk.inj (Except.ok.inj read)
      rw [isTrailing_iff] at notTrailing
      rw [isLeading_iff] at notLeading
      exact ⟨digits, rfl, .unit spelled (by omega)⟩
  · rintro ⟨spelled, rfl, escape⟩
    cases escape with
    | short listed => exact absurd listed (u_not_short char)
    | unit spelledUnit noSurrogate =>
        rw [readCodeEscape, readUnit_eq_ok_iff.mpr ⟨_, rfl, spelledUnit⟩]
        dsimp only
        rw [if_neg (mt isTrailing_iff.mp (by omega)),
          if_neg (mt isLeading_iff.mp (by omega))]
    | @pair highDigits lowDigits high low spelledHigh spelledLow isHigh
        isLow =>
        have second : readPair high ('\\' :: 'u' :: (lowDigits ++ rest)) =
            .ok (pairChar high low, rest) :=
          readPair_eq_ok_iff.mpr ⟨lowDigits, low, rfl, spelledLow, isLow, rfl⟩
        rw [List.append_assoc, readCodeEscape,
          readUnit_eq_ok_iff.mpr ⟨_, rfl, spelledHigh⟩]
        dsimp only
        rw [if_neg (mt isTrailing_iff.mp (by omega)),
          if_pos (isLeading_iff.mpr isHigh)]
        exact second

/-- An escape is read exactly as the grammar has it. -/
theorem readEscape_eq_ok_iff {text rest : List Char} {char : Char} :
    readEscape text = .ok (char, rest) ↔
      ∃ spelled, text = spelled ++ rest ∧ Escapes spelled char := by
  constructor
  · intro read
    cases text with
    | nil => cases read
    | cons letter more =>
        rw [readEscape] at read
        split at read
        · rename_i isUnit
          subst isUnit
          obtain ⟨spelled, rfl, escape⟩ := readCodeEscape_eq_ok_iff.mp read
          exact ⟨'u' :: spelled, rfl, escape⟩
        split at read
        · rename_i denoted isShort
          obtain ⟨rfl, rfl⟩ := Prod.mk.inj (Except.ok.inj read)
          exact ⟨[letter], rfl, .short (shortEscaped?_eq_some_iff.mp isShort)⟩
        · cases read
  · rintro ⟨spelled, rfl, escape⟩
    have code {digits : List Char} (escape : Escapes ('u' :: digits) char) :
        readEscape ('u' :: (digits ++ rest)) = .ok (char, rest) := by
      rw [readEscape, if_pos rfl]
      exact readCodeEscape_eq_ok_iff.mpr ⟨digits, rfl, escape⟩
    cases escape with
    | @short letter _ listed =>
        have notUnit : letter ≠ 'u' := by
          rintro rfl
          exact u_not_short char listed
        show readEscape (letter :: rest) = _
        rw [readEscape, if_neg notUnit, shortEscaped?_eq_some_iff.mpr listed]
    | unit spelledUnit noSurrogate => exact code (.unit spelledUnit noSurrogate)
    | pair spelledHigh spelledLow isHigh isLow =>
        exact code (.pair spelledHigh spelledLow isHigh isLow)

/-! ## Literals -/

theorem denotes_of_readCharsOnto {taken text rest : List Char} {read : String}
    (isRead : readCharsOnto taken text = .ok (read, rest)) :
    ∃ body chars, text = body ++ '"' :: rest ∧ Denotes body chars ∧
      read = String.ofList (taken.reverse ++ chars) := by
  match text with
  | [] =>
      rw [readCharsOnto] at isRead
      cases isRead
  | char :: more =>
      rw [readCharsOnto] at isRead
      split at isRead
      · rename_i isQuote
        subst isQuote
        obtain ⟨rfl, rfl⟩ := Prod.mk.inj (Except.ok.inj isRead)
        exact ⟨[], [], rfl, .nil, by rw [List.append_nil]⟩
      rename_i notQuote
      split at isRead
      · rename_i isEscape
        subst isEscape
        split at isRead
        · cases isRead
        rename_i escaped next escapeRead
        have shorter := readEscape_length escapeRead
        obtain ⟨spelled, rfl, escape⟩ := readEscape_eq_ok_iff.mp escapeRead
        obtain ⟨body, chars, rfl, denotes, rfl⟩ :=
          denotes_of_readCharsOnto isRead
        refine ⟨'\\' :: (spelled ++ body), escaped :: chars, ?_,
          .escaped escape denotes, ?_⟩
        · rw [List.cons_append, List.append_assoc]
        · rw [List.reverse_cons, List.append_assoc]
          rfl
      rename_i notEscape
      split at isRead
      · cases isRead
      · rename_i notControl
        obtain ⟨body, chars, rfl, denotes, rfl⟩ :=
          denotes_of_readCharsOnto isRead
        refine ⟨char :: body, char :: chars, rfl,
          .plain (Nat.not_lt.mp notControl) notQuote notEscape denotes, ?_⟩
        rw [List.reverse_cons, List.append_assoc]
        rfl
termination_by text.length

private theorem readCharsOnto_of_denotes {body chars : List Char}
    (denotes : Denotes body chars) (taken rest : List Char) :
    readCharsOnto taken (body ++ '"' :: rest) =
      .ok (String.ofList (taken.reverse ++ chars), rest) := by
  induction denotes generalizing taken with
  | nil =>
      rw [List.nil_append, readCharsOnto, if_pos rfl, List.append_nil]
  | plain notControl notQuote notEscape _ inductionHypothesis =>
      rw [List.cons_append, readCharsOnto, if_neg notQuote, if_neg notEscape,
        if_neg (Nat.not_lt.mpr notControl), inductionHypothesis,
        List.reverse_cons, List.append_assoc]
      rfl
  | @escaped spelled body text char escape _ inductionHypothesis =>
      have read := readEscape_eq_ok_iff.mpr
        ⟨spelled, (rfl : spelled ++ (body ++ '"' :: rest) = _), escape⟩
      rw [List.cons_append, List.append_assoc, readCharsOnto,
        if_neg (by decide), if_pos rfl]
      split
      · rename_i failed
        rw [read] at failed
        cases failed
      · rename_i other next otherRead
        rw [read] at otherRead
        obtain ⟨rfl, rfl⟩ := Prod.mk.inj (Except.ok.inj otherRead)
        rw [inductionHypothesis, List.reverse_cons, List.append_assoc]
        rfl

/-- What is read behind an opening quote is what the grammar allows there. -/
theorem readLiteral_eq_ok_iff {text rest : List Char} {read : String} :
    readLiteral text = .ok (read, rest) ↔
      ∃ body, text = body ++ '"' :: rest ∧ Denotes body read.toList := by
  constructor
  · intro isRead
    obtain ⟨body, chars, split, denotes, rfl⟩ :=
      denotes_of_readCharsOnto isRead
    exact ⟨body, split, String.toList_ofList.symm ▸ denotes⟩
  · rintro ⟨body, rfl, denotes⟩
    rw [readLiteral, readCharsOnto_of_denotes denotes, List.reverse_nil,
      List.nil_append, String.ofList_toList]

/-- What stands between the quotes of a literal denotes one text. -/
theorem Denotes.unique {body first second : List Char}
    (isFirst : Denotes body first) (isSecond : Denotes body second) :
    first = second := by
  have read {text : List Char} (denotes : Denotes body text) :
      readLiteral (body ++ ['"']) = .ok (String.ofList text, []) := by
    rw [← String.toList_ofList (l := text)] at denotes
    exact readLiteral_eq_ok_iff.mpr ⟨body, rfl, denotes⟩
  have same := (read isFirst).symm.trans (read isSecond)
  exact String.ofList_injective (Prod.mk.inj (Except.ok.inj same)).1

/-! ## Written literals -/

private theorem shortEscape?_listed {char letter : Char}
    (escape : shortEscape? char = some letter) :
    (letter, char) ∈ shortEscapes := by
  simp only [shortEscapes, List.mem_cons, Prod.mk.injEq, List.not_mem_nil,
    or_false]
  unfold shortEscape? at escape
  repeat' split at escape
  all_goals grind

theorem hexDigit_listed {value : Nat} (small : value < 16) :
    (hexDigit value, value) ∈ hexDigits :=
  (show ∀ digit, digit < 16 → (hexDigit digit, digit) ∈ hexDigits by decide)
    value small

private theorem denotes_writeChar (char : Char) {body text : List Char}
    (rest : Denotes body text) :
    Denotes (writeChar char ++ body) (char :: text) := by
  rw [writeChar]
  split
  · rename_i letter escape
    exact .escaped (.short (shortEscape?_listed escape)) rest
  rename_i noEscape
  split
  · rename_i control
    have spelled := SpellsUnit.digits (hexDigit_listed (by decide : 0 < 16))
      (hexDigit_listed (by decide : 0 < 16))
      (hexDigit_listed (by omega : char.toNat / 16 < 16))
      (hexDigit_listed (by omega : char.toNat % 16 < 16))
    have same : 0 * 0x1000 + 0 * 0x100 + char.toNat / 16 * 0x10 +
        char.toNat % 16 = char.toNat := by omega
    rw [same] at spelled
    have escape := Escapes.unit spelled (by omega)
    rw [Char.ofNat_toNat] at escape
    exact .escaped escape rest
  · rename_i notControl
    refine .plain (Nat.not_lt.mp notControl) ?_ ?_ rest
    · rintro rfl
      cases noEscape
    · rintro rfl
      cases noEscape

theorem denotes_written (text : List Char) :
    Denotes (text.flatMap writeChar) text := by
  induction text with
  | nil => exact .nil
  | cons char text inductionHypothesis =>
      rw [List.flatMap_cons]
      exact denotes_writeChar char inductionHypothesis

/-- What is written for a text is a literal of it. -/
theorem isLiteral_writeText (text : String) :
    IsLiteral (String.ofList (writeText text)) text := by
  refine ⟨[], text.toList.flatMap writeChar, [], ?_, by simp [Blanks],
    denotes_written text.toList, by simp [Blanks]⟩
  rw [String.toList_ofList]
  rfl

/-! ## Blanks around a value -/

theorem isBlank_iff {char : Char} :
    isBlank char = true ↔ char ∈ [' ', '\t', '\n', '\r'] := by
  simp only [isBlank, Bool.or_eq_true, beq_iff_eq, List.mem_cons,
    List.not_mem_nil, or_false, or_assoc]

theorem skipBlank_append {before : List Char} (blanks : Blanks before)
    (rest : List Char) : skipBlank (before ++ rest) = skipBlank rest :=
  List.dropWhile_append_of_pos fun char member =>
    isBlank_iff.mpr (blanks char member)

/-- What is skipped is blank. -/
theorem skipBlank_split (text : List Char) :
    ∃ before, text = before ++ skipBlank text ∧ Blanks before := by
  refine ⟨text.takeWhile isBlank, ?_, fun char member => ?_⟩
  · rw [skipBlank, List.takeWhile_append_dropWhile]
  · exact isBlank_iff.mp (List.all_eq_true.mp List.all_takeWhile char member)

theorem skipBlank_eq_nil_iff {text : List Char} :
    skipBlank text = [] ↔ Blanks text := by
  constructor
  · intro nothing
    obtain ⟨before, split, blanks⟩ := skipBlank_split text
    rw [nothing, List.append_nil] at split
    exact split ▸ blanks
  · intro blanks
    rw [← List.append_nil text, skipBlank_append blanks]
    rfl

theorem skipBlank_eq_quote_iff {text rest : List Char} :
    skipBlank text = '"' :: rest ↔
      ∃ before, text = before ++ '"' :: rest ∧ Blanks before := by
  constructor
  · intro start
    obtain ⟨before, split, blanks⟩ := skipBlank_split text
    exact ⟨before, start ▸ split, blanks⟩
  · rintro ⟨before, rfl, blanks⟩
    rw [skipBlank_append blanks]
    rfl

theorem closeText_eq_ok_iff {α : Type} {reading : Reading α} {value : α} :
    closeText reading = .ok value ↔
      ∃ rest, reading = .ok (value, rest) ∧ Blanks rest := by
  cases reading with
  | error fault =>
      constructor
      · simp [closeText]
      · rintro ⟨rest, failed, _⟩
        cases failed
  | ok read =>
      obtain ⟨held, rest⟩ := read
      rw [closeText]
      split
      · rename_i ended
        have blanks := skipBlank_eq_nil_iff.mp ended
        constructor
        · rintro ⟨⟩
          exact ⟨rest, rfl, blanks⟩
        · rintro ⟨_, ⟨⟩, _⟩
          rfl
      · rename_i notEnded
        constructor
        · simp
        · rintro ⟨_, ⟨⟩, blanks⟩
          exact absurd (skipBlank_eq_nil_iff.mpr blanks) notEnded

end Parley.Json
