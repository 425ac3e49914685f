import Parley.Proofs.Json.Grammar

/-!
Contract: what is passed over is exactly one value.

A value that nobody asked for is passed over up to its end, however deep it
nests, with the frames that are open around it unchanged.

Owns: how literals, numbers and well-formed values are passed over.
-/

namespace Parley.Json

variable {α : Type}

/-! ## Scalars -/

private theorem skipEscape_short {letter char : Char}
    (listed : (letter, char) ∈ shortEscapes) (rest : List Char) :
    skipEscape (letter :: rest) = .ok rest := by
  have notUnit : letter ≠ 'u' := by
    rintro rfl
    exact u_not_short char listed
  rw [skipEscape, if_neg notUnit, shortEscaped?_eq_some_iff.mpr listed]
  rfl

private theorem skipEscape_unit {digits : List Char} {unit : Nat}
    (spelled : SpellsUnit digits unit) (rest : List Char) :
    skipEscape ('u' :: (digits ++ rest)) = .ok rest := by
  rw [skipEscape, if_pos rfl, readUnit_eq_ok_iff.mpr ⟨digits, rfl, spelled⟩]
  rfl

theorem skipLiteral_escape {spelled rest : List Char}
    (skipped : skipEscape spelled = .ok rest) :
    skipLiteral ('\\' :: spelled) = skipLiteral rest := by
  rw [skipLiteral, if_neg (by decide), if_pos rfl]
  split
  · rename_i failed
    rw [skipped] at failed
    cases failed
  · rename_i next passed
    rw [skipped] at passed
    cases passed
    rfl

/-- A literal is passed over up to its closing quote. -/
theorem skipLiteral_body {body : List Char} (isBody : IsBody body)
    (rest : List Char) : skipLiteral (body ++ '"' :: rest) = .ok rest := by
  induction isBody with
  | nil =>
      rw [List.nil_append, skipLiteral]
      rfl
  | plain notControl notQuote notEscape _ inductionHypothesis =>
      rw [List.cons_append, skipLiteral, if_neg notQuote, if_neg notEscape,
        if_neg (Nat.not_lt.mpr notControl)]
      exact inductionHypothesis
  | short listed _ inductionHypothesis =>
      rw [List.cons_append, List.cons_append,
        skipLiteral_escape (skipEscape_short listed _)]
      exact inductionHypothesis
  | unit spelled _ inductionHypothesis =>
      rw [List.cons_append, List.cons_append, List.append_assoc,
        skipLiteral_escape (skipEscape_unit spelled _)]
      exact inductionHypothesis

private theorem skipOptionalExponent_scale {exponent : Option Exponent}
    {rest : List Char} (ended : startsWithDigit rest = false)
    (noExponent : exponent = none → StartsWithout ['e', 'E'] rest) :
    skipOptionalExponent (Numeral.scale exponent ++ rest) = .ok rest := by
  cases exponent with
  | none =>
      have without := noExponent rfl
      cases rest with
      | nil => rfl
      | cons char rest =>
          simp only [StartsWithout, List.mem_cons, List.not_mem_nil,
            or_false] at without
          show skipOptionalExponent (char :: rest) = _
          rw [skipOptionalExponent, if_neg without]
  | some exponent =>
      have starts : startsWithDigit (exponent.digits ++ rest) = true := by
        rw [startsWithDigit_append exponent.areDigits ended, Bool.not_eq_true',
          List.isEmpty_eq_false_iff]
        exact exponent.notEmpty
      rw [Numeral.scale, List.cons_append, skipOptionalExponent,
        if_pos exponent.isMarker, skipExponent, exponentSign_signed]
      dsimp only
      rw [if_pos starts, (dropDigits_append exponent.areDigits ended).1]

private theorem skipAfterWhole_pointed {places : List Char}
    (arePlaces : Digits places)
    {exponent : Option Exponent} {rest : List Char}
    (ends : EndsBefore places exponent rest) :
    skipAfterWhole
      (Numeral.pointed places ++ (Numeral.scale exponent ++ rest)) =
        .ok rest := by
  have scaled := skipOptionalExponent_scale ends.noDigit ends.noExponent
  have ended := scale_ended exponent ends.noDigit
  cases places with
  | nil =>
      -- Without places, what follows is no point.
      rw [Numeral.pointed, List.nil_append]
      cases isTail : Numeral.scale exponent ++ rest with
      | nil =>
          rw [isTail] at scaled
          exact scaled
      | cons char tail =>
          have notPoint : char ≠ '.' := by
            rintro rfl
            cases exponent with
            | none =>
                rw [Numeral.scale, List.nil_append] at isTail
                have without := ends.noPoint rfl rfl
                rw [isTail] at without
                exact without List.mem_cons_self
            | some exponent =>
                have isMarker := exponent.isMarker
                rw [(List.cons.inj isTail).1] at isMarker
                revert isMarker
                decide
          rw [isTail] at scaled
          rw [skipAfterWhole, if_neg notPoint]
          exact scaled
  | cons place places =>
      have starts : startsWithDigit
          (place :: places ++ (Numeral.scale exponent ++ rest)) = true :=
        arePlaces place List.mem_cons_self
      rw [Numeral.pointed, List.cons_append, skipAfterWhole, if_pos rfl,
        if_pos starts, (dropDigits_append arePlaces ended).1]
      exact scaled

private theorem skipMagnitude_magnitude (numeral : Numeral) {rest : List Char}
    (ends : EndsBefore numeral.places numeral.exponent rest) :
    skipMagnitude (numeral.magnitude ++ rest) = .ok rest := by
  have behind := skipAfterWhole_pointed numeral.arePlaces ends
  have ended : startsWithDigit (Numeral.pointed numeral.places ++
      (Numeral.scale numeral.exponent ++ rest)) = false :=
    pointed_ended ends.noDigit
  have areDigits := numeral.areDigits
  rw [Numeral.magnitude, List.append_assoc, List.append_assoc]
  rcases numeral.noSpareZero with isZero | ⟨first, more, split, notZero⟩
  · rw [isZero, List.singleton_append, skipMagnitude, if_pos rfl, ended,
      if_neg Bool.false_ne_true]
    exact behind
  · rw [split] at areDigits ⊢
    have areDigitsToo : Digits more := fun digit member =>
      areDigits digit (List.mem_cons_of_mem _ member)
    rw [List.cons_append, skipMagnitude, if_neg notZero,
      if_pos (areDigits first List.mem_cons_self),
      (dropDigits_append areDigitsToo ended).1]
    exact behind

/-- A number is passed over up to where it ends. -/
theorem skipScalar_number (numeral : Numeral) {rest : List Char}
    (ends : EndsBefore numeral.places numeral.exponent rest) :
    skipScalar (numeral.spelled ++ rest) = .ok rest := by
  have magnitude := skipMagnitude_magnitude numeral ends
  unfold Numeral.spelled
  split
  · exact magnitude
  · obtain ⟨first, more, split, isDigit⟩ := numeral.magnitude_head
    have noWord : ∀ letter ∈ ['n', 't', 'f', '"', '-'], first ≠ letter := by
      rintro letter member rfl
      simp only [List.mem_cons, List.not_mem_nil, or_false] at member
      rcases member with rfl | rfl | rfl | rfl | rfl <;> cases isDigit
    simp only [List.forall_mem_cons] at noWord
    obtain ⟨notNull, notTrue, notFalse, notQuote, notSign, _⟩ := noWord
    rw [split, List.cons_append] at magnitude ⊢
    rw [skipScalar, if_neg notNull, if_neg notTrue, if_neg notFalse,
      if_neg notQuote, if_neg notSign, if_pos isDigit]
    exact magnitude

private theorem skipScalar_text {body : List Char} (isBody : IsBody body)
    (rest : List Char) :
    skipScalar ('"' :: (body ++ '"' :: rest)) = .ok rest :=
  skipLiteral_body isBody rest

theorem IsScalar.skipped {text : List Char} (isScalar : IsScalar text)
    {rest : List Char} (separated : Separated rest) :
    skipScalar (text ++ rest) = .ok rest := by
  cases isScalar with
  | null | true | false => rfl
  | number numeral => exact skipScalar_number numeral (separated.endsBefore _ _)
  | text isBody =>
      rw [List.cons_append, List.append_assoc]
      exact skipScalar_text isBody rest

/-! ## Frames -/

/-- The character that starts a frame. -/
def Frame.opening : Frame → Char
  | .list => '['
  | .object => '\x7b'

private theorem Frame.closing_ne_comma (frame : Frame) :
    frame.closing ≠ ',' := by
  cases frame <;> decide

theorem Frame.closing_not_blank (frame : Frame) :
    isBlank frame.closing = false := by
  cases frame <;> decide

/-- Passes over an entry of a frame and over what is left of the open frames. -/
def skipEntry (frame : Frame) (frames : List Frame) (text : List Char) :
    Except Fault (List Char) :=
  frame.enterEntry text >>= skipInside (frame :: frames)

section Steps

variable {frame : Frame} {frames : List Frame} {text rest : List Char}
  {first : Char}

theorem skipInside_nil (empty : skipBlank text = []) :
    skipInside frames text = .error (.upon .endOfValue []) := by
  rw [skipInside]
  split
  · rfl
  · rename_i found
    rw [empty] at found
    cases found

theorem skipInside_cons (starts : skipBlank text = first :: rest) :
    skipInside frames text =
      if first = '[' then skipOpened .list frames rest
      else if first = '\x7b' then skipOpened .object frames rest
      else skipScalar (first :: rest) >>= skipOut frames := by
  rw [skipInside]
  split
  · rename_i empty
    rw [starts] at empty
    cases empty
  · rename_i char tail found
    rw [starts] at found
    cases found
    dsimp only
    congr 2
    split <;> rename_i skipped <;> rw [skipped] <;> rfl

theorem skipInside_frame (starts : skipBlank text = frame.opening :: rest) :
    skipInside frames text = skipOpened frame frames rest := by
  rw [skipInside_cons starts]
  cases frame <;> rfl

theorem skipOpened_cons (starts : skipBlank text = first :: rest) :
    skipOpened frame frames text =
      if first = frame.closing then skipOut frames rest
      else skipEntry frame frames (first :: rest) := by
  rw [skipOpened]
  split
  · rename_i empty
    rw [starts] at empty
    cases empty
  · rename_i char tail found
    rw [starts] at found
    cases found
    dsimp only
    congr 1
    rw [skipEntry]
    split <;> rename_i entered <;> rw [entered] <;> rfl

theorem skipOut_nil (empty : skipBlank text = []) :
    skipOut (frame :: frames) text = .error (.upon frame.unfinished []) := by
  rw [skipOut]
  split
  · rfl
  · rename_i found
    rw [empty] at found
    cases found

theorem skipOut_cons (starts : skipBlank text = first :: rest) :
    skipOut (frame :: frames) text =
      if first = ',' then skipEntry frame frames rest
      else if first = frame.closing then skipOut frames rest
      else .error (.upon frame.missingComma (first :: rest)) := by
  rw [skipOut]
  split
  · rename_i empty
    rw [starts] at empty
    cases empty
  · rename_i char tail found
    rw [starts] at found
    cases found
    dsimp only
    congr 1
    rw [skipEntry]
    split <;> rename_i entered <;> rw [entered] <;> rfl

/-- Blanks in front of a value do not count. -/
theorem skipInside_blanks {blanks : List Char} (areBlanks : Blanks blanks) :
    skipInside frames (blanks ++ text) = skipInside frames text := by
  have same := skipBlank_append areBlanks text
  cases found : skipBlank text with
  | nil => rw [skipInside_nil found, skipInside_nil (same.trans found)]
  | cons first more =>
      rw [skipInside_cons found, skipInside_cons (same.trans found)]

private theorem skipKey_blanks {blanks : List Char} (areBlanks : Blanks blanks)
    (text : List Char) : skipKey (blanks ++ text) = skipKey text := by
  unfold skipKey
  rw [skipBlank_append areBlanks]

theorem skipEntry_blanks {blanks : List Char} (areBlanks : Blanks blanks) :
    skipEntry frame frames (blanks ++ text) = skipEntry frame frames text := by
  cases frame with
  | list => exact skipInside_blanks areBlanks
  | object =>
      unfold skipEntry Frame.enterEntry
      dsimp only
      rw [skipKey_blanks areBlanks]

private theorem skipOut_comma :
    skipOut (frame :: frames) (',' :: rest) = skipEntry frame frames rest := by
  rw [skipOut_cons (skipBlank_of_not (by decide) rest), if_pos rfl]

private theorem skipOut_closing :
    skipOut (frame :: frames) (frame.closing :: rest) = skipOut frames rest := by
  rw [skipOut_cons (skipBlank_of_not frame.closing_not_blank rest),
    if_neg frame.closing_ne_comma, if_pos rfl]

/-- Blanks in front of a comma or of the end of a frame do not count. -/
theorem skipOut_blanks {blanks : List Char} (areBlanks : Blanks blanks) :
    skipOut (frame :: frames) (blanks ++ rest) =
      skipOut (frame :: frames) rest := by
  have same := skipBlank_append areBlanks rest
  cases found : skipBlank rest with
  | nil => rw [skipOut_nil found, skipOut_nil (same.trans found)]
  | cons first more =>
      rw [skipOut_cons found, skipOut_cons (same.trans found)]

end Steps

/-! ## Entries of a frame -/

/-- Whether a text is passed over as an entry of a frame, whatever follows that
ends it. -/
structure Passes (frame : Frame) (text : List Char) : Prop where
  starts : ∃ blanks first more, text = blanks ++ first :: more ∧
    Blanks blanks ∧ isBlank first = false ∧ first ≠ frame.closing
  passed : ∀ frames rest, Separated rest →
    skipEntry frame frames (text ++ rest) = skipOut (frame :: frames) rest

/-- A frame that does not end at once is entered. -/
theorem Passes.opened {frame : Frame} {text : List Char}
    (passes : Passes frame text) (frames : List Frame) (rest : List Char) :
    skipOpened frame frames (text ++ rest) =
      skipEntry frame frames (text ++ rest) := by
  obtain ⟨blanks, first, more, rfl, areBlanks, notBlank, goesOn⟩ :=
    passes.starts
  rw [List.append_assoc, List.cons_append]
  rw [skipOpened_cons (skipBlank_blanks areBlanks notBlank _), if_neg goesOn, skipEntry_blanks areBlanks]

/-- Entries with commas between them are passed over up to the end of their
frame. -/
theorem Listed.passed {frame : Frame} {lies : α → List Char → Prop}
    {parts : List α} {text : List Char} (listed : Listed lies parts text)
    (passes : ∀ part ∈ parts, ∀ text, lies part text → Passes frame text)
    (frames : List Frame) (rest : List Char) :
    skipEntry frame frames (text ++ frame.closing :: rest) =
      skipOut frames rest := by
  induction listed with
  | @last part text isPart =>
      have closes : Separated (frame.closing :: rest) := by
        cases frame <;> exact separated_cons (by decide) rest
      rw [(passes part List.mem_cons_self text isPart).passed frames _ closes]
      exact skipOut_closing
  | @next part text parts others isPart _ inductionHypothesis =>
      rw [List.append_assoc, List.cons_append,
        (passes part List.mem_cons_self text isPart).passed frames _
          (separated_cons (by decide) _),
        skipOut_comma]
      exact inductionHypothesis fun other member =>
        passes other (List.mem_cons_of_mem _ member)

theorem Listed.first {lies : α → List Char → Prop} {parts : List α}
    {text : List Char} (listed : Listed lies parts text) :
    ∃ part ∈ parts, ∃ front back, lies part front ∧ text = front ++ back := by
  cases listed with
  | last isPart =>
      exact ⟨_, List.mem_cons_self, _, [], isPart, (List.append_nil _).symm⟩
  | next isPart => exact ⟨_, List.mem_cons_self, _, _, isPart, rfl⟩

/-- A frame is passed over from its opening to its end. -/
theorem Enclosed.passed {frame : Frame} {lies : α → List Char → Prop}
    {parts : List α} {text : List Char}
    (enclosed : Enclosed frame.opening frame.closing lies parts text)
    (passes : ∀ part ∈ parts, ∀ text, lies part text → Passes frame text)
    (frames : List Frame) (rest : List Char) :
    skipInside frames (text ++ rest) = skipOut frames rest := by
  have notBlank : isBlank frame.opening = false := by cases frame <;> decide
  have opened (inside : List Char) :
      skipInside frames (frame.opening :: (inside ++ [frame.closing]) ++ rest) =
        skipOpened frame frames (inside ++ frame.closing :: rest) := by
    rw [List.cons_append, List.append_assoc]
    exact skipInside_frame (skipBlank_of_not notBlank _)
  cases enclosed with
  | @empty blanks areBlanks =>
      rw [opened, skipOpened_cons
        (skipBlank_blanks areBlanks frame.closing_not_blank rest), if_pos rfl]
  | @parts _ text listed =>
      obtain ⟨part, isPart, front, back, lies, split⟩ := listed.first
      rw [opened, ← listed.passed passes frames rest, split,
        List.append_assoc]
      exact (passes part isPart front lies).opened frames _

/-! ## Values -/

/-- Whether a text is passed over as a value, whatever follows that ends it. -/
def Skips (text : List Char) : Prop :=
  ∀ frames rest, Separated rest →
    skipInside frames (text ++ rest) = skipOut frames rest

theorem IsScalar.skips {text : List Char} (isScalar : IsScalar text) :
    Skips text := by
  intro frames rest separated
  obtain ⟨first, more, split, starts, notList, notObject⟩ := isScalar.starts
  have skipped := isScalar.skipped separated
  rw [split, List.cons_append] at skipped ⊢
  rw [skipInside_cons (skipBlank_value starts _), if_neg notList,
    if_neg notObject, skipped]
  rfl

/-- An item is passed over with the blanks around it. -/
theorem Skips.item {item text : List Char} (skips : Skips item)
    (begins : Begins item) (padded : Padded item text) : Passes .list text := by
  obtain ⟨before, after, rfl, areBefore, areAfter⟩ := padded
  constructor
  · obtain ⟨first, more, rfl, starts⟩ := begins
    exact ⟨before, first, more ++ after, rfl, areBefore, starts.not_blank,
      starts.ne_closing⟩
  · intro frames rest separated
    rw [List.append_assoc, List.append_assoc, skipEntry_blanks areBefore]
    show skipInside (.list :: frames) (item ++ (after ++ rest)) = _
    rw [skips _ _ (separated.behind areAfter), skipOut_blanks areAfter]

theorem readColon_blanks {blanks : List Char} (areBlanks : Blanks blanks)
    (rest : List Char) : readColon (blanks ++ ':' :: rest) = .ok rest := by
  unfold readColon
  rw [skipBlank_blanks areBlanks (by decide)]
  rfl

/-- A member is passed over with the blanks around its tokens. -/
theorem Skips.entry {entry : Entry} {text : List Char}
    (skips : Skips entry.value) (isKey : IsBody entry.key)
    (laidOut : entry.LaidOut text) : Passes .object text := by
  obtain ⟨before, behindKey, behindColon, after, rfl, areBefore, areBehindKey,
    areBehindColon, areAfter⟩ := laidOut
  constructor
  · exact ⟨before, '"', _, rfl, areBefore, by decide, by decide⟩
  · intro frames rest separated
    simp only [List.append_assoc, List.cons_append]
    rw [skipEntry_blanks areBefore]
    show (skipKey ('"' :: (entry.key ++ '"' :: (behindKey ++ ':' ::
      (behindColon ++ (entry.value ++ (after ++ rest)))))) >>=
        skipInside (.object :: frames)) = _
    have key : skipKey ('"' :: (entry.key ++ '"' :: (behindKey ++ ':' ::
        (behindColon ++ (entry.value ++ (after ++ rest)))))) =
          .ok (behindColon ++ (entry.value ++ (after ++ rest))) := by
      rw [skipKey, skipBlank_of_not (by decide)]
      dsimp only
      rw [if_pos rfl, skipLiteral_body isKey]
      exact readColon_blanks areBehindKey _
    rw [key]
    show skipInside (.object :: frames)
      (behindColon ++ (entry.value ++ (after ++ rest))) = _
    rw [skipInside_blanks areBehindColon,
      skips _ _ (separated.behind areAfter), skipOut_blanks areAfter]

/-- A well-formed value is passed over and nothing else, whatever frames are open
around it. -/
theorem WellFormed.skips {text : List Char} (wellFormed : WellFormed text) :
    Skips text := by
  induction wellFormed with
  | scalar isScalar => exact isScalar.skips
  | @list items text enclosed areWellFormed inductionHypothesis =>
      have isFrame : Enclosed Frame.list.opening Frame.list.closing Padded items
          text := enclosed
      exact fun frames rest _ => isFrame.passed
        (fun item member text padded => (inductionHypothesis item member).item
          (areWellFormed item member).begins padded) frames rest
  | @object entries text enclosed areKeys _ inductionHypothesis =>
      have isFrame : Enclosed Frame.object.opening Frame.object.closing
          Entry.LaidOut entries text := enclosed
      exact fun frames rest _ => isFrame.passed
        (fun entry member text laidOut => (inductionHypothesis entry member).entry
          (areKeys entry member) laidOut) frames rest

theorem WellFormed.skipValue {text : List Char} (wellFormed : WellFormed text)
    {before rest : List Char} (areBlanks : Blanks before)
    (separated : Separated rest) :
    Json.skipValue (before ++ (text ++ rest)) = .ok rest := by
  rw [Json.skipValue, skipInside_blanks areBlanks,
    wellFormed.skips _ _ separated, skipOut]

end Parley.Json
