import Parley.Proofs.Json.Walk

/-!
Contract: the grammar of JSON values, whatever they are.

Blanks may stand between tokens. Lists and objects hold items and members with
commas between them, to any depth. Nothing is asked of keys and texts but that
they are spelled like literals: an escape by code unit may name half of a
surrogate pair, which denotes no character.

Owns: `Padded`, `Entry`, `Listed`, `Enclosed`, `IsBody` and `WellFormed`.
-/

namespace Parley.Json

variable {α : Type}

/-! ## Blanks around tokens -/

theorem Blanks.nil : Blanks [] :=
  fun _ absent => absurd absent List.not_mem_nil

theorem Blanks.space : Blanks [' '] := by
  intro char member
  rw [List.mem_singleton.mp member]
  decide

/-- Whether a text is another one with blanks around it. -/
def Padded (core text : List Char) : Prop :=
  ∃ before after, text = before ++ (core ++ after) ∧ Blanks before ∧
    Blanks after

/-- A member of an object as it is spelled: what stands between the quotes of its
key, and its value. -/
structure Entry where
  key : List Char
  value : List Char

/-- Whether a text is a member with blanks around its tokens. -/
def Entry.LaidOut (entry : Entry) (text : List Char) : Prop :=
  ∃ before behindKey behindColon after,
    text = before ++ '"' :: (entry.key ++ '"' :: (behindKey ++
      ':' :: (behindColon ++ (entry.value ++ after)))) ∧
    Blanks before ∧ Blanks behindKey ∧ Blanks behindColon ∧ Blanks after

theorem padded_self (core : List Char) : Padded core ([] ++ (core ++ [])) :=
  ⟨_, _, rfl, .nil, .nil⟩

theorem Entry.laidOut (entry : Entry)
    {before behindKey behindColon after : List Char} (areBefore : Blanks before)
    (areBehindKey : Blanks behindKey) (areBehindColon : Blanks behindColon)
    (areAfter : Blanks after) :
    entry.LaidOut (before ++ '"' :: (entry.key ++ '"' :: (behindKey ++
      ':' :: (behindColon ++ (entry.value ++ after))))) :=
  ⟨_, _, _, _, rfl, areBefore, areBehindKey, areBehindColon, areAfter⟩

/-- Whether a text is at least one part, and a comma between one part and the
next. How a part lies in its text is told by `lies`. -/
inductive Listed (lies : α → List Char → Prop) :
    List α → List Char → Prop where
  | last {part : α} {text : List Char} (isPart : lies part text) :
      Listed lies [part] text
  | next {part : α} {text : List Char} {parts : List α} {rest : List Char}
      (isPart : lies part text) (others : Listed lies parts rest) :
      Listed lies (part :: parts) (text ++ ',' :: rest)

/-- Whether a text is parts between two brackets. -/
inductive Enclosed (opening closing : Char) (lies : α → List Char → Prop) :
    List α → List Char → Prop where
  | empty {blanks : List Char} (areBlanks : Blanks blanks) :
      Enclosed opening closing lies [] (opening :: (blanks ++ [closing]))
  | parts {parts : List α} {text : List Char}
      (listed : Listed lies parts text) :
      Enclosed opening closing lies parts (opening :: (text ++ [closing]))

/-! ## Values -/

/-- What may stand between the quotes of a literal. -/
inductive IsBody : List Char → Prop where
  | nil : IsBody []
  | plain {char : Char} {body : List Char} (notControl : 0x20 ≤ char.toNat)
      (notQuote : char ≠ '"') (notEscape : char ≠ '\\') (rest : IsBody body) :
      IsBody (char :: body)
  | short {letter char : Char} {body : List Char}
      (listed : (letter, char) ∈ shortEscapes) (rest : IsBody body) :
      IsBody ('\\' :: letter :: body)
  | unit {digits body : List Char} {unit : Nat}
      (spelled : SpellsUnit digits unit) (rest : IsBody body) :
      IsBody ('\\' :: 'u' :: (digits ++ body))

/-- A value that holds no other values. -/
inductive IsScalar : List Char → Prop where
  | null : IsScalar ['n', 'u', 'l', 'l']
  | true : IsScalar ['t', 'r', 'u', 'e']
  | false : IsScalar ['f', 'a', 'l', 's', 'e']
  | number (numeral : Numeral) : IsScalar numeral.spelled
  | text {body : List Char} (isBody : IsBody body) :
      IsScalar ('"' :: (body ++ ['"']))

/-- The text of a value without blanks around it, however deep it nests. -/
inductive WellFormed : List Char → Prop where
  | scalar {text : List Char} (isScalar : IsScalar text) : WellFormed text
  | list {items : List (List Char)} {text : List Char}
      (enclosed : Enclosed '[' ']' Padded items text)
      (areWellFormed : ∀ item ∈ items, WellFormed item) : WellFormed text
  | object {entries : List Entry} {text : List Char}
      (enclosed : Enclosed '\x7b' '\x7d' Entry.LaidOut entries text)
      (areKeys : ∀ entry ∈ entries, IsBody entry.key)
      (areWellFormed : ∀ entry ∈ entries, WellFormed entry.value) :
      WellFormed text

/-! ## Starts of values -/

/-- Whether a text starts like a value. -/
def Begins (text : List Char) : Prop :=
  ∃ first more, text = first :: more ∧ StartsValue first

theorem Enclosed.opens {opening closing : Char}
    {lies : α → List Char → Prop} {parts : List α} {text : List Char}
    (enclosed : Enclosed opening closing lies parts text) :
    ∃ more, text = opening :: more := by
  cases enclosed with
  | empty => exact ⟨_, rfl⟩
  | parts => exact ⟨_, rfl⟩

theorem IsScalar.starts {text : List Char} (isScalar : IsScalar text) :
    ∃ first more, text = first :: more ∧ StartsValue first ∧ first ≠ '[' ∧
      first ≠ '\x7b' := by
  cases isScalar with
  | null => exact ⟨'n', _, rfl, .inr (by decide), by decide, by decide⟩
  | true => exact ⟨'t', _, rfl, .inr (by decide), by decide, by decide⟩
  | false => exact ⟨'f', _, rfl, .inr (by decide), by decide, by decide⟩
  | number numeral =>
      obtain ⟨first, more, spelled, isDigit | rfl⟩ := numeral.spelled_head
      · refine ⟨first, more, spelled, .inl isDigit, ?_, ?_⟩ <;>
          (rintro rfl; cases isDigit)
      · exact ⟨'-', more, spelled, .inr (by decide), by decide, by decide⟩
  | text isBody => exact ⟨'"', _, rfl, .inr (by decide), by decide, by decide⟩

theorem Numeral.begins (numeral : Numeral) : Begins numeral.spelled := by
  obtain ⟨first, more, opened, starts⟩ := numeral.spelled_head
  refine ⟨first, more, opened, starts.imp_right ?_⟩
  rintro rfl
  decide

/-- A value starts with a character that no blank and no bracket is. -/
theorem WellFormed.begins {text : List Char} (wellFormed : WellFormed text) :
    Begins text := by
  cases wellFormed with
  | scalar isScalar =>
      obtain ⟨first, more, split, starts, _⟩ := isScalar.starts
      exact ⟨first, more, split, starts⟩
  | list enclosed =>
      obtain ⟨more, opened⟩ := enclosed.opens
      exact ⟨'[', more, opened, .inr (by decide)⟩
  | object enclosed =>
      obtain ⟨more, opened⟩ := enclosed.opens
      exact ⟨'\x7b', more, opened, .inr (by decide)⟩

/-! ## What may follow a value -/

theorem separated_cons {char : Char} (isEnd : char ∈ [',', ']', '\x7d', ':'])
    (rest : List Char) : Separated (char :: rest) := by
  simp only [List.mem_cons, List.not_mem_nil, or_false] at isEnd
  rcases isEnd with rfl | rfl | rfl | rfl <;>
    exact ⟨rfl, by decide, by decide, by decide⟩

/-- Blanks end a value as well as what stands behind them. -/
theorem Separated.behind {blanks rest : List Char} (areBlanks : Blanks blanks)
    (separated : Separated rest) : Separated (blanks ++ rest) := by
  cases blanks with
  | nil => exact separated
  | cons blank blanks =>
      have isBlank := areBlanks blank List.mem_cons_self
      simp only [List.mem_cons, List.not_mem_nil, or_false] at isBlank
      rcases isBlank with rfl | rfl | rfl | rfl <;>
        exact ⟨rfl, by decide, by decide, by decide⟩

/-! ## Literals of texts -/

theorem Escapes.isBody {spelled body : List Char} {char : Char}
    (escape : Escapes spelled char) (isBody : IsBody body) :
    IsBody ('\\' :: (spelled ++ body)) := by
  cases escape with
  | short listed => exact .short listed isBody
  | unit spelled => exact .unit spelled isBody
  | @pair highDigits lowDigits high low spelledHigh spelledLow =>
      have low := IsBody.unit spelledLow isBody
      rw [List.cons_append, List.append_assoc]
      exact .unit spelledHigh low

/-- What denotes a text may stand between quotes. -/
theorem Denotes.isBody {body text : List Char} (denotes : Denotes body text) :
    IsBody body := by
  induction denotes with
  | nil => exact .nil
  | plain notControl notQuote notEscape _ isBody =>
      exact .plain notControl notQuote notEscape isBody
  | escaped escape _ isBody => exact escape.isBody isBody

/-- A text without characters to escape denotes itself. -/
theorem denotes_unescaped {text : List Char}
    (unescaped : text.flatMap writeChar = text) : Denotes text text := by
  have written := denotes_written text
  rwa [unescaped] at written

/-! ## Written objects -/

/-- A member as it is written. -/
def Entry.written (member : String × Value) : Entry :=
  ⟨member.1.toList.flatMap writeChar, member.2.write⟩

private theorem listed_written (member : String × Value)
    (members : List (String × Value)) :
    ∃ text, Listed Entry.LaidOut ((member :: members).map Entry.written) text ∧
      writeText member.1 ++ ':' :: (member.2.write ++ writeMembers members) =
        text ++ ['\x7d'] := by
  have entry (member : String × Value) :=
    (Entry.written member).laidOut .nil .nil .nil .nil
  induction members generalizing member with
  | nil =>
      refine ⟨_, .last (entry member), ?_⟩
      simp [Entry.written, writeText, writeMembers]
  | cons next members inductionHypothesis =>
      obtain ⟨rest, listed, same⟩ := inductionHypothesis next
      refine ⟨_, .next (entry member) listed, ?_⟩
      rw [writeMembers, same]
      simp [Entry.written, writeText]

/-- A written object is laid out without blanks. -/
theorem enclosed_written (members : List (String × Value)) :
    Enclosed '\x7b' '\x7d' Entry.LaidOut (members.map Entry.written)
      (Value.object members).write := by
  cases members with
  | nil => exact .empty .nil
  | cons member members =>
      obtain ⟨text, listed, same⟩ := listed_written member members
      rw [Value.write, same]
      exact .parts listed

end Parley.Json
