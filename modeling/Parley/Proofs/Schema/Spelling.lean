import Parley.Proofs.Json.LaidOut
import Parley.Proofs.Outcome
import Parley.Proofs.Schema.Reader

/-!
Contract: values are read from every text that spells them.

A text may be escaped in any way, and blanks may stand between the items of a
list. An integer and a truth value have one spelling each.

Owns: `SpellsText` and the other spellings of values, `Reader.Parses`, and how
scalars, optional values and lists are read from their spellings.
-/

namespace Parley.Schema

open Parley.Json (Begins Blanks Denotes Enclosed ItemParses Padded Separated
  WellFormed readScalar?)

variable {α β : Type}

/-! ## Spellings -/

/-- Whether a JSON text is a literal of a text. -/
def SpellsText (value : String) (text : List Char) : Prop :=
  ∃ body, text = '"' :: (body ++ ['"']) ∧ Denotes body value.toList

def SpellsInteger (value : Int) (text : List Char) : Prop :=
  text = (toString value).toList

/-- Whether a JSON text is a number that is read back as a value. -/
def SpellsSingle (value : Numeric.Single) (text : List Char) : Prop :=
  ∃ numeral : Json.Numeral, text = numeral.spelled ∧
    Codec.single.parse (String.ofList text) = .ok value

/-- Whether a JSON text is the word of a truth value. -/
def SpellsBoolean (value : Bool) (text : List Char) : Prop :=
  text = (toString value).toList

/-- Whether a JSON text is `null` for no value, and a spelling of the value
otherwise. -/
def SpellsOptional (spells : α → List Char → Prop) :
    Option α → List Char → Prop
  | none, text => text = ['n', 'u', 'l', 'l']
  | some value, text => spells value text

/-- Whether a JSON text is a list whose items spell the values. -/
def SpellsList (spells : α → List Char → Prop) (values : List α)
    (text : List Char) : Prop :=
  ∃ items, Enclosed '[' ']' Padded items text ∧
    List.Forall₂ (fun item value => spells value item) items values

/-! ## Readers of spellings -/

/-- Whether a reader reads a text as a value and stops behind it, if at least
`depth` containers may be opened. -/
def Reader.Parses (reader : Reader α) (depth : Nat) (text : List Char)
    (value : α) : Prop :=
  ∀ allowance, depth ≤ allowance →
    Json.Parses (reader.text allowance) text value

theorem Reader.Parses.mono {reader : Reader α} {depth deeper : Nat}
    {text : List Char} {value : α} (parses : reader.Parses depth text value)
    (atMost : depth ≤ deeper) : reader.Parses deeper text value :=
  fun allowance enough => parses allowance (Nat.le_trans atMost enough)

theorem Reader.Parses.map {reader : Reader α} {depth : Nat} {text : List Char}
    {value : α} (parses : reader.Parses depth text value)
    (transform : α → β) :
    (reader.map transform).Parses depth text (transform value) := by
  intro allowance enough before rest areBlanks separated
  show (reader.text allowance (before ++ (text ++ rest))).map _ = _
  rw [parses allowance enough before rest areBlanks separated]
  rfl

/-- A whole text is read with the blanks around what spells the value. -/
theorem Codec.parse_padded {codec : Codec α} {depth : Nat} {core : List Char}
    {value : α} (parses : codec.toReader.Parses depth core value)
    (shallow : depth ≤ Json.depthLimit) {text : List Char}
    (padded : Padded core text) :
    codec.parse (String.ofList text) = .ok value := by
  obtain ⟨before, after, rfl, areBefore, areAfter⟩ := padded
  have ended : Separated after := by
    rw [← List.append_nil after]
    exact Separated.behind areAfter trivial
  have isRead := parses Json.depthLimit shallow before after areBefore ended
  have closed : Json.closeText (codec.text Json.depthLimit
      (before ++ (core ++ after))) = .ok value :=
    Json.closeText_eq_ok_iff.mpr ⟨after, isRead, areAfter⟩
  rw [Codec.parse, String.toList_ofList, closed]
  rfl

/-! ## Scalars -/

/-- A scalar type takes what is read where its values stand. -/
theorem ScalarType.parses {type : ScalarType α} {held : Json.Value} {value : α}
    {text : List Char} (begins : Begins text)
    (isRead : ∀ rest, Separated rest →
      readScalar? (text ++ rest) = some (.ok (held, rest)))
    (accepted : type.accept held.found = .ok value) :
    type.reader.Parses 0 text value := by
  intro allowance _ before rest areBlanks separated
  have isRead := isRead rest separated
  obtain ⟨first, more, rfl, starts⟩ := begins
  rw [List.cons_append] at isRead ⊢
  show type.readText (before ++ first :: (more ++ rest)) = _
  unfold ScalarType.readText
  rw [Json.skipBlank_blanks areBlanks starts.not_blank]
  dsimp only
  unfold ScalarType.readStart
  rw [isRead]
  dsimp only
  rw [accepted]

theorem SpellsText.begins {value : String} {text : List Char}
    (spells : SpellsText value text) : Begins text := by
  obtain ⟨body, rfl, _⟩ := spells
  exact ⟨'"', _, rfl, .inr (by decide)⟩

/-- A literal is read as the text that it denotes. -/
theorem readScalar?_literal {body : List Char} {value : String}
    (denotes : Denotes body value.toList) (rest : List Char) :
    readScalar? ('"' :: (body ++ '"' :: rest)) =
      some (.ok (.text value, rest)) := by
  show some ((Json.readLiteral (body ++ '"' :: rest)).map _) = _
  rw [Json.readLiteral_eq_ok_iff.mpr ⟨body, rfl, denotes⟩]
  rfl

namespace SpellsText

variable {value : String} {text : List Char}

theorem isRead (spells : SpellsText value text) (rest : List Char) :
    readScalar? (text ++ rest) = some (.ok (.text value, rest)) := by
  obtain ⟨body, rfl, denotes⟩ := spells
  rw [List.cons_append, List.append_assoc]
  exact readScalar?_literal denotes rest

theorem wellFormed (spells : SpellsText value text) : WellFormed text := by
  obtain ⟨body, rfl, denotes⟩ := spells
  exact .scalar (.text denotes.isBody)

theorem parses (spells : SpellsText value text) :
    Codec.plainText.toReader.Parses 0 text value :=
  ScalarType.parses spells.begins (fun rest _ => spells.isRead rest) rfl

end SpellsText

namespace SpellsInteger

theorem numeral {value : Int} {text : List Char}
    (spells : SpellsInteger value text) :
    text = (Json.Numeral.ofInt value).spelled :=
  spells.trans (Json.write_integer value)

theorem begins {value : Int} {text : List Char}
    (spells : SpellsInteger value text) : Begins text := by
  rw [spells.numeral]
  exact Json.Numeral.begins _

theorem isRead {value : Int} {text : List Char}
    (spells : SpellsInteger value text) (fits : Json.Fits64 value)
    {rest : List Char} (separated : Separated rest) :
    readScalar? (text ++ rest) =
      some (.ok (.number (.integer value), rest)) := by
  rw [spells.numeral]
  exact Json.readScalar?_spelled (Json.Numeral.value?_ofInt fits) separated

theorem wellFormed {value : Int} {text : List Char}
    (spells : SpellsInteger value text) : WellFormed text := by
  rw [spells.numeral]
  exact .scalar (.number _)

theorem parses_u32 {value : UInt32} {text : List Char}
    (spells : SpellsInteger value.toNat text) :
    Codec.u32.toReader.Parses 0 text value := by
  have small : value.toNat < UInt64.size :=
    Nat.lt_trans value.toNat_lt (by decide)
  exact ScalarType.parses spells.begins
    (fun _ => spells.isRead (Codec.fits64_of_lt small))
    (Codec.u32_accepts value)

theorem parses_u64 {value : UInt64} {text : List Char}
    (spells : SpellsInteger value.toNat text) :
    Codec.u64.toReader.Parses 0 text value :=
  ScalarType.parses spells.begins
    (fun _ => spells.isRead (Codec.fits64_of_lt value.toNat_lt))
    (Codec.u64_accepts value)

theorem parses_i64 {value : Int64} {text : List Char}
    (spells : SpellsInteger value.toInt text) :
    Codec.i64.toReader.Parses 0 text value :=
  ScalarType.parses spells.begins
    (fun _ => spells.isRead (.inl (Codec.fitsSigned_toInt value)))
    (Codec.i64_accepts value)

end SpellsInteger

namespace SpellsSingle

variable {value : Numeric.Single} {text : List Char}

theorem begins (spells : SpellsSingle value text) :
    ∃ first more, text = first :: more ∧ Json.StartsValue first ∧
      first ≠ 'n' := by
  obtain ⟨numeral, rfl, _⟩ := spells
  obtain ⟨first, more, opened, starts⟩ := numeral.spelled_head
  refine ⟨first, more, opened, starts.imp_right ?_, ?_⟩
  · rintro rfl
    decide
  · rintro rfl
    exact absurd starts (by decide)

theorem wellFormed (spells : SpellsSingle value text) : WellFormed text := by
  obtain ⟨numeral, rfl, _⟩ := spells
  exact .scalar (.number numeral)

/-- A number that is read back alone is read wherever it stands. -/
theorem parses (spells : SpellsSingle value text) :
    Codec.single.toReader.Parses 0 text value := by
  obtain ⟨first, more, opened, starts, _⟩ := spells.begins
  obtain ⟨numeral, rfl, readsBack⟩ := spells
  rw [Codec.parse, Outcome.mapError_eq_ok_iff, String.toList_ofList] at readsBack
  obtain ⟨after, isRead, _⟩ := Json.closeText_eq_ok_iff.mp readsBack
  obtain ⟨held, isScalar, accepted⟩ := ScalarType.read_of_readText isRead
  rw [opened, Json.skipBlank_value starts, ← opened,
    ← List.append_nil numeral.spelled, Json.readScalar?_numeral] at isScalar
  obtain ⟨⟨number, _⟩, isNumber, same⟩ :=
    Outcome.map_eq_ok_iff.mp (Option.some.inj isScalar)
  cases same
  have ended : Separated [] := trivial
  have isValue :=
    ((Json.readNumber_spelled numeral (ended.endsBefore _ _)).mp isNumber).1
  exact ScalarType.parses numeral.begins
    (fun _ => Json.readScalar?_spelled isValue) accepted

end SpellsSingle

theorem SpellsBoolean.parses {value : Bool} {text : List Char}
    (spells : SpellsBoolean value text) :
    Codec.boolean.toReader.Parses 0 text value := by
  obtain rfl : text = (toString value).toList := spells
  cases value with
  | true =>
      have isRead (rest : List Char) (_ : Separated rest) :
          readScalar? ("true".toList ++ rest) =
            some (.ok (.boolean true, rest)) := rfl
      exact ScalarType.parses ⟨'t', _, rfl, .inr (by decide)⟩ isRead rfl
  | false =>
      have isRead (rest : List Char) (_ : Separated rest) :
          readScalar? ("false".toList ++ rest) =
            some (.ok (.boolean false, rest)) := rfl
      exact ScalarType.parses ⟨'f', _, rfl, .inr (by decide)⟩ isRead rfl

/-! ## Optional values -/

theorem Reader.optional_parses_none (reader : Reader α) (depth : Nat) :
    reader.optional.Parses depth ['n', 'u', 'l', 'l'] none := by
  intro allowance _ before rest areBlanks _
  unfold Reader.optional
  dsimp only
  rw [List.cons_append, Json.skipBlank_blanks areBlanks (by decide)]
  rfl

/-- What does not start like the empty value is read as a value. -/
theorem Reader.Parses.optional {reader : Reader α} {depth : Nat}
    {text : List Char} {value : α} (parses : reader.Parses depth text value)
    {first : Char} {more : List Char} (split : text = first :: more)
    (starts : Json.StartsValue first) (notEmpty : first ≠ 'n') :
    reader.optional.Parses depth text (some value) := by
  intro allowance enough before rest areBlanks separated
  have isRead := parses allowance enough [] rest Json.Blanks.nil separated
  subst split
  unfold Reader.optional
  dsimp only
  rw [List.cons_append, Json.skipBlank_blanks areBlanks starts.not_blank]
  rw [List.nil_append, List.cons_append] at isRead
  split
  · rename_i same
    exact absurd (List.cons.inj same).1 notEmpty
  · rw [isRead]
    rfl

theorem SpellsOptional.parses_text {value : Option String} {text : List Char}
    (spells : SpellsOptional SpellsText value text) :
    Codec.plainText.optional.toReader.Parses 0 text value := by
  cases value with
  | none =>
      obtain rfl : text = _ := spells
      exact Reader.optional_parses_none _ 0
  | some held =>
      have isText : SpellsText held text := spells
      obtain ⟨body, split, _⟩ := spells
      exact isText.parses.optional split (.inr (by decide)) (by decide)

theorem SpellsOptional.parses_single {value : Option Numeric.Single}
    {text : List Char} (spells : SpellsOptional SpellsSingle value text) :
    Codec.single.optional.toReader.Parses 0 text value := by
  cases value with
  | none =>
      obtain rfl : text = _ := spells
      exact Reader.optional_parses_none _ 0
  | some held =>
      have isNumber : SpellsSingle held text := spells
      obtain ⟨first, more, split, starts, notEmpty⟩ := isNumber.begins
      exact isNumber.parses.optional split starts notEmpty

/-- What spells an optional value is a value if what spells the value is. -/
theorem SpellsOptional.wellFormed {spells : α → List Char → Prop}
    {value : Option α} {text : List Char}
    (isSpelled : SpellsOptional spells value text)
    (areValues : ∀ held, spells held text → WellFormed text) :
    WellFormed text := by
  cases value with
  | none =>
      obtain rfl : text = _ := isSpelled
      exact .scalar .null
  | some held => exact areValues held isSpelled

/-! ## Lists -/

/-- A list is read if each of its items is. -/
theorem SpellsList.parses {spells : α → List Char → Prop} {codec : Codec α}
    {depth : Nat} {values : List α} {text : List Char}
    (isList : SpellsList spells values text)
    (readItem : ∀ value item, spells value item →
      Begins item ∧ codec.toReader.Parses depth item value) :
    codec.list.toReader.Parses (depth + 1) text values := by
  intro allowance enough before rest areBlanks separated
  obtain ⟨inner, rfl⟩ := Nat.exists_eq_add_one.mpr
    (Nat.lt_of_lt_of_le (Nat.succ_pos depth) enough)
  obtain ⟨items, enclosed, areSpelled⟩ := isList
  have areItems : List.Forall₂ (ItemParses (codec.text inner)) items values :=
    areSpelled.imp fun item value isSpelled =>
      ⟨(readItem value item isSpelled).1, (readItem value item isSpelled).2 inner
        (Nat.le_of_succ_le_succ enough)⟩
  obtain ⟨inside, opened, isRead⟩ :=
    Json.readItems_enclosed enclosed areItems rest
  rw [opened]
  show codec.toReader.list.text (inner + 1) (before ++ '[' :: inside) = _
  unfold Reader.list
  dsimp only
  rw [Json.skipBlank_blanks areBlanks (by decide) inside]
  refine isRead _ ?_
  rw [List.length_append, List.length_cons]
  omega

end Parley.Schema
