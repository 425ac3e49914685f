import Parley.Proofs.Config.ExpandedText
import Parley.Proofs.Schema.Surplus

/-!
Contract: texts in which no placeholder starts, whatever follows them.

A placeholder in a JSON text lies within a literal, since nothing else has a
dollar sign and no name has a quote. So a document holds none if none of its
literals does.

Owns: `Inert`, and which JSON texts are inert.
-/

namespace Parley.Config.Placeholder

theorem spelled_concat (name : List Char) :
    spelled name = ('$' :: '\x7b' :: name) ++ ['\x7d'] := rfl

/-- Whether no placeholder starts in a text, whatever follows it. -/
def Inert (text : List Char) : Prop :=
  ∀ rest, HoldsPlaceholder (text ++ rest) → HoldsPlaceholder rest

namespace Inert

theorem nil : Inert [] :=
  fun _ holds => holds

theorem append {front back : List Char} (isFront : Inert front)
    (isBack : Inert back) : Inert (front ++ back) := by
  intro rest holds
  rw [List.append_assoc] at holds
  exact isBack rest (isFront _ holds)

theorem of_no_dollar {text : List Char} (noDollar : '$' ∉ text) : Inert text :=
  fun _ => (holdsPlaceholder_append_iff noDollar).mp

theorem cons {char : Char} {text : List Char} (notDollar : char ≠ '$')
    (isText : Inert text) : Inert (char :: text) := by
  have noDollar : '$' ∉ [char] := fun member =>
    notDollar (List.mem_singleton.mp member).symm
  exact (of_no_dollar noDollar).append isText

theorem not_holds {text : List Char} (inert : Inert text) :
    ¬ HoldsPlaceholder text := by
  intro holds
  rw [← List.append_nil text] at holds
  exact not_holdsPlaceholder_nil (inert [] holds)

/-- If a text holds no placeholder, none goes on behind a character that stands
nowhere in placeholders but at their end. -/
theorem concat {text : List Char} {last : Char} (notDollar : last ≠ '$')
    (notOpening : last ≠ '\x7b') (notInName : ¬ InName last)
    (noPlaceholder : ¬ HoldsPlaceholder (text ++ [last])) :
    Inert (text ++ [last]) := by
  induction text with
  | nil => exact nil.cons notDollar
  | cons char text inductionHypothesis =>
      rw [List.cons_append, holdsPlaceholder_cons_iff, not_or] at noPlaceholder
      intro rest holds
      rw [List.cons_append, List.cons_append, holdsPlaceholder_cons_iff] at holds
      rcases holds with leads | later
      · obtain ⟨name, isName, starts⟩ := leads
        have whole : char :: (text ++ [last]) <+: char :: (text ++ [last] ++ rest) :=
          List.prefix_append (char :: (text ++ [last])) rest
        rcases List.prefix_or_prefix_of_prefix starts whole with inside | beyond
        · exact absurd ⟨name, isName, inside⟩ noPlaceholder.1
        -- The text would end inside the placeholder.
        rw [spelled_concat, List.prefix_concat_iff] at beyond
        rcases beyond with same | within
        · have ends : spelled name ++ [] = char :: (text ++ [last]) := by
            rw [List.append_nil, spelled_concat, same]
          exact absurd ⟨name, isName, [], ends⟩ noPlaceholder.1
        · have isLast : last ∈ '$' :: '\x7b' :: name := within.subset
            (List.mem_cons_of_mem _
              (List.mem_append_right _ List.mem_cons_self))
          rcases List.mem_cons.mp isLast with isDollar | isLast
          · exact absurd isDollar notDollar
          rcases List.mem_cons.mp isLast with isOpening | inName
          · exact absurd isOpening notOpening
          · exact absurd (isName.inName last inName) notInName
      · exact inductionHypothesis noPlaceholder.2 rest later

end Inert

/-- A character that ends no placeholder adds none. -/
theorem not_holds_concat {text : List Char} {last : Char}
    (notClosing : last ≠ '\x7d') (noPlaceholder : ¬ HoldsPlaceholder text) :
    ¬ HoldsPlaceholder (text ++ [last]) := by
  rintro ⟨name, isName, inside⟩
  rcases List.infix_concat_iff.mp inside with atEnd | earlier
  · rw [spelled_concat] at atEnd
    obtain ⟨front, same⟩ := atEnd
    rw [← List.append_assoc] at same
    have isLast := (List.append_inj' same rfl).2
    exact notClosing (List.cons.inj isLast).1.symm
  · exact noPlaceholder ⟨name, isName, earlier⟩

end Parley.Config.Placeholder

namespace Parley.Config

open Parley.Json (Blanks Denotes Enclosed Entry IsScalar Listed Padded WellFormed)
open Parley.Schema (Arranged Crowded CrowdedWithin Field NoOther ObjectText
  Section SpellsInteger SpellsOptional SpellsSingle SpellsText)
open Placeholder (HoldsPlaceholder InName Inert Leads)

/-! ## Literals -/

/-- What a literal denotes holds the placeholders that stand in it. -/
theorem holds_of_denotes {body chars : List Char} (denotes : Denotes body chars)
    (holds : HoldsPlaceholder body) : HoldsPlaceholder chars := by
  induction denotes with
  | nil => exact holds
  | @plain char body chars notControl notQuote notEscape others
      inductionHypothesis =>
      rcases Placeholder.holdsPlaceholder_cons_iff.mp holds with leads | later
      · obtain ⟨name, isName, rest, split⟩ := leads
        have whole : Denotes (char :: body) (char :: chars) :=
          .plain notControl notQuote notEscape others
        rw [← split] at whole
        obtain ⟨later, same, _⟩ :=
          whole.append (not_mem_spelled isName (by decide))
        rw [same]
        exact .of_leads (Placeholder.leads_spelled isName later)
      · exact (inductionHypothesis later).append_left [char]
  | @escaped spelled body chars char escape others inductionHypothesis =>
      have noDollar : '$' ∉ '\\' :: spelled := by
        rw [List.mem_cons]
        exact fun either => either.elim (by decide) escape.no_dollar
      rw [← List.cons_append,
        Placeholder.holdsPlaceholder_append_iff noDollar] at holds
      exact (inductionHypothesis holds).append_left [char]

theorem not_inName_quote : ¬ InName '"' := by
  rw [← Placeholder.continuesName_iff]
  decide

/-- No placeholder goes on behind a quote. -/
theorem inert_body {body : List Char} (noPlaceholder : ¬ HoldsPlaceholder body) :
    Inert (body ++ ['"']) :=
  .concat (by decide) (by decide) not_inName_quote
    (Placeholder.not_holds_concat (by decide) noPlaceholder)

private theorem inert_text {value : String} {text : List Char}
    (spells : SpellsText value text)
    (noPlaceholder : ¬ HoldsPlaceholder value.toList) : Inert text := by
  obtain ⟨body, rfl, denotes⟩ := spells
  exact (inert_body fun holds =>
    noPlaceholder (holds_of_denotes denotes holds)).cons (by decide)

/-! ## Values -/

theorem inert_blanks {blanks : List Char} (areBlanks : Blanks blanks) :
    Inert blanks :=
  .of_no_dollar fun member => absurd (areBlanks '$' member) (by decide)

private theorem inert_integer {value : Int} {text : List Char}
    (spells : SpellsInteger value text) : Inert text := by
  have written : text = (Json.Numeral.ofInt value).spelled :=
    spells.trans (Json.write_integer value)
  rw [written]
  exact .of_no_dollar (Json.Numeral.no_dollar _)

/-- A bracket ends no name, so no placeholder goes on behind it. -/
theorem inert_enclosed {α : Type} {opening closing : Char}
    {lies : α → List Char → Prop} {parts : List α} {text : List Char}
    (enclosed : Enclosed opening closing lies parts text)
    (isClosing : closing ∈ [']', '\x7d'])
    (noPlaceholder : ¬ HoldsPlaceholder text) : Inert text := by
  have closes : ∃ inside, text = inside ++ [closing] := by
    cases enclosed with
    | empty => exact ⟨_ :: _, rfl⟩
    | parts => exact ⟨_ :: _, rfl⟩
  obtain ⟨inside, rfl⟩ := closes
  have isMark : closing ≠ '$' ∧ closing ≠ '\x7b' ∧
      Placeholder.continuesName closing = false := by
    rcases List.mem_cons.mp isClosing with rfl | isClosing
    · decide
    · rw [List.mem_singleton.mp isClosing]
      decide
  obtain ⟨notDollar, notOpening, notInName⟩ := isMark
  refine .concat notDollar notOpening (fun inName => ?_) noPlaceholder
  rw [Placeholder.continuesName_iff.mpr inName] at notInName
  cases notInName

private theorem inert_scalar {text : List Char} (isScalar : IsScalar text)
    (noPlaceholder : ¬ HoldsPlaceholder text) : Inert text := by
  cases isScalar with
  | null | true | false => exact .of_no_dollar (by decide)
  | number numeral => exact .of_no_dollar numeral.no_dollar
  | @text body isBody =>
      rw [← List.cons_append] at noPlaceholder ⊢
      exact .concat (by decide) (by decide) not_inName_quote noPlaceholder

/-- No placeholder goes on behind a value that holds none. -/
theorem inert_value {text : List Char} (wellFormed : WellFormed text)
    (noPlaceholder : ¬ HoldsPlaceholder text) : Inert text := by
  cases wellFormed with
  | scalar isScalar => exact inert_scalar isScalar noPlaceholder
  | list enclosed => exact inert_enclosed enclosed (by decide) noPlaceholder
  | object enclosed => exact inert_enclosed enclosed (by decide) noPlaceholder

/-! ## Objects -/

private theorem inert_listed {α : Type} {lies : α → List Char → Prop}
    {parts : List α}
    {text : List Char} (listed : Listed lies parts text)
    (areInert : ∀ part ∈ parts, ∀ text, lies part text → Inert text) :
    Inert text := by
  induction listed with
  | @last part text isPart => exact areInert part List.mem_cons_self text isPart
  | @next part text parts rest isPart _ inductionHypothesis =>
      have others := inductionHypothesis fun other member =>
        areInert other (List.mem_cons_of_mem _ member)
      exact (areInert part List.mem_cons_self text isPart).append
        (others.cons (by decide))

/-- Whether no placeholder starts in the key or in the value of a member. -/
def InertEntry (entry : Entry) : Prop :=
  Inert (entry.key ++ ['"']) ∧ Inert entry.value

theorem InertEntry.laidOut {entry : Entry} (inert : InertEntry entry)
    {text : List Char} (laidOut : entry.LaidOut text) : Inert text := by
  obtain ⟨before, behindKey, behindColon, after, rfl, areBefore, areBehindKey,
    areBehindColon, areAfter⟩ := laidOut
  have value := inert.2.append (inert_blanks areAfter)
  have behind := (inert_blanks areBehindKey).append
    (((inert_blanks areBehindColon).append value).cons
      (by decide : ':' ≠ '$'))
  have member := inert.1.append behind
  rw [List.append_assoc, List.singleton_append] at member
  exact (inert_blanks areBefore).append (member.cons (by decide))

theorem inert_object {entries : List Entry} {text : List Char}
    (isObject : Schema.IsObject entries text)
    (areInert : ∀ entry ∈ entries, InertEntry entry) : Inert text := by
  have closing : Inert ['\x7d'] := .of_no_dollar (by decide)
  cases isObject with
  | empty areBlanks =>
      exact ((inert_blanks areBlanks).append closing).cons (by decide)
  | parts listed =>
      have inside := inert_listed listed fun entry isEntry _ laidOut =>
        (areInert entry isEntry).laidOut laidOut
      exact (inside.append closing).cons (by decide)

/-- Whether what spells a field are values in which no placeholder starts. -/
structure PlainField (field : Field) : Prop where
  key : '$' ∉ field.key.toList
  values : field.SpellsValues
  inert : ∀ text, field.Spells text → Inert text

theorem inert_arranged {fields : List Field} {entries : List Entry}
    (arranged : Arranged NoOther fields entries)
    (arePlain : ∀ field ∈ fields, PlainField field) :
    ∀ entry ∈ entries, InertEntry entry := by
  intro entry isEntry
  obtain isOther | ⟨field, isField, named, spelled⟩ :=
    arranged.source entry isEntry
  · exact isOther.elim
  have plain := arePlain field isField
  refine ⟨inert_body fun holds => ?_, plain.inert entry.value spelled⟩
  exact (Inert.of_no_dollar plain.key).not_holds (holds_of_denotes named holds)

theorem inert_objectText {fields : List Field} {text : List Char}
    (isObject : ObjectText NoOther fields text)
    (arePlain : ∀ field ∈ fields, PlainField field) : Inert text := by
  obtain ⟨entries, arranged, enclosed⟩ := isObject
  exact inert_object enclosed (inert_arranged arranged arePlain)

/-- Whether no placeholder stands in the key or in the value of a member. -/
def Unreferring (entry : Entry) : Prop :=
  ¬ HoldsPlaceholder entry.key ∧ ¬ HoldsPlaceholder entry.value

theorem inert_crowded {fields : List Field} {text : List Char}
    (crowded : Crowded Unreferring fields text)
    (arePlain : ∀ field ∈ fields, PlainField field) : Inert text := by
  obtain ⟨front, added, back, arranged, unreferring, surplus, enclosed⟩ := crowded
  have areInert := inert_arranged arranged arePlain
  refine inert_object enclosed fun entry isEntry => ?_
  rcases List.mem_append.mp isEntry with isFront | isBehind
  · exact areInert entry (List.mem_append_left _ isFront)
  rcases List.mem_cons.mp isBehind with rfl | isBack
  · exact ⟨inert_body unreferring.1,
      inert_value surplus.wellFormed unreferring.2⟩
  · exact areInert entry (List.mem_append_right _ isBack)

namespace PlainField

variable {key : String} {mayBeAbsent : Prop}

theorem text (noDollar : '$' ∉ key.toList) {value : String}
    (noPlaceholder : ¬ HoldsPlaceholder value.toList) :
    PlainField ⟨key, mayBeAbsent, SpellsText value⟩ where
  key := noDollar
  values := fun _ spells => spells.wellFormed
  inert := fun _ spells => inert_text spells noPlaceholder

theorem integer (noDollar : '$' ∉ key.toList) (value : Int) :
    PlainField ⟨key, mayBeAbsent, SpellsInteger value⟩ where
  key := noDollar
  values := fun _ spells => spells.wellFormed
  inert := fun _ spells => inert_integer spells

/-- A sampling value is a number or the empty value. -/
theorem sampling (noDollar : '$' ∉ key.toList)
    (value : Option Numeric.Single) :
    PlainField ⟨key, mayBeAbsent, SpellsOptional SpellsSingle value⟩ where
  key := noDollar
  values := fun _ spells =>
    spells.wellFormed fun _ isNumber => isNumber.wellFormed
  inert := fun text spells => by
    cases value with
    | none =>
        obtain rfl : text = _ := spells
        exact .of_no_dollar (by decide)
    | some held =>
        obtain ⟨numeral, rfl, _⟩ : SpellsSingle held text := spells
        exact .of_no_dollar numeral.no_dollar

end PlainField

/-- Whether what spells a section is an object in which no placeholder starts. -/
structure PlainSection (part : Section) : Prop where
  key : '$' ∉ part.key.toList
  fields : ∀ field ∈ part.fields, PlainField field

namespace PlainSection

variable {part : Section}

theorem field (plain : PlainSection part) : PlainField part.field where
  key := plain.key
  values := fun _ isObject =>
    isObject.wellFormed fun field isField => (plain.fields field isField).values
  inert := fun _ isObject => inert_objectText isObject plain.fields

theorem crowded (plain : PlainSection part) :
    PlainField (part.crowded Unreferring) where
  key := plain.key
  values := fun _ crowded =>
    crowded.wellFormed fun field isField => (plain.fields field isField).values
  inert := fun _ crowded => inert_crowded crowded plain.fields

end PlainSection

/-- A member that holds no placeholder adds none to an object or its sections. -/
theorem inert_crowdedWithin {fields : List Field} {sections : List Section}
    {text : List Char}
    (crowded : CrowdedWithin Unreferring fields sections text)
    (arePlain : ∀ field ∈ fields, PlainField field)
    (areSections : ∀ part ∈ sections, PlainSection part) : Inert text := by
  have fields : ∀ part ∈ sections, PlainField part.field :=
    fun part isPart => (areSections part isPart).field
  rcases crowded with crowded | ⟨before, part, after, rfl, isObject⟩
  · exact inert_crowded crowded (Schema.forall_sections arePlain fields)
  · have isPart := areSections part
      (List.mem_append_right _ List.mem_cons_self)
    exact inert_objectText isObject
      (Schema.forall_crowded arePlain fields isPart.crowded)

theorem inert_padded {core text : List Char} (inert : Inert core)
    (padded : Padded core text) : Inert text := by
  obtain ⟨before, after, rfl, areBefore, areAfter⟩ := padded
  exact (inert_blanks areBefore).append (inert.append (inert_blanks areAfter))

end Parley.Config
