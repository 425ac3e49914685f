import Parley.Proofs.Config.Insertion
import Parley.Proofs.Json.Literal
import Parley.Proofs.Json.Walk

/-!
Contract: the tokens of a text and of the same text with its placeholders
replaced.

Outside of literals no placeholder can stand, so there both texts agree. Inside,
values that hold neither a quote nor a reverse solidus are read as they are: the
literals of both texts end at the same place, and what the second one denotes is
what the first one denotes with values inserted.

Owns: `Tracks`, and what tokens of both texts have in common.
-/

namespace Parley.Json

/-! ## Tokens without dollar signs -/

theorem readWord_eq_ok_iff {word text rest : List Char} :
    readWord word text = .ok rest ↔ text = word ++ rest := by
  induction word generalizing text with
  | nil =>
      constructor
      · intro same
        cases same
        rfl
      · rintro rfl
        rfl
  | cons letter word inductionHypothesis =>
      cases text with
      | nil =>
          constructor
          · intro same
            cases same
          · intro same
            cases same
      | cons char text =>
          rw [readWord, List.cons_append, List.cons.injEq]
          split
          · rename_i same
            rw [inductionHypothesis]
            exact ⟨fun rest => ⟨same, rest⟩, And.right⟩
          · rename_i differs
            constructor
            · intro same
              cases same
            · rintro ⟨same, _⟩
              exact absurd same differs

theorem Numeral.no_dollar (numeral : Numeral) : '$' ∉ numeral.spelled :=
  fun member => absurd (numeral.chars '$' member) (by decide)

/-- Whether a number ends before a text is seen from its first character. -/
theorem EndsBefore.of_head {places : List Char} {exponent : Option Exponent}
    {char : Char} {rest : List Char} (ends : EndsBefore places exponent (char :: rest))
    (others : List Char) : EndsBefore places exponent (char :: others) :=
  ⟨ends.noDigit, ends.noExponent, ends.noPoint⟩

theorem hexDigits_no_dollar {value : Nat} : ('$', value) ∉ hexDigits := by
  intro listed
  exact (show ∀ entry ∈ hexDigits, entry.1 ≠ '$' by decide) _ listed rfl

theorem SpellsUnit.no_dollar {digits : List Char} {unit : Nat}
    (spelled : SpellsUnit digits unit) : '$' ∉ digits := by
  cases spelled with
  | digits isFirst isSecond isThird isFourth =>
      intro member
      simp only [List.mem_cons, List.not_mem_nil, or_false] at member
      rcases member with rfl | rfl | rfl | rfl
      · exact hexDigits_no_dollar isFirst
      · exact hexDigits_no_dollar isSecond
      · exact hexDigits_no_dollar isThird
      · exact hexDigits_no_dollar isFourth

theorem Escapes.no_dollar {spelled : List Char} {char : Char}
    (escape : Escapes spelled char) : '$' ∉ spelled := by
  cases escape with
  | short listed =>
      intro member
      rw [List.mem_singleton] at member
      exact (show ∀ entry ∈ shortEscapes, entry.1 ≠ '$' by decide) _ listed
        member.symm
  | unit spelledUnit _ =>
      intro member
      rcases List.mem_cons.mp member with isMark | inDigits
      · exact absurd isMark (by decide)
      · exact spelledUnit.no_dollar inDigits
  | pair spelledHigh spelledLow _ _ =>
      intro member
      rcases List.mem_cons.mp member with isMark | member
      · exact absurd isMark (by decide)
      rcases List.mem_append.mp member with inHigh | member
      · exact spelledHigh.no_dollar inHigh
      rcases List.mem_cons.mp member with isMark | member
      · exact absurd isMark (by decide)
      rcases List.mem_cons.mp member with isMark | inLow
      · exact absurd isMark (by decide)
      · exact spelledLow.no_dollar inLow

/-! ## Literals and their parts -/

/-- No escape is the start of another one. -/
theorem Escapes.unique {first second : List Char} {char other : Char}
    (isFirst : Escapes first char) (isSecond : Escapes second other)
    {rest later : List Char} (same : first ++ rest = second ++ later) :
    char = other ∧ rest = later := by
  have read : readEscape (first ++ rest) = .ok (char, rest) :=
    readEscape_eq_ok_iff.mpr ⟨first, rfl, isFirst⟩
  rw [readEscape_eq_ok_iff.mpr ⟨second, same, isSecond⟩] at read
  obtain ⟨isSame, sameRest⟩ := Prod.mk.inj (Except.ok.inj read)
  exact ⟨isSame.symm, sameRest.symm⟩

/-- What needs no escape denotes itself. -/
theorem Denotes.append {front body chars : List Char}
    (denotes : Denotes (front ++ body) chars) (noEscape : '\\' ∉ front) :
    ∃ later, chars = front ++ later ∧ Denotes body later := by
  induction front generalizing chars with
  | nil => exact ⟨chars, rfl, denotes⟩
  | cons char front inductionHypothesis =>
      have noMore : '\\' ∉ front := fun member =>
        noEscape (List.mem_cons_of_mem _ member)
      generalize isBody : char :: front ++ body = whole at denotes
      cases denotes with
      | nil => cases isBody
      | plain _ _ _ rest =>
          obtain ⟨rfl, rfl⟩ := List.cons.inj isBody
          obtain ⟨later, rfl, others⟩ := inductionHypothesis rest noMore
          exact ⟨later, rfl, others⟩
      | escaped =>
          rw [(List.cons.inj isBody).1] at noEscape
          exact absurd List.mem_cons_self noEscape

private theorem Denotes.eq_of_no_escape {body chars : List Char}
    (denotes : Denotes body chars) (noEscape : '\\' ∉ body) : chars = body := by
  rw [← List.append_nil body] at denotes
  obtain ⟨later, rfl, rest⟩ := denotes.append noEscape
  cases rest
  exact List.append_nil body

/-- What holds no quote lies before the quote that ends a literal. -/
theorem split_before_quote {front body rest later : List Char}
    (noQuote : '"' ∉ front) (same : front ++ later = body ++ '"' :: rest) :
    ∃ more, body = front ++ more ∧ later = more ++ '"' :: rest := by
  rcases List.append_eq_append_iff.mp same with
    ⟨more, isBody, isLater⟩ | ⟨more, isFront, isRest⟩
  · exact ⟨more, isBody, isLater⟩
  · cases more with
    | nil =>
        rw [List.append_nil] at isFront
        exact ⟨[], by rw [isFront, List.append_nil], isRest.symm⟩
    | cons char more =>
        rw [(List.cons.inj isRest).1, isFront] at noQuote
        exact absurd (List.mem_append_right _ List.mem_cons_self) noQuote

/-- What starts a literal and holds no mark denotes itself, and the literal goes
on behind it. -/
theorem Denotes.behind {front body chars rest later : List Char}
    (denotes : Denotes body chars) (noQuote : '"' ∉ front)
    (noEscape : '\\' ∉ front) (same : front ++ later = body ++ '"' :: rest) :
    ∃ more left, body = front ++ more ∧ later = more ++ '"' :: rest ∧
      chars = front ++ left ∧ Denotes more left := by
  obtain ⟨more, rfl, isLater⟩ := split_before_quote noQuote same
  obtain ⟨left, isLeft, others⟩ := denotes.append noEscape
  exact ⟨more, left, rfl, isLater, isLeft, others⟩

end Parley.Json

namespace Parley.Config

open Parley.Json (Denotes EndsBefore Number StartsWithout readLiteral readNumber
  readWord skipBlank)
open Placeholder (Environment Inserted IsName Leads Replaced spelled)

/-- Whether no variable that a text refers to has a value that could end a
literal or start an escape. -/
def PlainValues (environment : Environment) (text : List Char) : Prop :=
  ∀ name value, IsName name → spelled name <:+: text →
    environment (String.ofList name) = some value →
    '"' ∉ value.toList ∧ '\\' ∉ value.toList

/-- The relation between what is left of a file while it is read, and what is
left of the file with its placeholders replaced. -/
structure Tracks (environment : Environment) (file text expanded : List Char) :
    Prop where
  replaced : Replaced environment text expanded
  inside : text <:+ file

variable {environment : Environment} {file text expanded : List Char}

namespace Tracks

theorem append {front : List Char} (noDollar : '$' ∉ front)
    (tracks : Tracks environment file (front ++ text) expanded) :
    ∃ later, expanded = front ++ later ∧ Tracks environment file text later := by
  obtain ⟨later, isExpanded, rest⟩ :=
    (Placeholder.replaced_append noDollar).mp tracks.replaced
  exact ⟨later, isExpanded, rest, (List.suffix_append _ _).trans tracks.inside⟩

theorem cons {char : Char} (notDollar : char ≠ '$')
    (tracks : Tracks environment file (char :: text) expanded) :
    ∃ later, expanded = char :: later ∧ Tracks environment file text later := by
  have noDollar : '$' ∉ [char] := fun member =>
    notDollar (List.mem_singleton.mp member).symm
  exact append noDollar tracks

theorem eq_nil (tracks : Tracks environment file [] expanded) :
    expanded = [] := by
  have replaced := tracks.replaced
  cases replaced
  rfl

/-- A placeholder gives way to a value that holds no mark. -/
theorem reference {name : List Char} (isName : IsName name)
    (plainValues : PlainValues environment file)
    (tracks : Tracks environment file (spelled name ++ text) expanded) :
    ∃ value later, environment (String.ofList name) = some value ∧
      '"' ∉ value.toList ∧ '\\' ∉ value.toList ∧
      expanded = value.toList ++ later ∧ Tracks environment file text later := by
  obtain ⟨value, later, isSet, isExpanded, rest⟩ :=
    Placeholder.replaced_spelled isName tracks.replaced
  have here : spelled name <:+: file :=
    (List.prefix_append _ _).isInfix.trans tracks.inside.isInfix
  obtain ⟨noQuote, noEscape⟩ := plainValues name value isName here isSet
  exact ⟨value, later, isSet, noQuote, noEscape, isExpanded, rest,
    (List.suffix_append _ _).trans tracks.inside⟩

/-- Blanks are the same in both texts. -/
theorem skipBlank (tracks : Tracks environment file text expanded)
    (starts : StartsWithout ['$'] (skipBlank text)) :
    Tracks environment file (skipBlank text) (skipBlank expanded) := by
  obtain ⟨before, split, blanks⟩ := Json.skipBlank_split text
  have noDollar : '$' ∉ before := fun member =>
    absurd (blanks '$' member) (by decide)
  rw [split] at tracks
  obtain ⟨later, rfl, rest⟩ := tracks.append noDollar
  rw [Json.skipBlank_append blanks]
  cases isStart : Json.skipBlank text with
  | nil =>
      rw [isStart] at rest
      rw [rest.eq_nil]
      exact ⟨.nil, rest.inside⟩
  | cons char more =>
      rw [isStart] at rest starts
      obtain ⟨last, rfl, _⟩ := rest.cons fun isDollar =>
        starts (List.mem_singleton.mpr isDollar)
      have notBlank : Json.isBlank char = false := by
        have head := List.head?_dropWhile_not Json.isBlank text
        rwa [show text.dropWhile Json.isBlank = char :: more from isStart]
          at head
      rw [Json.skipBlank_of_not notBlank]
      exact rest

end Tracks

/-! ## Words and numbers -/

theorem Tracks.readWord {word rest after : List Char} (noDollar : '$' ∉ word)
    (tracks : Tracks environment file text expanded)
    (isRead : readWord word text = .ok rest)
    (isReadToo : readWord word expanded = .ok after) :
    Tracks environment file rest after := by
  rw [Json.readWord_eq_ok_iff.mp isRead] at tracks
  obtain ⟨later, isExpanded, others⟩ := tracks.append noDollar
  rw [Json.readWord_eq_ok_iff.mp isReadToo] at isExpanded
  rwa [List.append_cancel_left isExpanded]

theorem Tracks.readNumber {number other : Number} {rest after : List Char}
    (tracks : Tracks environment file text expanded)
    (starts : StartsWithout ['$'] rest)
    (isRead : readNumber text = .ok (number, rest))
    (isReadToo : readNumber expanded = .ok (other, after)) :
    other = number ∧ Tracks environment file rest after := by
  obtain ⟨numeral, rfl, ends, isNumber⟩ := Json.readNumber_eq_ok_iff.mp isRead
  obtain ⟨later, rfl, others⟩ := tracks.append numeral.no_dollar
  have endsToo : EndsBefore numeral.places numeral.exponent later := by
    cases rest with
    | nil =>
        rw [others.eq_nil]
        exact ends
    | cons char rest =>
        obtain ⟨last, rfl, _⟩ := others.cons fun isDollar =>
          starts (List.mem_singleton.mpr isDollar)
        exact ends.of_head last
  obtain ⟨isOther, rfl⟩ := (Json.readNumber_spelled numeral endsToo).mp isReadToo
  exact ⟨Option.some.inj (isOther.symm.trans isNumber), others⟩

/-! ## Literals -/

/-- A placeholder ends no literal and starts no escape. -/
theorem not_mem_spelled {name : List Char} (isName : IsName name) {mark : Char}
    (isMark : mark ∈ ['"', '\\']) : mark ∉ spelled name := by
  intro member
  have elsewhere : Placeholder.continuesName mark = false ∧
      mark ∉ ['$', '\x7b', '\x7d'] := by
    rcases List.mem_cons.mp isMark with rfl | isMark
    · decide
    · rw [List.mem_singleton.mp isMark]
      decide
  obtain ⟨notName, notAround⟩ := elsewhere
  simp only [spelled, List.mem_cons, List.mem_append, List.not_mem_nil,
    or_false] at member notAround
  rcases member with isDollar | isOpening | inName | isClosing
  · exact notAround (.inl isDollar)
  · exact notAround (.inr (.inl isOpening))
  · rw [Placeholder.continuesName_iff.mpr (isName.inName mark inName)] at notName
    cases notName
  · exact notAround (.inr (.inr isClosing))

/-- No placeholder is left where a literal without escapes has none. -/
theorem escape_of_leads {char : Char} {body chars rest : List Char}
    (denotes : Denotes body chars)
    (notLeads : ¬ Leads (char :: (body ++ '"' :: rest)))
    (leads : Leads (char :: chars)) : '\\' ∈ body := by
  refine Classical.byContradiction fun noEscape => ?_
  rw [denotes.eq_of_no_escape noEscape] at leads
  exact notLeads (leads.of_prefixes fun _ _ starts =>
    starts.trans (List.prefix_append _ _))

/-- The literals of both texts end at the same place, and the second one denotes
what the first one does with values inserted. -/
theorem Tracks.denotes {body chars rest otherBody otherChars after : List Char}
    (plainValues : PlainValues environment file)
    (tracks : Tracks environment file (body ++ '"' :: rest)
      (otherBody ++ '"' :: after))
    (denotes : Denotes body chars) (denotesToo : Denotes otherBody otherChars) :
    Inserted environment ('\\' ∈ file) chars otherChars ∧
      Tracks environment file rest after := by
  -- on the length of the first literal, of which a placeholder takes several
  -- characters at once
  cases denotes with
  | nil =>
      obtain ⟨later, isLater, others⟩ := tracks.cons (by decide)
      cases denotesToo with
      | nil =>
          rw [(List.cons.inj isLater).2]
          exact ⟨.nil, others⟩
      | plain _ notQuote _ _ => exact absurd (List.cons.inj isLater).1 notQuote
      | escaped => exact absurd (List.cons.inj isLater).1 (by decide)
  | @plain char body chars notControl notQuote notEscape others =>
      by_cases leads : Leads (char :: (body ++ '"' :: rest))
      · obtain ⟨name, isName, tail, isText⟩ := leads
        have whole : Denotes (char :: body) (char :: chars) :=
          .plain notControl notQuote notEscape others
        obtain ⟨more, left, isBody, rfl, isLeft, denotesMore⟩ :=
          whole.behind (not_mem_spelled isName (by decide))
            (not_mem_spelled isName (by decide)) isText
        have shorter : more.length < body.length + 1 := by
          have length := congrArg List.length isBody
          rw [spelled, List.length_cons, List.length_append] at length
          simp only [List.length_cons] at length
          omega
        rw [show char :: body ++ '"' :: rest = _ from isText.symm] at tracks
        obtain ⟨value, later, isSet, noQuote, noEscape, isLater, behind⟩ :=
          tracks.reference isName plainValues
        obtain ⟨otherMore, otherLeft, rfl, rfl, rfl, denotesOther⟩ :=
          denotesToo.behind noQuote noEscape isLater.symm
        obtain ⟨inserted, last⟩ :=
          behind.denotes plainValues denotesMore denotesOther
        rw [isLeft]
        exact ⟨.reference isName isSet inserted, last⟩
      · obtain ⟨later, isLater, replaced⟩ :=
          (Placeholder.replaced_cons leads).mp tracks.replaced
        have inside := (List.suffix_cons _ _).trans tracks.inside
        cases denotesToo with
        | nil => exact absurd (List.cons.inj isLater).1.symm notQuote
        | escaped => exact absurd (List.cons.inj isLater).1.symm notEscape
        | plain _ _ _ othersToo =>
            obtain ⟨rfl, rfl⟩ := List.cons.inj isLater
            obtain ⟨inserted, last⟩ :=
              Tracks.denotes plainValues ⟨replaced, inside⟩ others othersToo
            refine ⟨.char (fun isLeft => ?_) inserted, last⟩
            have isEscaped := escape_of_leads others leads isLeft
            exact inside.subset (List.mem_append_left _ isEscaped)
  | @escaped spelled body chars char escape others =>
      have isEscaped : '\\' ∈ file :=
        tracks.inside.subset List.mem_cons_self
      have noDollar : '$' ∉ '\\' :: spelled := by
        rw [List.mem_cons]
        exact fun either => either.elim (by decide) escape.no_dollar
      rw [← List.cons_append, List.append_assoc] at tracks
      obtain ⟨later, isLater, last⟩ := tracks.append noDollar
      cases denotesToo with
      | nil => exact absurd (List.cons.inj isLater).1 (by decide)
      | plain _ _ notEscape _ =>
          exact absurd (List.cons.inj isLater).1 notEscape
      | @escaped otherSpelled otherBody otherChars other escapeToo othersToo =>
          have same : otherSpelled ++ (otherBody ++ '"' :: after) =
              spelled ++ later := by
            rw [← List.append_assoc]
            exact (List.cons.inj isLater).2
          obtain ⟨rfl, rfl⟩ := escapeToo.unique escape same
          obtain ⟨inserted, tail⟩ :=
            last.denotes plainValues others othersToo
          exact ⟨.char (fun _ => isEscaped) inserted, tail⟩
termination_by body.length

/-- A literal that is read in both texts ends at the same place. -/
theorem Tracks.readLiteral {held other : String} {rest after : List Char}
    (plainValues : PlainValues environment file)
    (tracks : Tracks environment file text expanded)
    (isRead : readLiteral text = .ok (held, rest))
    (isReadToo : readLiteral expanded = .ok (other, after)) :
    Inserted environment ('\\' ∈ file) held.toList other.toList ∧
      Tracks environment file rest after := by
  obtain ⟨body, rfl, denotes⟩ := Json.readLiteral_eq_ok_iff.mp isRead
  obtain ⟨otherBody, rfl, denotesToo⟩ := Json.readLiteral_eq_ok_iff.mp isReadToo
  exact tracks.denotes plainValues denotes denotesToo

end Parley.Config
