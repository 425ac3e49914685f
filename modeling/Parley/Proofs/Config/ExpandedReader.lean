import Parley.Proofs.Config.ExpandedText
import Parley.Proofs.Schema.Reader

/-!
Contract: readers on a text and on the same text with its placeholders replaced.

Where a reader reads both texts it reads the same but for texts, in which values
are inserted, and both readings end at the same place. What follows a value never
starts with a placeholder, so no value can lengthen a number before it. Keys that
are known hold no placeholder, so both texts have the same members.

Owns: `Reader.Follows`, for scalars, optional values and records.
-/

namespace Parley.Json

/-! ## Where tokens stand -/

/-- No placeholder starts what a reader takes that takes none. -/
theorem startsWithout_of_read {ρ : Type} {read : List Char → ρ} {result : ρ}
    {text : List Char} (refuses : ∀ rest, read ('$' :: rest) ≠ result)
    (isRead : read text = result) : StartsWithout ['$'] text := by
  cases text with
  | nil => trivial
  | cons char text =>
      intro isDollar
      rw [List.mem_singleton.mp isDollar] at isRead
      exact refuses text isRead

/-- Between items, and behind the last one, no placeholder stands. -/
theorem startsWithout_of_nextItem {found : Bool × List Char} {text : List Char}
    (isRead : nextItem false text = .ok found) : StartsWithout ['$'] text :=
  startsWithout_of_read (fun _ taken => by cases taken) isRead

theorem startsWithout_of_nextKey {found : Bool × List Char} {text : List Char}
    (isRead : nextKey false text = .ok found) : StartsWithout ['$'] text :=
  startsWithout_of_read (fun _ taken => by cases taken) isRead

theorem startsWithout_of_closeList {text rest : List Char}
    (isRead : closeList text = .ok rest) : StartsWithout ['$'] text :=
  startsWithout_of_read (fun _ taken => by cases taken) isRead

end Parley.Json

namespace Parley.Config

open Parley.Json (StartsWithout readScalar? skipBlank)
open Parley.Schema (Assembly Codec Member Reader Record ScalarType)
open Placeholder (Environment Inserted)

variable {α β σ : Type} {environment : Environment}
  {file text expanded : List Char}

/-! ## Tokens of both texts -/

namespace Tracks

/-- Where one text goes on with a character, so does the other. -/
theorem goesOn {char : Char} {rest : List Char}
    (tracks : Tracks environment file text expanded)
    (isStart : Json.skipBlank text = char :: rest) (notDollar : char ≠ '$') :
    ∃ after, Json.skipBlank expanded = char :: after ∧
      Tracks environment file (char :: rest) (char :: after) := by
  have noDollar : StartsWithout ['$'] (char :: rest) := fun member =>
    notDollar (List.mem_singleton.mp member)
  have tracked := tracks.skipBlank (isStart ▸ noDollar)
  rw [isStart] at tracked
  obtain ⟨after, isAfter, _⟩ := tracked.cons notDollar
  rw [isAfter] at tracked
  exact ⟨after, isAfter, tracked⟩

theorem start {char : Char} {rest : List Char}
    (tracks : Tracks environment file text expanded)
    (isStart : Json.skipBlank text = char :: rest) (notDollar : char ≠ '$') :
    ∃ after, Json.skipBlank expanded = char :: after ∧
      Tracks environment file rest after := by
  obtain ⟨after, isAfter, tracked⟩ := tracks.goesOn isStart notDollar
  obtain ⟨_, same, others⟩ := tracked.cons notDollar
  cases same
  exact ⟨after, isAfter, others⟩

theorem readColon {rest : List Char}
    (tracks : Tracks environment file text expanded)
    (isRead : Json.readColon text = .ok rest) :
    ∃ after, Json.readColon expanded = .ok after ∧
      Tracks environment file rest after := by
  unfold Json.readColon at isRead
  split at isRead
  · rename_i isColon
    cases isRead
    obtain ⟨after, isColonToo, others⟩ := tracks.start isColon (by decide)
    exact ⟨after, by rw [Json.readColon, isColonToo]; rfl, others⟩
  · cases isRead
  · cases isRead

theorem closeObject {rest : List Char}
    (tracks : Tracks environment file text expanded)
    (isRead : Json.closeObject text = .ok rest) :
    ∃ after, Json.closeObject expanded = .ok after ∧
      Tracks environment file rest after := by
  unfold Json.closeObject at isRead
  split at isRead
  · rename_i isEnd
    cases isRead
    obtain ⟨after, isEndToo, others⟩ := tracks.start isEnd (by decide)
    exact ⟨after, by rw [Json.closeObject, isEndToo]; rfl, others⟩
  · cases isRead
  · cases isRead
  · cases isRead

theorem closeList {rest : List Char}
    (tracks : Tracks environment file text expanded)
    (isRead : Json.closeList text = .ok rest) :
    ∃ after, Json.closeList expanded = .ok after ∧
      Tracks environment file rest after := by
  unfold Json.closeList at isRead
  split at isRead
  · rename_i isEnd
    cases isRead
    obtain ⟨after, isEndToo, others⟩ := tracks.start isEnd (by decide)
    exact ⟨after, by rw [Json.closeList, isEndToo]; rfl, others⟩
  · split at isRead <;> cases isRead
  · cases isRead
  · cases isRead

/-- Where one text has an item or ends a list, so does the other. -/
theorem nextItem {first more : Bool} {item : List Char}
    (tracks : Tracks environment file text expanded)
    (isRead : Json.nextItem first text = .ok (more, item))
    (noDollar : more = true → StartsWithout ['$'] item) :
    ∃ itemToo, Json.nextItem first expanded = .ok (more, itemToo) ∧
      Tracks environment file item itemToo := by
  unfold Json.nextItem at isRead
  split at isRead
  · cases isRead
  · rename_i isEnd
    cases isRead
    obtain ⟨after, isEndToo, tracked⟩ := tracks.goesOn isEnd (by decide)
    exact ⟨_, by simp [Json.nextItem, isEndToo], tracked⟩
  rename_i char rest notEnd isStart
  split at isRead
  · rename_i isFirst
    cases isRead
    have notDollar : char ≠ '$' := fun isDollar =>
      noDollar rfl (List.mem_singleton.mpr isDollar)
    obtain ⟨after, isStartToo, tracked⟩ := tracks.goesOn isStart notDollar
    exact ⟨_, by simp [Json.nextItem, isStartToo, isFirst], tracked⟩
  · rename_i notFirst
    split at isRead
    · rename_i isComma
      subst isComma
      obtain ⟨after, isStartToo, behind⟩ := tracks.start isStart (by decide)
      split at isRead
      · cases isRead
      · cases isRead
      rename_i notEmpty notClosed
      cases isRead
      cases isItem : Json.skipBlank rest with
      | nil => exact absurd isItem notEmpty
      | cons char item =>
          have notDollar : char ≠ '$' := fun isDollar => by
            rw [isItem] at noDollar
            exact noDollar rfl (List.mem_singleton.mpr isDollar)
          obtain ⟨_, isItemToo, tracked⟩ := behind.goesOn isItem notDollar
          have notEnd : char ≠ ']' := fun isEnd =>
            notClosed item (isEnd ▸ isItem)
          exact ⟨_, by simp [Json.nextItem, isStartToo, isItemToo, notFirst,
            notEnd], tracked⟩
    · cases isRead

/-- Where one text has a key or ends an object, so does the other. -/
theorem nextKey {first more : Bool} {key : List Char}
    (tracks : Tracks environment file text expanded)
    (isRead : Json.nextKey first text = .ok (more, key)) :
    ∃ keyToo, Json.nextKey first expanded = .ok (more, keyToo) ∧
      Tracks environment file key keyToo := by
  unfold Json.nextKey at isRead
  split at isRead
  · cases isRead
  · rename_i isEnd
    cases isRead
    obtain ⟨after, isEndToo, tracked⟩ := tracks.goesOn isEnd (by decide)
    exact ⟨_, by simp [Json.nextKey, isEndToo], tracked⟩
  rename_i isStart
  split at isRead
  · rename_i isFirst
    split at isRead
    · rename_i isQuote
      subst isQuote
      cases isRead
      obtain ⟨_, isStartToo, others⟩ := tracks.start isStart (by decide)
      exact ⟨_, by simp [Json.nextKey, isStartToo, isFirst], others⟩
    · cases isRead
  · rename_i notFirst
    split at isRead
    · rename_i isComma
      subst isComma
      obtain ⟨_, isStartToo, behind⟩ := tracks.start isStart (by decide)
      split at isRead
      · cases isRead
      · rename_i isQuote
        cases isRead
        obtain ⟨_, isQuoteToo, others⟩ := behind.start isQuote (by decide)
        exact ⟨_, by simp [Json.nextKey, isStartToo, isQuoteToo, notFirst],
          others⟩
      · cases isRead
      · cases isRead
    · cases isRead

end Tracks

/-! ## Readers -/

/-- Whether a reader reads related values where it reads both texts, and both up
to the same place. A value never starts with a placeholder. -/
structure Follows (environment : Environment) (file : List Char)
    (reader : Reader α) (related : α → α → Prop) : Prop where
  starts : ∀ {allowance text value rest},
    reader.text allowance text = .ok (value, rest) →
    StartsWithout ['$'] (skipBlank text)
  agrees : ∀ {allowance text expanded value other rest after},
    Tracks environment file text expanded → StartsWithout ['$'] rest →
    reader.text allowance text = .ok (value, rest) →
    reader.text allowance expanded = .ok (other, after) →
    related value other ∧ Tracks environment file rest after

/-- The relation between a text that was read and the text read in its place. -/
def TextFollows (environment : Environment) (file : List Char)
    (text other : String) : Prop :=
  Inserted environment ('\\' ∈ file) text.toList other.toList

/-- The relation between scalars of both texts. -/
inductive ScalarFollows (environment : Environment) (file : List Char) :
    Json.Value → Json.Value → Prop where
  | same {value : Json.Value} (notText : ∀ text, value ≠ .text text) :
      ScalarFollows environment file value value
  | text {text other : String} (follows : TextFollows environment file text other) :
      ScalarFollows environment file (.text text) (.text other)

theorem starts_of_readScalar {reading : Json.Reading Json.Value}
    (isRead : readScalar? text = some reading) : StartsWithout ['$'] text :=
  Json.startsWithout_of_read (fun _ taken => by cases taken) isRead

theorem Tracks.readWordAs {letters rest after : List Char}
    {held value other : Json.Value} (noDollar : '$' ∉ letters)
    (notText : ∀ text, held ≠ .text text)
    (tracks : Tracks environment file text expanded)
    (isRead : (Json.readWord letters text).map (fun after => (held, after)) =
      .ok (value, rest))
    (isReadToo : (Json.readWord letters expanded).map
      (fun after => (held, after)) = .ok (other, after)) :
    ScalarFollows environment file value other ∧
      Tracks environment file rest after := by
  obtain ⟨_, isWord, same⟩ := Outcome.map_eq_ok_iff.mp isRead
  obtain ⟨_, isWordToo, sameToo⟩ := Outcome.map_eq_ok_iff.mp isReadToo
  cases same
  cases sameToo
  exact ⟨.same notText, tracks.readWord noDollar isWord isWordToo⟩

/-- A scalar that is read in both texts is the same but for texts, and ends at
the same place. -/
theorem Tracks.readScalar {value other : Json.Value} {rest after : List Char}
    (plainValues : PlainValues environment file)
    (tracks : Tracks environment file text expanded)
    (noDollar : StartsWithout ['$'] rest)
    (isRead : readScalar? text = some (.ok (value, rest)))
    (isReadToo : readScalar? expanded = some (.ok (other, after))) :
    ScalarFollows environment file value other ∧
      Tracks environment file rest after := by
  have starts := starts_of_readScalar isRead
  cases text with
  | nil => cases isRead
  | cons char text =>
      obtain ⟨later, rfl, tail⟩ := tracks.cons fun isDollar =>
        starts (List.mem_singleton.mpr isDollar)
      unfold readScalar? at isRead isReadToo
      dsimp only at isRead isReadToo
      split at isRead
      · rename_i isNull
        rw [if_pos isNull] at isReadToo
        exact tail.readWordAs (by decide) (fun _ same => by cases same)
          (Option.some.inj isRead) (Option.some.inj isReadToo)
      rename_i notNull
      rw [if_neg notNull] at isReadToo
      split at isRead
      · rename_i isTrue
        rw [if_pos isTrue] at isReadToo
        exact tail.readWordAs (by decide) (fun _ same => by cases same)
          (Option.some.inj isRead) (Option.some.inj isReadToo)
      rename_i notTrue
      rw [if_neg notTrue] at isReadToo
      split at isRead
      · rename_i isFalse
        rw [if_pos isFalse] at isReadToo
        exact tail.readWordAs (by decide) (fun _ same => by cases same)
          (Option.some.inj isRead) (Option.some.inj isReadToo)
      rename_i notFalse
      rw [if_neg notFalse] at isReadToo
      split at isRead
      · rename_i isQuote
        rw [if_pos isQuote] at isReadToo
        obtain ⟨_, isText, same⟩ :=
          Outcome.map_eq_ok_iff.mp (Option.some.inj isRead)
        obtain ⟨_, isTextToo, sameToo⟩ :=
          Outcome.map_eq_ok_iff.mp (Option.some.inj isReadToo)
        cases same
        cases sameToo
        obtain ⟨inserted, others⟩ := tail.readLiteral plainValues isText isTextToo
        exact ⟨.text inserted, others⟩
      rename_i notQuote
      rw [if_neg notQuote] at isReadToo
      split at isRead
      · rename_i isNumber
        rw [if_pos isNumber] at isReadToo
        obtain ⟨_, isNumeral, same⟩ :=
          Outcome.map_eq_ok_iff.mp (Option.some.inj isRead)
        obtain ⟨_, isNumeralToo, sameToo⟩ :=
          Outcome.map_eq_ok_iff.mp (Option.some.inj isReadToo)
        cases same
        cases sameToo
        obtain ⟨isSame, others⟩ :=
          tracks.readNumber noDollar isNumeral isNumeralToo
        rw [isSame]
        exact ⟨.same (fun _ same => by cases same), others⟩
      · cases isRead

/-- A scalar type follows if it takes related values for related scalars. -/
theorem ScalarType.follows {type : ScalarType α} {related : α → α → Prop}
    (plainValues : PlainValues environment file)
    (accepts : ∀ {held other value last},
      ScalarFollows environment file held other →
      type.accept held.found = .ok value → type.accept other.found = .ok last →
      related value last) :
    Follows environment file type.reader related where
  starts isRead := by
    obtain ⟨held, isScalar, _⟩ := ScalarType.read_of_readText isRead
    exact starts_of_readScalar isScalar
  agrees tracks noDollar isRead isReadToo := by
    obtain ⟨held, isScalar, isAccepted⟩ := ScalarType.read_of_readText isRead
    obtain ⟨other, isOther, isAcceptedToo⟩ :=
      ScalarType.read_of_readText isReadToo
    have tracked := tracks.skipBlank (starts_of_readScalar isScalar)
    obtain ⟨follows, others⟩ :=
      tracked.readScalar plainValues noDollar isScalar isOther
    exact ⟨accepts follows isAccepted isAcceptedToo, others⟩

theorem plainText_follows (plainValues : PlainValues environment file) :
    Follows environment file Codec.plainText.toReader
      (TextFollows environment file) := by
  refine ScalarType.follows plainValues ?_
  intro held other value last follows isAccepted isAcceptedToo
  cases follows with
  | same notText =>
      cases held with
      | text held => exact absurd rfl (notText held)
      | number number => cases number <;> cases isAccepted
      | null | boolean | sequence | object => cases isAccepted
  | text follows =>
      cases isAccepted
      cases isAcceptedToo
      exact follows

/-- A scalar type that takes no text reads the same in both texts. -/
theorem ScalarType.follows_eq {type : ScalarType α}
    (plainValues : PlainValues environment file)
    (noText : ∀ text value, type.accept (.text text) ≠ .ok value) :
    Follows environment file type.reader (· = ·) := by
  refine ScalarType.follows plainValues ?_
  intro held other value last follows isAccepted isAcceptedToo
  cases follows with
  | same => exact Except.ok.inj (isAccepted.symm.trans isAcceptedToo)
  | text => exact absurd isAccepted (noText _ _)

theorem u32_follows (plainValues : PlainValues environment file) :
    Follows environment file Codec.u32.toReader (· = ·) :=
  ScalarType.follows_eq plainValues fun _ _ accepted => by cases accepted

theorem u64_follows (plainValues : PlainValues environment file) :
    Follows environment file Codec.u64.toReader (· = ·) :=
  ScalarType.follows_eq plainValues fun _ _ accepted => by cases accepted

theorem single_follows (plainValues : PlainValues environment file) :
    Follows environment file Codec.single.toReader (· = ·) :=
  ScalarType.follows_eq plainValues fun _ _ accepted => by cases accepted

namespace Follows

variable {reader : Reader α} {related : α → α → Prop}

theorem map {transform : α → β} {relatedToo : β → β → Prop}
    (follows : Follows environment file reader related)
    (keeps : ∀ value other, related value other →
      relatedToo (transform value) (transform other)) :
    Follows environment file (reader.map transform) relatedToo where
  starts isRead := by
    obtain ⟨⟨value, rest⟩, isValue, _⟩ := Outcome.map_eq_ok_iff.mp isRead
    exact follows.starts isValue
  agrees tracks noDollar isRead isReadToo := by
    obtain ⟨⟨value, rest⟩, isValue, same⟩ := Outcome.map_eq_ok_iff.mp isRead
    obtain ⟨⟨other, after⟩, isOther, sameToo⟩ :=
      Outcome.map_eq_ok_iff.mp isReadToo
    cases same
    cases sameToo
    obtain ⟨isRelated, others⟩ := follows.agrees tracks noDollar isValue isOther
    exact ⟨keeps value other isRelated, others⟩

theorem read_of_optional {allowance : Nat} {value : Option α} {rest : List Char}
    (isRead : reader.optional.text allowance text = .ok (value, rest)) :
    (∃ word, skipBlank text = 'n' :: word ∧
        Json.readWord ['u', 'l', 'l'] word = .ok rest ∧ value = none) ∨
      ∃ held, (∀ word, skipBlank text ≠ 'n' :: word) ∧
        reader.text allowance (skipBlank text) = .ok (held, rest) ∧
        value = some held := by
  unfold Reader.optional at isRead
  dsimp only at isRead
  split at isRead
  · rename_i word isStart
    obtain ⟨_, isWord, same⟩ := Outcome.map_eq_ok_iff.mp isRead
    cases same
    exact .inl ⟨word, isStart, isWord, rfl⟩
  · rename_i notNull
    obtain ⟨⟨held, _⟩, isHeld, same⟩ := Outcome.map_eq_ok_iff.mp isRead
    cases same
    exact .inr ⟨held, notNull, isHeld, rfl⟩

/-- The empty value stands in both texts, or in neither. -/
theorem optional (follows : Follows environment file reader (· = ·)) :
    Follows environment file reader.optional (· = ·) where
  starts isRead := by
    obtain ⟨word, isStart, _⟩ | ⟨held, _, isHeld, _⟩ := read_of_optional isRead
    · rw [isStart]
      exact fun isDollar => absurd (List.mem_singleton.mp isDollar) (by decide)
    · have starts := follows.starts isHeld
      rwa [Json.skipBlank_idem] at starts
  agrees := by
    intro allowance text expanded value other rest after tracks noDollar isRead
      isReadToo
    obtain ⟨word, isStart, isWord, rfl⟩ | ⟨held, notNull, isHeld, rfl⟩ :=
      read_of_optional isRead
    · obtain ⟨wordToo, isStartToo, others⟩ := tracks.start isStart (by decide)
      obtain ⟨other, isOther, isWordToo, rfl⟩ | ⟨_, notNullToo, _⟩ :=
        read_of_optional isReadToo
      · rw [isStartToo] at isOther
        cases isOther
        exact ⟨rfl, others.readWord (by decide) isWord isWordToo⟩
      · exact absurd isStartToo (notNullToo wordToo)
    · have starts := follows.starts isHeld
      rw [Json.skipBlank_idem] at starts
      have tracked := tracks.skipBlank starts
      obtain ⟨word, isNull, _⟩ | ⟨other, _, isOther, rfl⟩ :=
        read_of_optional isReadToo
      · rw [isNull] at tracked
        cases isStart : skipBlank text with
        | nil =>
            rw [isStart] at tracked
            cases tracked.eq_nil
        | cons char more =>
            rw [isStart] at tracked starts
            obtain ⟨later, same, _⟩ := tracked.cons fun isDollar =>
              starts (List.mem_singleton.mpr isDollar)
            rw [(List.cons.inj same).1] at notNull
            exact absurd isStart (notNull more)
      · obtain ⟨same, others⟩ := follows.agrees tracked noDollar isHeld isOther
        exact ⟨congrArg some same, others⟩

end Follows

end Parley.Config
