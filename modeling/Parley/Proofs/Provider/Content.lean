import Parley.Proofs.Json.Literal
import Parley.Proofs.Outcome
import Parley.Proofs.Text.Blank
import Parley.Provider.Content

/-!
Contract: what becomes of the content of a candidate.

Content is read as one JSON string literal with blanks around it, and nothing
else is read as one. The answer is the text that the literal denotes, trimmed;
there is none if nothing is left. From the metadata of an answer the three
counts of tokens can be told, where a count that is absent is zero.

Owns: what `Codec.plainText` reads, `tokensIn`, and the outcomes of
`decodeGeneration`.
-/

namespace Parley

open Parley.Chat (Info)
open Parley.Json (Blanks Denotes Escapes IsLiteral SpellsUnit insertMember
  readLiteral readScalar?)
open Parley.Text (IsWhiteSpace Trimmed)
open Parley.Wire (Usage)

/-! ## Texts in JSON -/

namespace Schema

/-- What starts with no quote is read as no text. -/
theorem found_of_readScalar? {char : Char} {rest after : List Char}
    {value : Json.Value} (notQuote : char ≠ '"')
    (read : readScalar? (char :: rest) = some (.ok (value, after)))
    (text : String) : value.found ≠ .text text := by
  have other {α : Type} {reading : Except Json.Fault α}
      {transform : α → Json.Value × List Char}
      (read : some (reading.map transform) = some (.ok (value, after)))
      (noText : ∀ part, (transform part).1.found ≠ .text text) :
      value.found ≠ .text text := by
    obtain ⟨part, _, isValue⟩ :=
      Outcome.map_eq_ok_iff.mp (Option.some.inj read)
    have noTextThere := noText part
    rwa [isValue] at noTextThere
  simp only [readScalar?, if_neg notQuote] at read
  split at read
  · exact other read fun _ same => by cases same
  split at read
  · exact other read fun _ same => by cases same
  split at read
  · exact other read fun _ same => by cases same
  split at read
  · refine other read fun part => ?_
    cases part.1 <;> simp [Json.Value.found]
  · cases read

private theorem accept_text_eq_ok_iff {found : Found} {text : String} :
    textType.accept found = .ok text ↔ found = .text text := by
  cases found with
  | text value =>
      show Except.ok value = Except.ok text ↔ _
      rw [Except.ok.injEq, Found.text.injEq]
  | _ => constructor <;> (intro same; cases same)

/-- A text starts with a quote, behind which a literal stands. -/
theorem readStart_text_eq_ok_iff {text after : List Char} {read : String} :
    textType.readStart text = .ok (read, after) ↔
      ∃ rest, text = '"' :: rest ∧ readLiteral rest = .ok (read, after) := by
  constructor
  · intro isRead
    unfold ScalarType.readStart at isRead
    split at isRead
    · cases isRead
    · rename_i value rest scalar
      split at isRead
      · rename_i accepted isAccepted
        obtain ⟨rfl, rfl⟩ := Prod.mk.inj (Except.ok.inj isRead)
        have isText := accept_text_eq_ok_iff.mp isAccepted
        cases text with
        | nil => cases scalar
        | cons char more =>
            by_cases isQuote : char = '"'
            · subst isQuote
              obtain ⟨⟨held, rest⟩, isLiteral, same⟩ :=
                Outcome.map_eq_ok_iff.mp (Option.some.inj scalar)
              obtain ⟨rfl, rfl⟩ := Prod.mk.inj same
              obtain rfl := Found.text.inj isText
              exact ⟨more, rfl, isLiteral⟩
            · exact absurd isText (found_of_readScalar? isQuote scalar _)
      · cases isRead
    · split at isRead <;> cases isRead
  · rintro ⟨rest, rfl, isLiteral⟩
    have scalar : readScalar? ('"' :: rest) =
        some (.ok (.text read, after)) := by
      show some ((readLiteral rest).map _) = _
      rw [isLiteral]
      rfl
    unfold ScalarType.readStart
    rw [scalar]
    rfl

/-- A whole text is read as a text exactly if it is a literal. -/
theorem parse_plainText_eq_ok_iff {raw text : String} :
    Codec.plainText.parse raw = .ok text ↔ IsLiteral raw text := by
  have parsed : Codec.plainText.parse raw = .ok text ↔
      Json.closeText (textType.readText raw.toList) = .ok text :=
    Outcome.mapError_eq_ok_iff
  rw [parsed, Json.closeText_eq_ok_iff]
  constructor
  · rintro ⟨after, isRead, blankAfter⟩
    rw [ScalarType.readText] at isRead
    split at isRead
    · cases isRead
    · rename_i char rest started
      obtain ⟨more, isQuote, isLiteral⟩ := readStart_text_eq_ok_iff.mp isRead
      rw [isQuote] at started
      obtain ⟨before, split, blankBefore⟩ :=
        Json.skipBlank_eq_quote_iff.mp started
      obtain ⟨body, rfl, denotes⟩ := Json.readLiteral_eq_ok_iff.mp isLiteral
      exact ⟨before, body, after, split, blankBefore, denotes, blankAfter⟩
  · rintro ⟨before, body, after, split, blankBefore, denotes, blankAfter⟩
    refine ⟨after, ?_, blankAfter⟩
    have started := Json.skipBlank_eq_quote_iff.mpr
      ⟨before, split, blankBefore⟩
    rw [ScalarType.readText, started]
    exact readStart_text_eq_ok_iff.mpr
      ⟨_, rfl, Json.readLiteral_eq_ok_iff.mpr ⟨body, rfl, denotes⟩⟩

end Schema

/-! ## Counts of tokens in metadata -/

namespace Json

/-- A member is found under its key, and no other member is lost. -/
theorem lookup_insertMember (key other : String) (value : Value)
    (members : List (String × Value)) :
    (insertMember key value members).lookup other =
      if other == key then some value else members.lookup other := by
  have found (rest : List (String × Value)) :
      ((key, value) :: rest).lookup other =
        if other == key then some value else rest.lookup other := by
    rw [List.lookup_cons]
    cases other == key <;> rfl
  induction members with
  | nil => exact found []
  | cons member rest inductionHypothesis =>
      obtain ⟨held, kept⟩ := member
      rw [insertMember]
      split
      · exact found _
      split
      · rename_i isHeld
        subst isHeld
        rw [found, List.lookup_cons]
        cases other == key <;> rfl
      · rename_i notHeld
        rw [List.lookup_cons, List.lookup_cons, inductionHypothesis]
        cases isOther : other == held with
        | false => rfl
        | true =>
            have differs : ¬ (other == key) = true := by
              rw [beq_iff_eq.mp isOther, beq_iff_eq]
              exact fun same => notHeld same.symm
            rw [if_neg differs, if_neg differs]

end Json

namespace Provider

/-- The count of tokens that metadata holds under a key, which is zero if it is
absent. -/
def tokensIn? (key : String) (info : Info) : Option Int :=
  match info.lookup key with
  | none => some 0
  | some (.number (.integer count)) => some count
  | some _ => none

section Counts

variable {key other : String} {tokens : UInt64} {value : Json.Value}
  {info : Info}

theorem lookup_part_other (differs : other ≠ key) :
    (if 0 < tokens then insertMember key value info else info).lookup other =
      info.lookup other := by
  split
  · rw [Json.lookup_insertMember, if_neg (mt beq_iff_eq.mp differs)]
  · rfl

theorem tokensIn?_count (key : String) (tokens : UInt64) (info : Info) :
    tokensIn? key (insertMember key (.number (.integer tokens.toNat)) info) =
      some (tokens.toNat : Int) := by
  rw [tokensIn?, Json.lookup_insertMember, if_pos BEq.rfl]

theorem tokensIn?_part (absent : info.lookup key = none) :
    tokensIn? key
        (if 0 < tokens then
          insertMember key (.number (.integer tokens.toNat)) info
        else info) = some (tokens.toNat : Int) := by
  split
  · exact tokensIn?_count key tokens info
  · rename_i notPositive
    have zero : tokens = 0 := UInt64.le_antisymm
      (UInt64.not_lt.mp notPositive) (UInt64.zero_le)
    rw [tokensIn?, absent, zero]
    rfl

/-- All three counts can be told from the metadata that is made of them. -/
theorem tokensIn?_usageInfo (usage : Usage) :
    tokensIn? "TotalTokens" (usageInfo usage) =
        some (usage.totalTokens.toNat : Int) ∧
      tokensIn? "PromptTokens" (usageInfo usage) =
        some (usage.promptTokens.toNat : Int) ∧
      tokensIn? "CompletionTokens" (usageInfo usage) =
        some (usage.completionTokens.toNat : Int) := by
  refine ⟨?_, ?_, ?_⟩
  · rw [tokensIn?, usageInfo, lookup_part_other (by decide),
      lookup_part_other (by decide), ← tokensIn?]
    exact tokensIn?_count _ _ _
  · rw [tokensIn?, usageInfo, lookup_part_other (by decide), ← tokensIn?]
    exact tokensIn?_part rfl
  · refine tokensIn?_part ?_
    rw [lookup_part_other (by decide)]
    rfl

end Counts

/-! ## Answers -/

theorem literalContent_eq_ok_iff {raw text : String} :
    literalContent raw = .ok text ↔ IsLiteral raw text := by
  rw [literalContent, Outcome.mapError_eq_ok_iff,
    Schema.parse_plainText_eq_ok_iff]

theorem trim_trimmed (text : String) :
    Trimmed text.toList (Text.trim text).toList := by
  rw [Text.trim, String.toList_ofList]
  exact Text.trimChars_trimmed text.toList

theorem trim_isEmpty_iff {text : String} :
    (Text.trim text).isEmpty = true ↔
      ∀ char ∈ text.toList, IsWhiteSpace char := by
  rw [← (trim_trimmed text).eq_nil_iff, String.isEmpty_iff,
    String.toList_eq_nil_iff]

section Outcomes

variable {raw text : String} (usage : Usage)

theorem decodeGeneration_of_malformed
    (malformed : ¬ ∃ text, IsLiteral raw text) :
    ∃ fault, decodeGeneration literalContent (some raw) usage =
      .error (.decode "choice content" fault) := by
  cases read : Schema.Codec.plainText.parse raw with
  | error fault =>
      refine ⟨fault, ?_⟩
      rw [decodeGeneration, literalContent, read]
      rfl
  | ok value =>
      exact absurd ⟨value, Schema.parse_plainText_eq_ok_iff.mp read⟩ malformed

theorem decodeGeneration_of_blank (literal : IsLiteral raw text)
    (blank : ∀ char ∈ text.toList, IsWhiteSpace char) :
    decodeGeneration literalContent (some raw) usage = .error .noContent := by
  rw [decodeGeneration, literalContent_eq_ok_iff.mpr literal]
  exact if_pos (trim_isEmpty_iff.mpr blank)

theorem decodeGeneration_of_visible (literal : IsLiteral raw text)
    (visible : ∃ char ∈ text.toList, ¬ IsWhiteSpace char) :
    decodeGeneration literalContent (some raw) usage =
      .ok ⟨Text.trim text, some (.assistant (Text.trim text)),
        usageInfo usage⟩ := by
  have notEmpty : ¬ (Text.trim text).isEmpty = true := by
    rw [trim_isEmpty_iff]
    obtain ⟨char, member, isVisible⟩ := visible
    exact fun blank => isVisible (blank char member)
  rw [decodeGeneration, literalContent_eq_ok_iff.mpr literal]
  exact if_neg notEmpty

/-- Content is malformed, blank or visible, and each of these leads elsewhere. -/
theorem decodeGeneration_cases (raw : String) :
    ((¬ ∃ text, IsLiteral raw text) ∧
        ∃ fault, decodeGeneration literalContent (some raw) usage =
          .error (.decode "choice content" fault)) ∨
      ∃ text, IsLiteral raw text ∧
        ((∀ char ∈ text.toList, IsWhiteSpace char) ∧
            decodeGeneration literalContent (some raw) usage =
              .error .noContent ∨
          (∃ char ∈ text.toList, ¬ IsWhiteSpace char) ∧
            decodeGeneration literalContent (some raw) usage =
              .ok ⟨Text.trim text, some (.assistant (Text.trim text)),
                usageInfo usage⟩) := by
  by_cases isLiteral : ∃ text, IsLiteral raw text
  · obtain ⟨text, literal⟩ := isLiteral
    right
    refine ⟨text, literal, ?_⟩
    by_cases blank : ∀ char ∈ text.toList, IsWhiteSpace char
    · left
      exact ⟨blank, decodeGeneration_of_blank usage literal blank⟩
    · right
      have visible : ∃ char ∈ text.toList, ¬ IsWhiteSpace char := by
        simpa only [Classical.not_forall, exists_prop] using blank
      exact ⟨visible, decodeGeneration_of_visible usage literal visible⟩
  · left
    exact ⟨isLiteral, decodeGeneration_of_malformed usage isLiteral⟩

private theorem decodeGeneration_eq_decode_iff :
    (∃ context fault, decodeGeneration literalContent (some raw) usage =
        .error (.decode context fault)) ↔
      ¬ ∃ text, IsLiteral raw text := by
  constructor
  · rintro ⟨context, fault, refused⟩
    rcases decodeGeneration_cases usage raw with
      ⟨malformed, _⟩ | ⟨text, _, ⟨_, empty⟩ | ⟨_, answered⟩⟩
    · exact malformed
    · cases empty.symm.trans refused
    · cases answered.symm.trans refused
  · intro malformed
    obtain ⟨fault, refused⟩ := decodeGeneration_of_malformed usage malformed
    exact ⟨_, fault, refused⟩

private theorem decodeGeneration_eq_emptyResponse_iff :
    (∃ code message, decodeGeneration literalContent (some raw) usage =
        .error (.emptyResponse code message)) ↔
      ∃ text, IsLiteral raw text ∧
        ∀ char ∈ text.toList, IsWhiteSpace char := by
  constructor
  · rintro ⟨code, message, empty⟩
    rcases decodeGeneration_cases usage raw with
      ⟨_, fault, refused⟩ | ⟨text, literal, ⟨blank, _⟩ | ⟨_, answered⟩⟩
    · cases refused.symm.trans empty
    · exact ⟨text, literal, blank⟩
    · cases answered.symm.trans empty
  · rintro ⟨text, literal, blank⟩
    exact ⟨_, _, decodeGeneration_of_blank usage literal blank⟩

/-- A text has at most one meaning as a literal. -/
theorem isLiteral_unique {other : String} (literal : IsLiteral raw text)
    (otherLiteral : IsLiteral raw other) : text = other := by
  rw [← literalContent_eq_ok_iff] at literal otherLiteral
  exact Except.ok.inj (literal.symm.trans otherLiteral)

end Outcomes

/-- Content is decoded to what its literal denotes, trimmed; it is refused if it
is no literal, and it is no answer if nothing is left. So every text can be
written in a way that is decoded to it. -/
theorem decodeGeneration_exact (usage : Usage) :
    (∀ raw,
      let result := decodeGeneration literalContent (some raw) usage
      ((∃ context fault, result = .error (.decode context fault)) ↔
          ¬ ∃ text, IsLiteral raw text) ∧
        ((∃ code message, result = .error (.emptyResponse code message)) ↔
          ∃ text, IsLiteral raw text ∧
            ∀ char ∈ text.toList, IsWhiteSpace char) ∧
        (∀ text, IsLiteral raw text →
          (∃ char ∈ text.toList, ¬ IsWhiteSpace char) →
          ∃ answer info,
            result = .ok ⟨answer, some ⟨.assistant, answer, none⟩, info⟩ ∧
              Trimmed text.toList answer.toList ∧
              tokensIn? "TotalTokens" info =
                some (usage.totalTokens.toNat : Int) ∧
              tokensIn? "PromptTokens" info =
                some (usage.promptTokens.toNat : Int) ∧
              tokensIn? "CompletionTokens" info =
                some (usage.completionTokens.toNat : Int)) ∧
        ∀ text other, IsLiteral raw text → IsLiteral raw other →
          text = other) ∧
    ∀ text,
      let written := Schema.Codec.plainText.toText text
      IsLiteral written text ∧
        ((∃ char ∈ text.toList, ¬ IsWhiteSpace char) →
          ∃ generation,
            decodeGeneration literalContent (some written) usage =
                .ok generation ∧
              Trimmed text.toList generation.text.toList) := by
  refine ⟨fun raw => ?_, fun text => ⟨Json.isLiteral_writeText text, ?_⟩⟩
  · intro result
    refine ⟨decodeGeneration_eq_decode_iff usage,
      decodeGeneration_eq_emptyResponse_iff usage, ?_,
      fun _ _ => isLiteral_unique⟩
    intro text literal visible
    exact ⟨_, _, decodeGeneration_of_visible usage literal visible,
      trim_trimmed text, tokensIn?_usageInfo usage⟩
  · intro visible
    exact ⟨_, decodeGeneration_of_visible usage
      (Json.isLiteral_writeText text) visible, trim_trimmed text⟩

/-- A pair of surrogates and a line break are escaped, and blanks stand around
the literal. -/
theorem decodeGeneration_escaped :
    ∃ info,
      decodeGeneration literalContent (some "\t\"\\uD83D\\ude00 a\\n\" ")
          ⟨4, 0, 4⟩ =
        .ok ⟨"😀 a", some ⟨.assistant, "😀 a", none⟩, info⟩ ∧
      tokensIn? "PromptTokens" info = some 4 ∧
      tokensIn? "CompletionTokens" info = some 0 := by
  have high : SpellsUnit ['D', '8', '3', 'D'] 0xD83D :=
    .digits (a := 13) (b := 8) (c := 3) (d := 13)
      (by decide) (by decide) (by decide) (by decide)
  have low : SpellsUnit ['d', 'e', '0', '0'] 0xDE00 :=
    .digits (a := 13) (b := 14) (c := 0) (d := 0)
      (by decide) (by decide) (by decide) (by decide)
  have smile := Escapes.pair high low (by decide) (by decide)
  have lineBreak : Escapes ['n'] '\n' := .short (by decide)
  have visible : Denotes (' ' :: 'a' :: '\\' :: (['n'] ++ [])) [' ', 'a', '\n'] :=
    .plain (by decide) (by decide) (by decide)
      (.plain (by decide) (by decide) (by decide) (.escaped lineBreak .nil))
  have literal : IsLiteral "\t\"\\uD83D\\ude00 a\\n\" " "😀 a\n" :=
    ⟨['\t'], _, [' '], by simp, by simp [Blanks], .escaped smile visible,
      by simp [Blanks]⟩
  obtain ⟨answer, info, answered, trimmed, _, prompt, completion⟩ :=
    ((decodeGeneration_exact ⟨4, 0, 4⟩).1 _).2.2.1 _ literal
      ⟨'a', by simp, by decide⟩
  have isAnswer : answer = "😀 a" := by
    apply String.toList_injective
    rw [trimmed.eq_trimChars]
    rfl
  exact ⟨info, isAnswer ▸ answered, prompt, completion⟩

end Provider

end Parley
