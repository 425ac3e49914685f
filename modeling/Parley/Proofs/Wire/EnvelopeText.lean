import Parley.Proofs.Schema.Arrangement
import Parley.Wire.Envelope

/-!
Contract: an envelope is read from every text that spells it.

The members of each object may stand in any order, with blanks between all
tokens. A field with the value that it has when it is absent may be left out, and
one without value may be `null`. Members that an object does not know are passed
over, whatever their values are and however deep they nest.

Owns: the fields of the objects of an envelope, `Envelope.SpelledBy`, and the
reading of such texts.
-/

namespace Parley.Wire

open Parley.Json (Entry Padded SpellsUnit WellFormed denotes_unescaped
  padded_self)
open Parley.Schema (Field Member ObjectText Reader Record Setter SpellsBoolean
  SpellsInteger SpellsList SpellsOptional SpellsText Unknown)

/-- Whether a JSON text is an object that spells fields, with any other members
between them. -/
def SpellsFields (fields : List Field) (text : List Char) : Prop :=
  ObjectText (Unknown (fields.map Field.key)) fields text

theorem SpellsFields.opens {fields : List Field} {text : List Char}
    (spells : SpellsFields fields text) : ∃ more, text = '\x7b' :: more := by
  obtain ⟨entries, _, enclosed⟩ := spells
  exact Json.Enclosed.opens enclosed

/-! ## Spellings -/

def Usage.fields (usage : Usage) : List Field := [
  ⟨"prompt_tokens", usage.promptTokens = 0,
    SpellsInteger usage.promptTokens.toNat⟩,
  ⟨"completion_tokens", usage.completionTokens = 0,
    SpellsInteger usage.completionTokens.toNat⟩,
  ⟨"total_tokens", usage.totalTokens = 0,
    SpellsInteger usage.totalTokens.toNat⟩]

/-- Whether a JSON text spells a count of tokens. -/
def Usage.SpelledBy (usage : Usage) : List Char → Prop :=
  SpellsFields usage.fields

def Choice.fields (choice : Choice) : List Field := [
  ⟨"role", choice.role = none, SpellsOptional SpellsText choice.role⟩,
  ⟨"content", False, SpellsText choice.content⟩]

/-- Whether a JSON text spells a candidate. -/
def Choice.SpelledBy (choice : Choice) : List Char → Prop :=
  SpellsFields choice.fields

def Answer.fields (answer : Answer) : List Field := [
  ⟨"request_id", answer.requestId = none,
    SpellsOptional SpellsText answer.requestId⟩,
  ⟨"task_id", answer.taskId = none, SpellsOptional SpellsText answer.taskId⟩,
  ⟨"task_status", answer.taskStatus = none,
    SpellsOptional SpellsText answer.taskStatus⟩,
  ⟨"choices", answer.choices = [], SpellsList Choice.SpelledBy answer.choices⟩,
  ⟨"usage", answer.usage = ⟨0, 0, 0⟩, answer.usage.SpelledBy⟩]

/-- Whether a JSON text spells an answer. -/
def Answer.SpelledBy (answer : Answer) : List Char → Prop :=
  SpellsFields answer.fields

def Envelope.fields (envelope : Envelope) : List Field := [
  ⟨"code", False, SpellsInteger envelope.code.toInt⟩,
  ⟨"msg", envelope.msg = "", SpellsText envelope.msg⟩,
  ⟨"success", envelope.success = false, SpellsBoolean envelope.success⟩,
  ⟨"data", envelope.data = none,
    SpellsOptional Answer.SpelledBy envelope.data⟩]

/-- Whether a JSON text spells an envelope. -/
def Envelope.SpelledBy (envelope : Envelope) : List Char → Prop :=
  SpellsFields envelope.fields

/-! ## Reading -/

/-- The fields of a count of tokens with what they set. -/
def Usage.setters (usage : Usage) : List (Setter Usage) :=
  usage.fields.zipWith Setter.mk [
    fun current => { current with promptTokens := usage.promptTokens },
    fun current => { current with completionTokens := usage.completionTokens },
    fun current => { current with totalTokens := usage.totalTokens }]

theorem Usage.restores (usage : Usage) :
    Usage.record.Restores 0 usage usage.setters := by
  refine .of_members (by decide) (.cons ?_ (.cons ?_ (.cons ?_ .nil)))
    (by simp [setters, fields, List.zipWith]) rfl
  · exact .plain (fun _ spells => spells.parses_u64) id rfl nofun
  · exact .plain (fun _ spells => spells.parses_u64) id rfl nofun
  · exact .plain (fun _ spells => spells.parses_u64) id rfl nofun

theorem Usage.SpelledBy.parses {usage : Usage} {text : List Char}
    (spelled : usage.SpelledBy text) :
    Usage.codec.toReader.Parses 1 text usage :=
  usage.restores.parses (Record.ignores_unknown rfl) spelled

/-- The fields of a candidate with what they set. -/
def Choice.setters (choice : Choice) : List (Setter Choice) :=
  choice.fields.zipWith Setter.mk [
    fun current => { current with role := choice.role },
    fun current => { current with content := choice.content }]

theorem Choice.restores (choice : Choice) :
    Choice.record.Restores 0 choice choice.setters := by
  refine .of_members (by decide) (.cons ?_ (.cons ?_ .nil))
    (by simp [setters, fields, List.zipWith]) rfl
  · exact .sparse (fun _ spells => spells.parses_text) id rfl nofun
  · exact .plain (fun _ spells => spells.parses) nofun rfl fun _ => id

theorem Choice.SpelledBy.parses {choice : Choice} {text : List Char}
    (spelled : choice.SpelledBy text) :
    Choice.codec.toReader.Parses 1 text choice :=
  choice.restores.parses (Record.ignores_unknown rfl) spelled

/-- The fields of an answer with what they set. -/
def Answer.setters (answer : Answer) : List (Setter Answer) :=
  answer.fields.zipWith Setter.mk [
    fun current => { current with requestId := answer.requestId },
    fun current => { current with taskId := answer.taskId },
    fun current => { current with taskStatus := answer.taskStatus },
    fun current => { current with choices := answer.choices },
    fun current => { current with usage := answer.usage }]

private theorem choices_parse {choices : List Choice} {text : List Char}
    (spells : SpellsList Choice.SpelledBy choices text) :
    Choice.codec.list.toReader.Parses 2 text choices := by
  refine spells.parses fun choice item spelled => ⟨?_, spelled.parses⟩
  obtain ⟨more, opened⟩ := SpellsFields.opens spelled
  exact ⟨'\x7b', more, opened, .inr (by decide)⟩

theorem Answer.restores (answer : Answer) :
    Answer.record.Restores 2 answer answer.setters := by
  refine .of_members (by decide)
    (.cons ?_ (.cons ?_ (.cons ?_ (.cons ?_ (.cons ?_ .nil)))))
    (by simp [setters, fields, List.zipWith]) rfl
  · exact .sparse (fun _ spells => spells.parses_text.mono (Nat.zero_le 2)) id
      rfl nofun
  · exact .sparse (fun _ spells => spells.parses_text.mono (Nat.zero_le 2)) id
      rfl nofun
  · exact .sparse (fun _ spells => spells.parses_text.mono (Nat.zero_le 2)) id
      rfl nofun
  · exact .plain (fun _ spells => choices_parse spells) id rfl nofun
  · exact .plain (fun _ spelled => spelled.parses.mono (Nat.le_succ 1)) id rfl
      nofun

theorem Answer.SpelledBy.parses {answer : Answer} {text : List Char}
    (spelled : answer.SpelledBy text) :
    Answer.codec.toReader.Parses 3 text answer :=
  answer.restores.parses (Record.ignores_unknown rfl) spelled

private theorem answer?_parses {answer : Option Answer} {text : List Char}
    (spells : SpellsOptional Answer.SpelledBy answer text) :
    Answer.codec.optional.toReader.Parses 3 text answer := by
  cases answer with
  | none =>
      obtain rfl : text = _ := spells
      exact Reader.optional_parses_none _ 3
  | some held =>
      have spelled : held.SpelledBy text := spells
      obtain ⟨more, opened⟩ := SpellsFields.opens spelled
      exact spelled.parses.optional opened (.inr (by decide)) (by decide)

/-- The fields of an envelope with what they set. -/
def Envelope.setters (envelope : Envelope) : List (Setter Envelope) :=
  envelope.fields.zipWith Setter.mk [
    fun current => { current with code := envelope.code },
    fun current => { current with msg := envelope.msg },
    fun current => { current with success := envelope.success },
    fun current => { current with data := envelope.data }]

theorem Envelope.restores (envelope : Envelope) :
    Envelope.record.Restores 3 envelope envelope.setters := by
  refine .of_members (by decide)
    (.cons ?_ (.cons ?_ (.cons ?_ (.cons ?_ .nil))))
    (by simp [setters, fields, List.zipWith]) rfl
  · exact .plain (fun _ spells => spells.parses_i64.mono (Nat.zero_le 3)) nofun
      rfl fun _ => id
  · exact .plain (fun _ spells => spells.parses.mono (Nat.zero_le 3)) id rfl
      nofun
  · exact .plain (fun _ spells => spells.parses.mono (Nat.zero_le 3)) id rfl
      nofun
  · exact .sparse (fun _ spells => answer?_parses spells) id rfl nofun

/-- An envelope is read from every text that spells it, with blanks around it:
in any order, with any other members, and with or without what it has anyway. -/
theorem Envelope.parse_any_spelling {envelope : Envelope} {core text : List Char}
    (spelled : envelope.SpelledBy core) (padded : Padded core text) :
    Envelope.codec.parse (String.ofList text) = .ok envelope :=
  Schema.Codec.parse_padded
    (envelope.restores.parses (Record.ignores_unknown rfl) spelled)
    (by decide) padded

/-- An answer with one candidate and nothing else. -/
def candidateEnvelope : Envelope :=
  ⟨200, "", false, some ⟨none, none, none, [⟨none, "你"⟩], ⟨0, 0, 0⟩⟩⟩

/-- The envelope with its code last, and with blanks, a `null`, a nested value and
half a surrogate pair that nobody asked for. -/
def reorderedEnvelope : String :=
  " \x7b\"data\": \x7b\"extra\":[[\x7b\x7d]]," ++
    "\"choices\":[\x7b\"content\":\"\\u4f60\"\x7d],\"task_id\":null\x7d," ++
    "\"x\":\"\\ud800\" ,\"code\":200\x7d"

private theorem reorderedEnvelope_spells :
    ∃ core, candidateEnvelope.SpelledBy core ∧
      String.ofList (' ' :: core) = reorderedEnvelope := by
  have unit : SpellsUnit "4f60".toList 0x4f60 :=
    .digits (a := 4) (b := 15) (c := 6) (d := 0) (by decide) (by decide)
      (by decide) (by decide)
  have content : SpellsText "你" _ :=
    ⟨_, rfl, .escaped (.unit unit (.inl (by decide))) .nil⟩
  have choice : Choice.SpelledBy ⟨none, "你"⟩ _ :=
    ⟨[⟨"content".toList, _⟩],
      .field [_] [] (denotes_unescaped (by decide))
        content (.nil (by simp)),
      .parts (.last (Entry.laidOut _ .nil .nil .nil .nil))⟩
  have choices : SpellsList Choice.SpelledBy [⟨none, "你"⟩] _ :=
    ⟨_, .parts (.last (padded_self _)), .cons choice .nil⟩
  have inner : WellFormed _ :=
    .object (.empty .nil) (List.forall_mem_nil _) (List.forall_mem_nil _)
  have middle : WellFormed _ :=
    .list (.parts (.last (padded_self _))) (List.forall_mem_singleton.mpr inner)
  have outer : WellFormed _ :=
    .list (.parts (.last (padded_self _))) (List.forall_mem_singleton.mpr middle)
  have answer : Answer.SpelledBy
      ⟨none, none, none, [⟨none, "你"⟩], ⟨0, 0, 0⟩⟩ _ :=
    ⟨[⟨"extra".toList, _⟩, ⟨"choices".toList, _⟩, ⟨"task_id".toList, _⟩],
      .other ⟨outer, "extra", denotes_unescaped (by decide), by decide⟩
        (.field [_, _, _] [_]
          (denotes_unescaped (by decide)) choices
          (.field [_] [_, _]
            (denotes_unescaped (by decide)) rfl (.nil (by simp)))),
      .parts (.next (Entry.laidOut _ .nil .nil .nil .nil)
        (.next (Entry.laidOut _ .nil .nil .nil .nil)
          (.last (Entry.laidOut _ .nil .nil .nil .nil))))⟩
  have half : SpellsUnit "d800".toList 0xd800 :=
    .digits (a := 13) (b := 8) (c := 0) (d := 0) (by decide) (by decide)
      (by decide) (by decide)
  have unasked : WellFormed _ := .scalar (.text (.unit half .nil))
  refine ⟨_, ⟨[⟨"data".toList, _⟩, ⟨"x".toList, _⟩, ⟨"code".toList, _⟩],
    .field [_, _, _] [] (denotes_unescaped (by decide)) answer
      (.other ⟨unasked, "x", denotes_unescaped (by decide), by decide⟩
        (.field [] [_, _] (denotes_unescaped (by decide)) rfl (.nil ?_))),
    .parts (.next (Entry.laidOut _ .nil .nil .space .nil)
      (.next (Entry.laidOut _ .nil .nil .nil .space)
        (.last (Entry.laidOut _ .nil .nil .nil .nil))))⟩, ?_⟩
  · exact List.forall_mem_cons.mpr ⟨rfl, List.forall_mem_singleton.mpr rfl⟩
  · decide

/-- An envelope in an order of its own is read as the one that it spells. -/
theorem reordered_envelope_read :
    Envelope.codec.parse reorderedEnvelope = .ok candidateEnvelope := by
  obtain ⟨core, spelled, isText⟩ := reorderedEnvelope_spells
  rw [← isText]
  exact Envelope.parse_any_spelling spelled
    ⟨[' '], [], by rw [List.append_nil]; rfl, .space, .nil⟩

end Parley.Wire
