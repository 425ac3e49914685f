import Parley.Proofs.Http.EventStream
import Parley.Proofs.Text.Parts
import Parley.Session.Relay

/-!
Contract: events that a server writes are read as what was written.

An event is written as a line for its kind, a line for each line of its data, and
a blank line. However the bytes of such events are cut, the events are found, in
order and with their data, even where the data is empty or has several lines.

Owns: `writeEvent`, `writeAnswer`, and the reading of both.
-/

namespace Parley.Http

open Parley.Session (StreamEvent)
open Parley.Text (Bytes Utf8.encode splitAt)

/-- Whether nothing in a text ends a line. -/
def IsLine (text : List Char) : Prop :=
  ∀ char ∈ text, char ≠ '\n' ∧ char ≠ '\r'

instance (text : List Char) : Decidable (IsLine text) :=
  List.decidableBAll _ _

/-- A field with its name, its value and its line end. -/
def writeField (name : String) (value : List Char) : List Char :=
  name.toList ++ ':' :: ' ' :: (value ++ ['\n'])

/-- An event with its kind and the lines of its data. -/
def writeEvent (kind : String) (data : List (List Char)) : List Char :=
  writeField "event" kind.toList ++ data.flatMap (writeField "data") ++ ['\n']

/-- The body of a streamed answer: its fragments, each of which is an event with
the lines of the fragment, and the event that marks the end, with lines of
its own. -/
def writeAnswer (fragments : List String) (finish : List (List Char)) :
    String :=
  String.ofList
    (fragments.flatMap
        (fun fragment => writeEvent "add" (splitAt '\n' fragment.toList)) ++
      writeEvent "finish" finish)

/-! ## Fields -/

/-- A name that holds no colon is found in front of the value. -/
theorem Draft.splitField_written {name value : List Char}
    (plain : name.all (· ≠ ':') = true) :
    Draft.splitField (name ++ ':' :: ' ' :: value) = (name, value) := by
  have before : (name ++ ':' :: ' ' :: value).takeWhile (· ≠ ':') = name := by
    rw [List.takeWhile_append_of_pos (List.all_eq_true.mp plain)]
    exact List.append_nil name
  rw [Draft.splitField, before, List.drop_left]
  rfl

private theorem Draft.addLine_event (draft : Draft) (kind : List Char) :
    draft.addLine ("event".toList ++ ':' :: ' ' :: kind) =
      ⟨kind, draft.data⟩ := by
  rw [Draft.addLine, Draft.splitField_written (by decide)]
  rfl

private theorem Draft.addLine_data (draft : Draft) (line : List Char) :
    draft.addLine ("data".toList ++ ':' :: ' ' :: line) =
      ⟨draft.kind, line :: draft.data⟩ := by
  rw [Draft.addLine, Draft.splitField_written (by decide)]
  rfl

namespace Scan

variable (draft : Draft) (events : List StreamEvent)

/-- A line that is ended is added to the event under way. -/
theorem foldl_step_line {line : List Char} (isLine : IsLine line)
    (nonempty : line ≠ []) :
    (line ++ ['\n']).foldl step ⟨[], false, draft, events⟩ =
      ⟨[], false, draft.addLine line, events⟩ := by
  rw [List.foldl_append, foldl_step_unended rfl isLine, List.append_nil]
  show endLine ⟨line.reverse, false, draft, events⟩ = _
  rw [endLine, if_neg (by rwa [List.isEmpty_iff, List.reverse_eq_nil_iff]),
    List.reverse_reverse]

theorem foldl_step_field {name : String} {value : List Char}
    (plain : IsLine name.toList) (isLine : IsLine value) :
    (writeField name value).foldl step ⟨[], false, draft, events⟩ =
      ⟨[], false, draft.addLine (name.toList ++ ':' :: ' ' :: value),
        events⟩ := by
  have written : writeField name value =
      (name.toList ++ ':' :: ' ' :: value) ++ ['\n'] := by
    rw [writeField, List.append_assoc]
    rfl
  rw [written]
  refine foldl_step_line draft events (fun char member => ?_)
    (List.append_ne_nil_of_right_ne_nil _ (List.cons_ne_nil _ _))
  rcases List.mem_append.mp member with inName | behind
  · exact plain char inName
  · rcases List.mem_cons.mp behind with rfl | behind
    · decide
    · rcases List.mem_cons.mp behind with rfl | inValue
      · decide
      · exact isLine char inValue

private theorem foldl_step_data {data : List (List Char)}
    (areLines : ∀ line ∈ data, IsLine line) :
    (data.flatMap (writeField "data")).foldl step ⟨[], false, draft, events⟩ =
      ⟨[], false, ⟨draft.kind, data.reverse ++ draft.data⟩, events⟩ := by
  induction data generalizing draft with
  | nil => rfl
  | cons line data inductionHypothesis =>
      rw [List.flatMap_cons, List.foldl_append,
        foldl_step_field draft events (by decide)
          (areLines line List.mem_cons_self),
        Draft.addLine_data,
        inductionHypothesis _ fun other member =>
          areLines other (List.mem_cons_of_mem _ member),
        List.reverse_cons, List.append_assoc]
      rfl

/-- An event that is read between two events is what its fields make. -/
theorem foldl_step_event {kind : String} {data : List (List Char)}
    (plain : IsLine kind.toList) (areLines : ∀ line ∈ data, IsLine line) :
    (writeEvent kind data).foldl step ⟨[], false, .empty, events⟩ =
      ⟨[], false, .empty,
        (Draft.event? ⟨kind.toList, data.reverse⟩).toList ++ events⟩ := by
  rw [writeEvent, List.foldl_append, List.foldl_append,
    foldl_step_field _ _ (by decide) plain, Draft.addLine_event,
    foldl_step_data _ _ areLines]
  dsimp only [Draft.empty]
  rw [List.append_nil]
  rfl

end Scan

/-! ## Events -/

/-- The event that brings a fragment. -/
def fragmentEvent (fragment : String) : StreamEvent :=
  ⟨StreamEvent.addKind, Utf8.encode fragment⟩

/-- The lines of a fragment make the fragment again. -/
theorem event?_of_fragment (fragment : String) :
    Draft.event? ⟨"add".toList, (splitAt '\n' fragment.toList).reverse⟩ =
      some (fragmentEvent fragment) := by
  have nonempty : (splitAt '\n' fragment.toList).reverse.isEmpty = false := by
    rw [List.isEmpty_eq_false_iff, ne_eq, List.reverse_eq_nil_iff]
    exact Text.splitAt_ne_nil _
  rw [Draft.event?, nonempty]
  rw [if_neg Bool.false_ne_true, List.reverse_reverse, Text.join_splitAt]
  have whole : String.ofList fragment.toList = fragment := String.ofList_toList
  dsimp only
  rw [whole]
  rfl

/-- A text without carriage returns is split into lines. -/
theorem isLine_of_mem_splitAt {text part : List Char}
    (noReturn : '\r' ∉ text) (isPart : part ∈ splitAt '\n' text) :
    IsLine part := by
  intro char member
  constructor
  · rintro rfl
    exact Text.not_mem_of_mem_splitAt isPart member
  · rintro rfl
    exact noReturn (Text.mem_of_mem_splitAt isPart member)

private theorem Scan.foldl_step_fragments (events : List StreamEvent)
    {fragments : List String}
    (noReturns : ∀ fragment ∈ fragments, '\r' ∉ fragment.toList) :
    (fragments.flatMap fun fragment =>
        writeEvent "add" (splitAt '\n' fragment.toList)).foldl Scan.step
        ⟨[], false, .empty, events⟩ =
      ⟨[], false, .empty, (fragments.map fragmentEvent).reverse ++ events⟩ := by
  induction fragments generalizing events with
  | nil => rfl
  | cons fragment fragments inductionHypothesis =>
      rw [List.flatMap_cons, List.foldl_append,
        Scan.foldl_step_event _ (by decide) fun line =>
          isLine_of_mem_splitAt (noReturns fragment List.mem_cons_self),
        event?_of_fragment,
        inductionHypothesis _ fun other member =>
          noReturns other (List.mem_cons_of_mem _ member),
        List.map_cons, List.reverse_cons, List.append_assoc]
      rfl

/-- A streamed answer is read as the events of its fragments, and then the one
that marks the end, which is no event if it holds no data. -/
theorem events_of_answer {pieces : List Bytes} {fragments : List String}
    {finish : List (List Char)}
    (encoded : pieces.flatten = Utf8.encode (writeAnswer fragments finish))
    (noReturns : ∀ fragment ∈ fragments, '\r' ∉ fragment.toList)
    (areLines : ∀ line ∈ finish, IsLine line) :
    events pieces .complete =
      (fragments.map fragmentEvent ++
        (Draft.event? ⟨"finish".toList, finish.reverse⟩).toList, none) := by
  have unmarked : Feed.dropMark (writeAnswer fragments finish).toList =
      (writeAnswer fragments finish).toList := by
    rw [writeAnswer, String.toList_ofList]
    cases fragments <;> rfl
  rw [events_of_encoded encoded, unmarked, writeAnswer, String.toList_ofList,
    List.foldl_append, Scan.start, Scan.foldl_step_fragments _ noReturns,
    Scan.foldl_step_event _ (by decide) areLines, List.append_nil]
  dsimp only
  rw [List.reverse_append, List.reverse_reverse]
  cases Draft.event? ⟨"finish".toList, finish.reverse⟩ <;> rfl

/-- A streamed call finds the events of an answer, and nothing that breaks the
stream. -/
theorem streamed_of_answer {response : Response} {fragments : List String}
    {finish : List (List Char)}
    (holds : response.Holds (writeAnswer fragments finish))
    (noReturns : ∀ fragment ∈ fragments, '\r' ∉ fragment.toList)
    (areLines : ∀ line ∈ finish, IsLine line)
    (id : RequestId) (model : String) :
    streamed id model (.ok response) =
      .ok ⟨(fragments.map fragmentEvent ++
        (Draft.event? ⟨"finish".toList, finish.reverse⟩).toList).map .ok,
        true⟩ := by
  obtain ⟨pieces, isBody, encoded⟩ := holds.body_eq
  rw [streamed, accept, if_pos holds.succeeds]
  dsimp only
  rw [itemsOf, isBody]
  dsimp only
  rw [events_of_answer encoded noReturns areLines]
  exact congrArg (fun items => Except.ok (OpenStream.mk items true))
    (List.append_nil _)

end Parley.Http
