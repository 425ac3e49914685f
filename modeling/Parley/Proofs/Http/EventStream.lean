import Parley.Http.Exchange
import Parley.Proofs.Http.Response
import Parley.Proofs.Text.ValidPart

/-!
Contract: event streams and the pieces in which their bodies arrive.

How a body is cut into pieces makes no difference to its events, not even where
a character or the mark of the byte order is cut. A body whose last line is not
ended has no event in that line.

Owns: the reading of a body as a whole and of a line that is not ended, and
`Response.Holds`.
-/

namespace Parley.Http

open Parley.Text (Bytes Utf8.encode Utf8.pieces Utf8.piecesOnto Utf8.validPart
  Utf8.validPart_nil Utf8.validPart_append Utf8.validPart_encode)

namespace Feed

/-! ## Pieces -/

/-- The mark stands at the start of the text that comes first, if any does. -/
theorem dropMark_append {text : List Char} (nonempty : text ≠ [])
    (more : List Char) : dropMark (text ++ more) = dropMark text ++ more := by
  cases text with
  | nil => exact absurd rfl nonempty
  | cons char rest =>
      by_cases isMark : char = '\uFEFF'
      · subst isMark
        rfl
      · have kept (tail : List Char) : dropMark (char :: tail) = char :: tail := by
          rw [dropMark]
          rintro rest ⟨⟩
          exact isMark rfl
        rw [List.cons_append, kept, kept, List.cons_append]

private theorem counted_append (started : Bool) (first second : List Char) :
    (if started then first ++ second else dropMark (first ++ second)) =
      (if started then first else dropMark first) ++
        if started || !first.isEmpty then second else dropMark second := by
  cases started with
  | true => rfl
  | false =>
      cases first with
      | nil => rfl
      | cons char rest => exact dropMark_append (List.cons_ne_nil _ _) second

/-- Two pieces are read as if they were one. -/
theorem take_take (feed : Feed) (first second : Bytes) :
    (feed.take first).take second = feed.take (first ++ second) := by
  -- The mark is dropped from the first piece that has any text, and from no other.
  simp only [take]
  rw [← List.append_assoc, Utf8.validPart_append (feed.undecoded ++ first),
    counted_append, List.foldl_append, Bool.or_assoc]
  congr 2
  generalize (Utf8.validPart (feed.undecoded ++ first)).1 = text
  cases text <;> rfl

private theorem take_pieces (feed : Feed) (first : Bytes)
    (pieces : List Bytes) :
    pieces.foldl take (feed.take first) =
      feed.take (first ++ pieces.flatten) := by
  induction pieces generalizing first with
  | nil => rw [List.flatten_nil, List.append_nil, List.foldl_nil]
  | cons piece pieces inductionHypothesis =>
      rw [List.foldl_cons, take_take, inductionHypothesis, List.flatten_cons,
        List.append_assoc]

private theorem start_take_nil : start.take [] = start := by
  simp only [take, start, List.append_nil, Utf8.validPart_nil]
  rfl

/-- The pieces of a body are read as if they were one. -/
theorem read_pieces (pieces : List Bytes) :
    pieces.foldl take start = start.take pieces.flatten := by
  have read := take_pieces start [] pieces
  rw [start_take_nil, List.nil_append] at read
  exact read

end Feed

/-- How a body is cut makes no difference. -/
theorem events_flatten (pieces : List Bytes) (ending : Ending) :
    events pieces ending = events [pieces.flatten] ending := by
  unfold events
  rw [Feed.read_pieces, List.foldl_cons, List.foldl_nil]

private theorem leftFault?_nil : leftFault? [] = none := by
  rw [leftFault?, Utf8.pieces, Utf8.piecesOnto]
  rfl

/-- The events of a complete body are those of its text. -/
theorem events_of_encoded {pieces : List Bytes} {text : String}
    (encoded : pieces.flatten = Utf8.encode text) :
    events pieces .complete =
      (((Feed.dropMark text.toList).foldl Scan.step
        .start).events.reverse, none) := by
  rw [events, Feed.read_pieces, encoded]
  simp only [Feed.take, Feed.start, List.nil_append, Utf8.validPart_encode,
    leftFault?_nil, Bool.false_eq_true, if_false]

/-! ## A line that is not ended -/

/-- Characters that end no line are added to the line under way. -/
theorem Scan.foldl_step_unended {scan : Scan} {chars : List Char}
    (notReturned : scan.returned = false)
    (unended : ∀ char ∈ chars, char ≠ '\n' ∧ char ≠ '\r') :
    chars.foldl Scan.step scan =
      ⟨chars.reverse ++ scan.line, false, scan.draft, scan.events⟩ := by
  induction chars generalizing scan with
  | nil =>
      rw [← notReturned]
      rfl
  | cons char chars inductionHypothesis =>
      have ⟨notFeed, notReturn⟩ := unended char List.mem_cons_self
      have stepped : scan.step char =
          ⟨char :: scan.line, false, scan.draft, scan.events⟩ := by
        rw [Scan.step, notReturned, if_neg Bool.false_ne_true, Scan.takeChar,
          if_neg notFeed, if_neg notReturn, notReturned]
      rw [List.foldl_cons, stepped,
        inductionHypothesis rfl
          fun other member => unended other (List.mem_cons_of_mem _ member),
        List.reverse_cons, List.append_assoc]
      rfl

private theorem Feed.mem_of_mem_dropMark {text : List Char} {char : Char}
    (member : char ∈ Feed.dropMark text) : char ∈ text := by
  unfold Feed.dropMark at member
  split at member
  · exact List.mem_cons_of_mem _ member
  · exact member

/-- A complete body that is one line, which is not ended, has no events and
nothing that breaks the stream. -/
theorem events_of_unended_line {pieces : List Bytes} {text : String}
    (encoded : pieces.flatten = Utf8.encode text)
    (unended : ∀ char ∈ text.toList, char ≠ '\n' ∧ char ≠ '\r') :
    events pieces .complete = ([], none) := by
  rw [events_of_encoded encoded, Scan.foldl_step_unended rfl
    fun char member => unended char (Feed.mem_of_mem_dropMark member)]
  rfl

/-! ## Responses -/

/-- Whether a response reports success and what is sent as its whole body is a
text in UTF-8, which is not coded any further. -/
structure Response.Holds (response : Response) (text : String) : Prop where
  succeeds : response.status.isSuccess = true
  uncoded : response.isCoded = false
  complete : response.transfer.2 = .complete
  encoded : response.transfer.1.flatten = Utf8.encode text

/-- The text arrives, in whatever pieces. -/
theorem Response.Holds.body_eq {response : Response} {text : String}
    (holds : response.Holds text) :
    ∃ pieces, response.body = (pieces, .complete) ∧
      pieces.flatten = Utf8.encode text :=
  ⟨response.transfer.1,
    (body_of_uncoded holds.uncoded).trans (Prod.ext rfl holds.complete),
    holds.encoded⟩

/-- A text may be sent cut behind any of its bytes. -/
theorem Response.holds_of_cut {response : Response} {text : String} (count : Nat)
    (succeeds : response.status.isSuccess = true)
    (untold : tellCoding response.headers = false)
    (transferred : response.transfer = ([(Utf8.encode text).take count,
      (Utf8.encode text).drop count], .complete)) : response.Holds text where
  succeeds := succeeds
  uncoded := by rw [Response.isCoded, untold, Bool.and_false]
  complete := by rw [transferred]
  encoded := by
    rw [transferred, List.flatten_cons, List.flatten_singleton,
      List.take_append_drop]

/-- A streamed call takes a line that is not ended for a stream that ends
without an item. -/
theorem streamed_of_unended_line {response : Response} {text : String}
    (holds : response.Holds text)
    (unended : ∀ char ∈ text.toList, char ≠ '\n' ∧ char ≠ '\r')
    (id : RequestId) (model : String) :
    streamed id model (.ok response) = .ok ⟨[], true⟩ := by
  obtain ⟨pieces, isBody, encoded⟩ := holds.body_eq
  rw [streamed, accept, if_pos holds.succeeds]
  dsimp only
  rw [itemsOf, isBody]
  dsimp only
  rw [events_of_unended_line encoded unended]
  rfl

end Parley.Http
