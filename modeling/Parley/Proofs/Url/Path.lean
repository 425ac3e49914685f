import Parley.Url.Address
import Mathlib.Data.List.DropRight

/-!
Contract: the path of an address whose text goes on behind a solidus.

What stands before the solidus leads through its segments with their dots
resolved, and this part of the path does not depend on what follows. Solidi at
the end of a text are solidi at the end of its path.

Owns: `isOuter`, `Plain`, `IsHosted`, `Trail.through`, `segmentsOf`, and the paths
of texts that segments or solidi are added to.
-/

namespace Parley.Url.Address

/-! ## Characters -/

/-- Whether a character is dropped at either end of a text. -/
def isOuter (char : Char) : Bool :=
  char.toNat ≤ 0x20

theorem isOuter_solidus : isOuter '/' = false := rfl

theorem isOuter_of_isIgnored {char : Char} (ignored : isIgnored char = true) :
    isOuter char = true := by
  rw [isIgnored, Bool.or_eq_true, Bool.or_eq_true, beq_iff_eq, beq_iff_eq,
    beq_iff_eq] at ignored
  rcases ignored with (rfl | rfl) | rfl <;> rfl

theorem isIgnored_of_visible {char : Char} (visible : isOuter char = false) :
    isIgnored char = false := by
  cases ignored : isIgnored char with
  | false => rfl
  | true =>
      rw [isOuter_of_isIgnored ignored] at visible
      cases visible

theorem dropIgnored_append (front back : List Char) :
    dropIgnored (front ++ back) = dropIgnored front ++ dropIgnored back :=
  List.filter_append front back

theorem dropIgnored_of_visible {text : List Char}
    (visible : ∀ char ∈ text, isIgnored char = false) :
    dropIgnored text = text :=
  List.filter_eq_self.mpr fun char member => by rw [visible char member]; rfl

/-! ## Segments -/

theorem splitSegments_ne_nil (special : Bool) (text : List Char) :
    splitSegments special text ≠ [] := by
  cases text with
  | nil => exact List.cons_ne_nil _ _
  | cons char rest =>
      rw [splitSegments]
      split
      · exact List.cons_ne_nil _ _
      · split <;> exact List.cons_ne_nil _ _

variable {special : Bool}

theorem splitSegments_separator {char : Char}
    (separates : isSeparator special char = true) (text : List Char) :
    splitSegments special (char :: text) = [] :: splitSegments special text := by
  rw [splitSegments, if_pos separates]

/-- A character that separates nothing is put in front of the first segment. -/
theorem splitSegments_cons {char : Char}
    (isInside : isSeparator special char = false) {text part : List Char}
    {parts : List (List Char)}
    (split : splitSegments special text = part :: parts) :
    splitSegments special (char :: text) = (char :: part) :: parts := by
  rw [splitSegments, if_neg (Bool.eq_false_iff.mp isInside), split]

/-- The segments of texts with a separator between them. -/
theorem splitSegments_append {char : Char}
    (separates : isSeparator special char = true) (front back : List Char) :
    splitSegments special (front ++ char :: back) =
      splitSegments special front ++ splitSegments special back := by
  induction front with
  | nil => exact splitSegments_separator separates back
  | cons first front inductionHypothesis =>
      cases isFirst : isSeparator special first with
      | true =>
          rw [List.cons_append, splitSegments_separator isFirst,
            splitSegments_separator isFirst, inductionHypothesis,
            List.cons_append]
      | false =>
          obtain ⟨part, parts, split⟩ := List.exists_cons_of_ne_nil
            (splitSegments_ne_nil special front)
          rw [split, List.cons_append] at inductionHypothesis
          rw [List.cons_append, splitSegments_cons isFirst inductionHypothesis,
            splitSegments_cons isFirst split, List.cons_append]

/-- What separates nothing goes to the last segment. -/
theorem splitSegments_extend {front more : List Char}
    (areInside : ∀ char ∈ more, isSeparator special char = false) :
    ∃ parts last, splitSegments special front = parts ++ [last] ∧
      splitSegments special (front ++ more) = parts ++ [last ++ more] := by
  induction front with
  | nil =>
      refine ⟨[], [], rfl, ?_⟩
      induction more with
      | nil => rfl
      | cons char more inductionHypothesis =>
          rw [List.forall_mem_cons] at areInside
          exact splitSegments_cons areInside.1 (inductionHypothesis areInside.2)
  | cons first front inductionHypothesis =>
      obtain ⟨parts, last, split, extended⟩ := inductionHypothesis
      cases isFirst : isSeparator special first with
      | true =>
          refine ⟨[] :: parts, last, ?_, ?_⟩
          · rw [splitSegments_separator isFirst, split, List.cons_append]
          · rw [List.cons_append, splitSegments_separator isFirst, extended,
              List.cons_append]
      | false =>
          cases parts with
          | nil =>
              exact ⟨[], first :: last, splitSegments_cons isFirst split,
                splitSegments_cons isFirst extended⟩
          | cons part parts =>
              exact ⟨(first :: part) :: parts, last,
                splitSegments_cons isFirst split,
                splitSegments_cons isFirst extended⟩

theorem splitSegments_inside {text : List Char}
    (areInside : ∀ char ∈ text, isSeparator special char = false) :
    splitSegments special text = [text] := by
  induction text with
  | nil => rfl
  | cons char rest inductionHypothesis =>
      rw [List.forall_mem_cons] at areInside
      exact splitSegments_cons areInside.1 (inductionHypothesis areInside.2)

theorem isSeparator_of_inside {char : Char}
    (isInside : endsAuthority special char = false) :
    isSeparator special char = false :=
  (Bool.or_eq_false_iff.mp (Bool.or_eq_false_iff.mp isInside).1).1

theorem isSeparator_solidus (special : Bool) :
    isSeparator special '/' = true := rfl

/-- The segments of a text that segments and solidi make up. -/
theorem splitSegments_writePath {first : List Char} {rest : List (List Char)}
    (areInside : ∀ segment ∈ first :: rest, ∀ char ∈ segment,
      isSeparator special char = false) :
    splitSegments special (first ++ writePath (.segments rest)) =
      first :: rest := by
  rw [List.forall_mem_cons] at areInside
  induction rest generalizing first with
  | nil =>
      rw [writePath, List.flatMap_nil, List.append_nil]
      exact splitSegments_inside areInside.1
  | cons segment rest inductionHypothesis =>
      show splitSegments special
        (first ++ '/' :: (segment ++ writePath (.segments rest))) = _
      rw [splitSegments_append (isSeparator_solidus special),
        splitSegments_inside areInside.1,
        inductionHypothesis (List.forall_mem_cons.mp areInside.2)]
      rfl

/-! ## Dots -/

/-- A segment of dots starts with a dot or an escape. -/
theorem isDots_cons {count : Nat} {char : Char} (notDot : char ≠ '.')
    (notPercent : char ≠ '%') (rest : List Char) :
    isDots count (char :: rest) = false := by
  unfold isDots
  split <;> simp_all

/-- The characters that dots and their escapes are written with. -/
theorem isDots_chars {count : Nat} {segment : List Char}
    (areDots : isDots count segment = true) :
    ∀ char ∈ segment, char ∈ ['.', '%', '2', 'e', 'E'] := by
  fun_induction isDots count segment with
  | case1 segment =>
      rw [List.isEmpty_iff.mp areDots]
      exact List.forall_mem_nil _
  | case2 count rest inductionHypothesis =>
      exact List.forall_mem_cons.mpr ⟨by decide, inductionHypothesis areDots⟩
  | case3 count digit rest inductionHypothesis =>
      rw [Bool.and_eq_true, Bool.or_eq_true, beq_iff_eq, beq_iff_eq] at areDots
      refine List.forall_mem_cons.mpr ⟨by decide, List.forall_mem_cons.mpr
        ⟨by decide, List.forall_mem_cons.mpr
          ⟨?_, inductionHypothesis areDots.2⟩⟩⟩
      rcases areDots.1 with rfl | rfl <;> decide
  | case4 => cases areDots

/-- A segment that a path holds as it is written. -/
structure Plain (segment : List Char) : Prop where
  visible : ∀ char ∈ segment, isOuter char = false
  inside : ∀ char ∈ segment, endsAuthority true char = false
  kept : Percent.encode Percent.inPath segment = segment
  notTwo : isDots 2 segment = false
  notOne : isDots 1 segment = false

theorem Plain.read {segment : List Char} (plain : Plain segment) :
    Percent.encode Percent.inPath (dropIgnored segment) = segment := by
  rw [dropIgnored_of_visible fun char member =>
    isIgnored_of_visible (plain.visible char member), plain.kept]

theorem plain_nil : Plain [] :=
  ⟨List.forall_mem_nil _, List.forall_mem_nil _, rfl, rfl, rfl⟩

/-! ## Trails -/

namespace Trail

/-- The text of the segments of a trail. -/
def text (trail : Trail) : List Char :=
  writePath (.segments trail.segments.reverse)

theorem text_add (trail : Trail) (segment : List Char) :
    text ⟨segment :: trail.segments, trail.fromDrive⟩ =
      trail.text ++ '/' :: segment := by
  simp only [text, writePath, List.reverse_cons, List.flatMap_append,
    List.flatMap_cons, List.flatMap_nil, List.append_nil]

/-- The trail after segments that more of the path follows. -/
def through (segments : List (List Char)) : Trail :=
  segments.foldl (fun trail segment => trail.step false false segment) start

theorem follow_append {isFile : Bool} {back : List (List Char)}
    (more : back ≠ []) (trail : Trail) (front : List (List Char)) :
    follow isFile trail (front ++ back) =
      follow isFile
        (front.foldl (fun trail segment => trail.step isFile false segment) trail)
        back := by
  induction front generalizing trail with
  | nil => rfl
  | cons segment front inductionHypothesis =>
      have isNotLast : (front ++ back).isEmpty = false :=
        List.isEmpty_eq_false_iff.mpr (List.append_ne_nil_of_right_ne_nil _ more)
      rw [List.cons_append, follow, isNotLast, List.foldl_cons]
      exact inductionHypothesis _

/-- What a path makes of a segment that is no dots. -/
theorem step_of_not_dots {segment plain : List Char}
    (isPlain : Percent.encode Percent.inPath (dropIgnored segment) = plain)
    (notTwo : isDots 2 plain = false) (notOne : isDots 1 plain = false)
    (trail : Trail) (isLast : Bool) :
    trail.step false isLast segment =
      ⟨plain :: trail.segments, trail.fromDrive⟩ := by
  simp only [step, Bool.false_and, Bool.false_eq_true, if_false, isPlain, notTwo,
    notOne, add]

/-- A last segment that is dots stands for an empty one behind them. -/
theorem text_step_last (trail : Trail) (segment : List Char) :
    ∃ count, (trail.step false true segment).text =
      (trail.step false false segment).text ++ List.replicate count '/' := by
  simp only [step, Bool.false_and, Bool.false_eq_true, if_false, close, if_true]
  split
  · exact ⟨1, text_add _ []⟩
  · split
    · exact ⟨1, text_add _ []⟩
    · exact ⟨0, (List.append_nil _).symm⟩

/-- Plain segments are put behind a path as they are. -/
theorem text_follow_plain {segments : List (List Char)}
    (arePlain : ∀ segment ∈ segments, Plain segment) (trail : Trail) :
    (follow false trail segments).text =
      trail.text ++ writePath (.segments segments) := by
  induction segments generalizing trail with
  | nil => exact (List.append_nil _).symm
  | cons segment rest inductionHypothesis =>
      rw [List.forall_mem_cons] at arePlain
      have isPlain := arePlain.1
      rw [follow, step_of_not_dots isPlain.read isPlain.notTwo isPlain.notOne,
        inductionHypothesis arePlain.2, text_add, List.append_assoc]
      rfl

end Trail

/-! ## Paths that go on -/

/-- Whether addresses with a scheme have a host and resolve the dots of their
paths, and their paths know no drives. -/
structure IsHosted (scheme : String) : Prop where
  special : isSpecial scheme = true
  notFile : scheme ≠ "file"

/-- The segments of a path that starts with a separator. Without any text there
are none. -/
def segmentsOf : List Char → List (List Char)
  | [] => []
  | _ :: text => splitSegments true text

private theorem dropSeparator_cons {char : Char}
    (separates : isSeparator special char = true) (text : List Char) :
    dropSeparator special (char :: text) = text := by
  have visible : isIgnored char = false := by
    rw [isSeparator, Bool.or_eq_true, Bool.and_eq_true, beq_iff_eq,
      beq_iff_eq] at separates
    rcases separates with rfl | ⟨_, rfl⟩ <;> rfl
  have first : dropIgnored (char :: text) = char :: dropIgnored text :=
    List.filter_cons_of_pos (by rw [visible]; rfl)
  rw [dropSeparator, first, List.head?_cons, Option.any_some, if_pos separates,
    dropVisible, visible, if_neg Bool.false_ne_true]
  cases text <;> rfl

variable {scheme : String}

theorem IsHosted.resolve (hosted : IsHosted scheme) (text : List Char) :
    resolve scheme text = Trail.follow false .start (splitSegments true text) := by
  rw [Address.resolve, beq_eq_false_iff_ne.mpr hosted.notFile, hosted.special]

/-- The text of a path, with the text of an address after its authority. -/
def pathText (scheme : String) (after : List Char) : List Char :=
  writePath (parseSegments scheme after)

private theorem IsHosted.pathText_nil (hosted : IsHosted scheme) :
    pathText scheme [] = ['/'] := by
  rw [pathText, parseSegments]
  show writePath (.segments (Address.resolve scheme []).segments.reverse) = _
  rw [hosted.resolve]
  rfl

theorem IsHosted.pathText_cons (hosted : IsHosted scheme) {char : Char}
    (separates : isSeparator true char = true) (text : List Char) :
    pathText scheme (char :: text) =
      (Trail.follow false .start (splitSegments true text)).text := by
  rw [pathText, parseSegments, hosted.special, dropSeparator_cons separates,
    hosted.resolve, Trail.text]

/-- Behind a solidus a path goes on from where its segments led before. -/
theorem IsHosted.pathText_append (hosted : IsHosted scheme) {after : List Char}
    (starts : ∀ char ∈ after.head?, isSeparator true char = true)
    {segments : List (List Char)} (some : segments ≠ [])
    (arePlain : ∀ segment ∈ segments, Plain segment) :
    pathText scheme (after ++ writePath (.segments segments)) =
      (Trail.through (segmentsOf after)).text ++
        writePath (.segments segments) := by
  obtain ⟨first, rest, rfl⟩ := List.exists_cons_of_ne_nil some
  have split : splitSegments true (first ++ writePath (.segments rest)) =
      first :: rest :=
    splitSegments_writePath fun segment member char inSegment =>
      isSeparator_of_inside ((arePlain segment member).inside char inSegment)
  rw [← Trail.text_follow_plain arePlain]
  show pathText scheme
    (after ++ '/' :: (first ++ writePath (.segments rest))) = _
  cases after with
  | nil =>
      rw [List.nil_append, hosted.pathText_cons (isSeparator_solidus true), split]
      rfl
  | cons char text =>
      rw [List.cons_append, hosted.pathText_cons (starts char rfl),
        splitSegments_append (isSeparator_solidus true), split,
        Trail.follow_append (List.cons_ne_nil _ _)]
      rfl

private theorem writePath_empty (count : Nat) :
    writePath (.segments (List.replicate count [])) =
      List.replicate count '/' := by
  induction count with
  | zero => rfl
  | succ count inductionHypothesis =>
      rw [List.replicate_succ, List.replicate_succ, ← inductionHypothesis]
      rfl

/-- Solidi at the end of the text of a path are solidi at the end of the path;
without any there may be one for a path without text or for dots. -/
theorem IsHosted.pathText_solidi (hosted : IsHosted scheme) {after : List Char}
    (starts : ∀ char ∈ after.head?, isSeparator true char = true)
    (count : Nat) :
    ∃ more, pathText scheme (after ++ List.replicate count '/') =
      (Trail.through (segmentsOf after)).text ++ List.replicate more '/' := by
  cases count with
  | succ count =>
      refine ⟨count + 1, ?_⟩
      rw [← writePath_empty]
      exact hosted.pathText_append starts (List.cons_ne_nil _ _)
        fun segment member => List.eq_of_mem_replicate member ▸ plain_nil
  | zero =>
      rw [List.replicate_zero, List.append_nil]
      cases after with
      | nil => exact ⟨1, hosted.pathText_nil⟩
      | cons char text =>
          obtain ⟨parts, last, split⟩ : ∃ parts last,
              splitSegments true text = parts ++ [last] :=
            ⟨_, _, (List.dropLast_concat_getLast
              (splitSegments_ne_nil true text)).symm⟩
          rw [hosted.pathText_cons (starts char rfl), split,
            Trail.follow_append (List.cons_ne_nil _ _), segmentsOf, split,
            Trail.through, List.foldl_append]
          exact Trail.text_step_last _ last

end Parley.Url.Address
