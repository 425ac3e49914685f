import Parley.Proofs.Url.Scheme

/-!
Contract: texts of addresses that go on behind a solidus.

The solidi at the end of a text are taken off, and a solidus and more text are
put in their place. The parser reads both texts alike up to there, except that
blanks at the end of the first text, which it drops there, are in the middle of
the second one.

Owns: `beforeSolidi`, what a text has at its ends, and the `Anatomy` of an
address that was read.
-/

namespace Parley.Url.Address

/-! ## The ends of a text -/

theorem rdropWhile_split (inside : Char → Bool) (text : List Char) :
    ∃ dropped, text = text.rdropWhile inside ++ dropped ∧
      ∀ char ∈ dropped, inside char = true := by
  refine ⟨(text.reverse.takeWhile inside).reverse, ?_, fun char member => ?_⟩
  · rw [List.rdropWhile, ← List.reverse_append,
      List.takeWhile_append_dropWhile, List.reverse_reverse]
  · exact List.all_eq_true.mp List.all_takeWhile char
      (List.mem_reverse.mp member)

theorem rdropWhile_getLast? (inside : Char → Bool) (text : List Char) :
    ∀ char ∈ (text.rdropWhile inside).getLast?, inside char = false := by
  intro char isLast
  rw [List.rdropWhile, List.getLast?_reverse] at isLast
  have starts := List.head?_dropWhile_not inside text.reverse
  rw [Option.mem_def.mp isLast] at starts
  exact starts

theorem rdropWhile_of_getLast? {inside : Char → Bool} {text : List Char}
    (ends : ∀ char ∈ text.getLast?, inside char = false) :
    text.rdropWhile inside = text := by
  rw [List.rdropWhile_eq_self_iff]
  intro notEmpty
  rw [ends _ (List.getLast?_eq_getLast_of_ne_nil notEmpty)]
  exact Bool.false_ne_true

private theorem dropWhile_isOuter_append (front more : List Char) :
    (front ++ '/' :: more).dropWhile isOuter =
      front.dropWhile isOuter ++ '/' :: more := by
  rw [List.dropWhile_append]
  split
  · rename_i none
    rw [List.isEmpty_iff.mp none]
    rfl
  · rfl

/-- The part of a text before the solidi at its end. -/
def beforeSolidi (text : List Char) : List Char :=
  text.rdropWhile (· == '/')

private theorem beforeSolidi_split (text : List Char) :
    ∃ count, text = beforeSolidi text ++ List.replicate count '/' := by
  obtain ⟨dropped, split, areSolidi⟩ := rdropWhile_split (· == '/') text
  refine ⟨dropped.length, ?_⟩
  rw [← List.eq_replicate_iff.mpr
    ⟨rfl, fun char member => beq_iff_eq.mp (areSolidi char member)⟩]
  exact split

/-- In front of a solidus and visible text nothing is dropped at the end. -/
theorem trimControls_append (front : List Char) {more : List Char}
    (visible : ∀ char ∈ more.getLast?, isOuter char = false) :
    trimControls (front ++ '/' :: more) =
      front.dropWhile isOuter ++ '/' :: more := by
  show ((front ++ '/' :: more).dropWhile isOuter).rdropWhile isOuter = _
  rw [dropWhile_isOuter_append]
  refine rdropWhile_of_getLast? fun char isLast => ?_
  rw [List.getLast?_append_cons] at isLast
  cases more with
  | nil =>
      cases isLast
      exact isOuter_solidus
  | cons next more =>
      rw [List.getLast?_cons_cons] at isLast
      exact visible char isLast

/-- What is read of a text with blanks in front of it and behind it. Behind a
solidus there are no blanks. -/
theorem trimControls_split (text : List Char) :
    ∃ count core blanks,
      text = beforeSolidi text ++ List.replicate count '/' ∧
      (beforeSolidi text).dropWhile isOuter = core ++ blanks ∧
      trimControls text = core ++ List.replicate count '/' ∧
      (∀ char ∈ blanks, isOuter char = true) ∧
      ((0 < count ∧ blanks = []) ∨
        (count = 0 ∧ ∀ char ∈ core.getLast?, isOuter char = false)) := by
  obtain ⟨count, split⟩ := beforeSolidi_split text
  cases count with
  | zero =>
      rw [List.replicate_zero, List.append_nil] at split
      obtain ⟨blanks, cut, areBlanks⟩ :=
        rdropWhile_split isOuter (text.dropWhile isOuter)
      refine ⟨0, trimControls text, blanks, ?_, ?_, (List.append_nil _).symm,
        areBlanks, .inr ⟨rfl, rdropWhile_getLast? isOuter _⟩⟩
      · rw [List.replicate_zero, List.append_nil, ← split]
      · rw [← split]
        exact cut
  | succ count =>
      have visible : ∀ char ∈ (List.replicate count '/').getLast?,
          isOuter char = false := fun char isLast => by
        rw [List.eq_of_mem_replicate (List.mem_of_getLast? isLast)]
        exact isOuter_solidus
      have trimmed := trimControls_append (beforeSolidi text) visible
      rw [← List.replicate_succ, ← split] at trimmed
      exact ⟨count + 1, _, [], split, (List.append_nil _).symm, trimmed,
        List.forall_mem_nil _, .inl ⟨Nat.succ_pos _, rfl⟩⟩

/-! ## Queries and fragments -/

theorem hasNoTail_append {front back : List Char} :
    HasNoTail (front ++ back) ↔ HasNoTail front ∧ HasNoTail back :=
  List.forall_mem_append

theorem hasNoTail_solidi (count : Nat) :
    HasNoTail (List.replicate count '/') := by
  intro char member
  rw [List.eq_of_mem_replicate member]
  decide

theorem hasNoTail_of_class {inside : Char → Bool}
    (noQuery : inside '?' = false) (noFragment : inside '#' = false)
    {text : List Char} (areInside : ∀ char ∈ text, inside char = true) :
    HasNoTail text := by
  intro char member
  have isInside := areInside char member
  constructor
  · rintro rfl
    exact Bool.false_ne_true (noQuery.symm.trans isInside)
  · rintro rfl
    exact Bool.false_ne_true (noFragment.symm.trans isInside)

/-- A scan passes over no question mark and no number sign. -/
theorem hasNoTail_dropWhile {inside : Char → Bool}
    (noQuery : inside '?' = false) (noFragment : inside '#' = false)
    (text : List Char) : HasNoTail (text.dropWhile inside) ↔ HasNoTail text := by
  have passed : HasNoTail (text.takeWhile inside) :=
    hasNoTail_of_class noQuery noFragment
      (List.all_eq_true.mp List.all_takeWhile)
  rw [← iff_of_eq (congrArg HasNoTail (List.takeWhile_append_dropWhile :
    text.takeWhile inside ++ text.dropWhile inside = text)), hasNoTail_append]
  exact ⟨fun noTail => ⟨passed, noTail⟩, And.right⟩

theorem hasNoTail_of_isOuter {text : List Char}
    (areOuter : ∀ char ∈ text, isOuter char = true) : HasNoTail text :=
  hasNoTail_of_class rfl rfl areOuter

private theorem hasNoTail_dropIgnored {text : List Char} :
    HasNoTail (dropIgnored text) ↔ HasNoTail text := by
  refine ⟨fun noTail char member => ?_, fun noTail char member =>
    noTail char (List.mem_filter.mp member).1⟩
  cases ignored : isIgnored char with
  | true =>
      have isSmall := isOuter_of_isIgnored ignored
      exact hasNoTail_of_isOuter (List.forall_mem_singleton.mpr isSmall) char
        (List.mem_singleton_self char)
  | false =>
      exact noTail char (List.mem_filter.mpr ⟨member, by rw [ignored]; rfl⟩)

/-- A scheme has no query and no fragment. -/
theorem takeScheme_split {text rest : List Char} {scheme : String}
    (taken : takeScheme text = some (scheme, rest)) :
    ∃ name, text = name ++ ':' :: rest ∧ HasNoTail name := by
  unfold takeScheme at taken
  dsimp only at taken
  split at taken
  · rename_i left
    split at taken
    · cases taken
      refine ⟨_, scan_split left, hasNoTail_of_class ?_ ?_
        (List.all_eq_true.mp List.all_takeWhile)⟩
      · rfl
      · rfl
    · cases taken
  · cases taken

/-! ## Anatomy -/

theorem dropIgnored_solidi (count : Nat) :
    dropIgnored (List.replicate count '/') = List.replicate count '/' :=
  dropIgnored_of_visible fun char member => by
    rw [List.eq_of_mem_replicate member]
    rfl

/-- The authority of a text, what follows it up to the solidi at the end, their
number, and the blanks between the two that the parser drops. -/
structure Anatomy (text scheme : String) (written after hidden : List Char)
    (count : Nat) : Prop where
  isAuthority : IsAuthority written
  starts : ∀ char ∈ after.head?, endsAuthority true char = true
  read : parse text =
    parseHosted scheme (written ++ (after ++ List.replicate count '/'))
  continued : ∀ more, (∀ char ∈ more, isOuter char = false) →
    parse (String.ofList (beforeSolidi text.toList ++ '/' :: more)) =
      parseHosted scheme (written ++ (after ++ (hidden ++ '/' :: more)))
  noTail : HasNoTail text.toList ↔ HasNoTail after
  areHidden : ∀ char ∈ hidden, isOuter char = true ∧ isIgnored char = false
  atEnd : hidden ≠ [] → count = 0
  noneHidden : hidden = [] ↔
    ∀ char ∈ (dropIgnored text.toList).getLast?, isOuter char = false

variable {scheme : String}

private theorem IsHosted.parseHosted_nil (hosted : IsHosted scheme) :
    parseHosted scheme [] = .error .emptyHost := by
  rw [← List.append_nil [], hosted.parseHosted_append (List.forall_mem_nil _)
    (fun _ isFirst => by cases isFirst)]
  simp only [parseAuthority, hosted.special, Bool.true_or, if_true]
  rfl

/-- Whether blanks are dropped at the end shows in the last character that is
not ignored. -/
theorem hidden_eq_nil_iff {lead core blanks : List Char} {count : Nat}
    (notEmpty : core ≠ []) (areBlanks : ∀ char ∈ blanks, isOuter char = true)
    (ends : (0 < count ∧ blanks = []) ∨
      (count = 0 ∧ ∀ char ∈ core.getLast?, isOuter char = false)) :
    dropIgnored blanks = [] ↔
      ∀ char ∈ (dropIgnored (lead ++ (core ++ blanks) ++
        List.replicate count '/')).getLast?, isOuter char = false := by
  rcases ends with ⟨some, rfl⟩ | ⟨rfl, isVisible⟩
  · refine ⟨fun _ char isLast => ?_, fun _ => rfl⟩
    obtain ⟨rest, rfl⟩ := Nat.exists_eq_add_one.mpr some
    rw [dropIgnored_append, dropIgnored_solidi, List.replicate_succ',
      ← List.append_assoc, List.getLast?_concat] at isLast
    cases isLast
    exact isOuter_solidus
  · rw [List.replicate_zero, List.append_nil]
    constructor
    · intro noneHidden
      obtain ⟨front, last, rfl⟩ :=
        (List.eq_nil_or_concat' core).resolve_left notEmpty
      have lastVisible := isVisible last List.getLast?_concat
      have kept : dropIgnored [last] = [last] :=
        dropIgnored_of_visible (List.forall_mem_singleton.mpr
          (isIgnored_of_visible lastVisible))
      intro char isLast
      rw [dropIgnored_append, dropIgnored_append, noneHidden, List.append_nil,
        dropIgnored_append, kept, ← List.append_assoc, List.getLast?_concat]
        at isLast
      cases isLast
      exact lastVisible
    · intro visible
      rcases List.eq_nil_or_concat' (dropIgnored blanks) with
        none | ⟨front, last, someHidden⟩
      · exact none
      have isLast : last ∈ (dropIgnored (lead ++ (core ++ blanks))).getLast? := by
        rw [dropIgnored_append, dropIgnored_append, someHidden,
          ← List.append_assoc, ← List.append_assoc, List.getLast?_concat]
        rfl
      have isBlank := areBlanks last (List.mem_filter.mp
        (someHidden ▸ List.mem_append_right front (List.mem_singleton_self last))).1
      rw [visible last isLast] at isBlank
      cases isBlank

/-- Behind separators only there is no host. -/
theorem IsHosted.body_ne_nil (hosted : IsHosted scheme) {text : List Char}
    {count : Nat} {address : Address}
    (read : parseHosted scheme ((text ++ List.replicate count '/').dropWhile
      (isSeparator true)) = .ok address) :
    text.dropWhile (isSeparator true) ≠ [] := by
  intro empty
  have allSeparate : (List.replicate count '/').dropWhile (isSeparator true) =
      [] := List.dropWhile_eq_nil_iff.mpr fun char member => by
    rw [List.eq_of_mem_replicate member]
    rfl
  rw [List.dropWhile_append, empty, List.isEmpty_nil, if_pos rfl, allSeparate,
    hosted.parseHosted_nil] at read
  cases read

/-- A text is an authority and what follows it. -/
theorem exists_authority (text : List Char) :
    ∃ written after, written ++ after = text ∧ IsAuthority written ∧
      (∀ char ∈ after.head?, endsAuthority true char = true) ∧
      (HasNoTail after ↔ HasNoTail text) := by
  refine ⟨text.takeWhile (!endsAuthority true ·),
    text.dropWhile (!endsAuthority true ·), List.takeWhile_append_dropWhile,
    fun char member => ?_, fun char isFirst => ?_, hasNoTail_dropWhile rfl rfl text⟩
  · have inside := List.all_eq_true.mp List.all_takeWhile char member
    exact (Bool.not_eq_true' _).mp inside
  · have starts := List.head?_dropWhile_not (!endsAuthority true ·) text
    rw [Option.mem_def.mp isFirst] at starts
    exact (Bool.not_eq_false' _).mp starts

/-- A scheme, blanks and solidi are no query and no fragment. -/
theorem hasNoTail_around {lead name rest blanks : List Char} (count : Nat)
    (areOuter : ∀ char ∈ lead, isOuter char = true) (inName : HasNoTail name)
    (areBlanks : ∀ char ∈ blanks, isOuter char = true) :
    HasNoTail (lead ++ (name ++ ':' :: rest ++ blanks) ++
      List.replicate count '/') ↔ HasNoTail rest := by
  have colon : HasNoTail [':'] := List.forall_mem_singleton.mpr (by decide)
  rw [← List.singleton_append, hasNoTail_append, hasNoTail_append,
    hasNoTail_append, hasNoTail_append, hasNoTail_append]
  exact ⟨fun noTail => noTail.1.2.1.2.2, fun noTail =>
    ⟨⟨hasNoTail_of_isOuter areOuter, ⟨inName, colon, noTail⟩,
      hasNoTail_of_isOuter areBlanks⟩, hasNoTail_solidi count⟩⟩

/-- Every address with a host that was read has an anatomy. -/
theorem anatomy {text : String} {address : Address}
    (parsed : parse text = .ok address) (hosted : IsHosted address.scheme) :
    ∃ written after hidden count,
      Anatomy text address.scheme written after hidden count := by
  obtain ⟨_, taken⟩ := takeScheme_of_parse parsed
  obtain ⟨count, core, blanks, split, cut, trimmed, areBlanks, ends⟩ :=
    trimControls_split text.toList
  have noColon : ':' ∉ List.replicate count '/' := fun member => by
    have same := List.eq_of_mem_replicate member
    cases same
  rw [trimmed] at taken
  obtain ⟨rest, inCore, rfl⟩ := takeScheme_of_append taken noColon
  obtain ⟨name, isCore, noTailInName⟩ := takeScheme_split inCore
  rw [← trimmed] at taken
  have read := hosted.parse taken
  rw [dropIgnored_append, dropIgnored_solidi] at read
  have notEmpty := hosted.body_ne_nil (read.symm.trans parsed)
  have goesOn (more : List Char) :
      (dropIgnored rest ++ more).dropWhile (isSeparator true) =
        (dropIgnored rest).dropWhile (isSeparator true) ++ more := by
    rw [List.dropWhile_append, if_neg (mt List.isEmpty_iff.mp notEmpty)]
  obtain ⟨written, after, isBody, isAuthority, starts, noTailInBody⟩ :=
    exists_authority ((dropIgnored rest).dropWhile (isSeparator true))
  have cutFront : beforeSolidi text.toList =
      (beforeSolidi text.toList).takeWhile isOuter ++ (core ++ blanks) := by
    rw [← cut, List.takeWhile_append_dropWhile]
  refine ⟨written, after, dropIgnored blanks, count,
    { isAuthority, starts, read := ?_, continued := fun more visible => ?_,
      noTail := ?_, areHidden := fun char member => ?_, atEnd := ?_,
      noneHidden := ?_ }⟩
  · rw [← List.append_assoc, isBody, ← goesOn]
    exact read
  · have isMore : dropIgnored ('/' :: more) = '/' :: more :=
      dropIgnored_of_visible (List.forall_mem_cons.mpr
        ⟨rfl, fun char member => isIgnored_of_visible (visible char member)⟩)
    have takenOn := takeScheme_append inCore (blanks ++ '/' :: more)
    rw [← List.append_assoc, ← cut, ← trimControls_append _ fun char isLast =>
      visible char (List.mem_of_getLast? isLast), ← String.toList_ofList (l :=
        beforeSolidi text.toList ++ '/' :: more)] at takenOn
    rw [hosted.parse takenOn, dropIgnored_append, dropIgnored_append, isMore,
      goesOn, ← isBody, List.append_assoc]
  · rw [split, cutFront, isCore, hasNoTail_around count
      (List.all_eq_true.mp List.all_takeWhile) noTailInName areBlanks,
      noTailInBody, hasNoTail_dropWhile rfl rfl, hasNoTail_dropIgnored]
  · exact ⟨areBlanks char (List.mem_filter.mp member).1,
      (Bool.not_eq_true' _).mp (List.mem_filter.mp member).2⟩
  · rcases ends with ⟨_, rfl⟩ | ⟨none, _⟩
    · exact fun someHidden => absurd rfl someHidden
    · exact fun _ => none
  · rw [split, cutFront]
    refine hidden_eq_nil_iff ?_ areBlanks ends
    rw [isCore]
    exact List.append_ne_nil_of_right_ne_nil _ (List.cons_ne_nil _ _)

end Parley.Url.Address
