import Parley.Proofs.Url.ReadBlank

/-!
Contract: when an address that is written below another one lies below it.

An address is written below another one by putting segments in the place of the
solidi at the end of its text. The address that is read from the result has the
host and the port of the other one and goes on with its path exactly if the text
is joinable.

Owns: `below`, `Extends`, `Joinable`, and the equivalence.
-/

namespace Parley.Url.Address

open Parley.Outcome (map_eq_ok_iff)

/-- The text of an address with segments in place of the solidi at its end. -/
def below (text : String) (segments : List (List Char)) : String :=
  String.ofList (beforeSolidi text.toList ++ writePath (.segments segments))

/-- Whether an address is another one whose path goes on, without a query and a
fragment. -/
structure Extends (address base : Address) (more : List Char) : Prop where
  scheme : address.scheme = base.scheme
  host : address.host = base.host
  port : address.port = base.port
  query : address.query = none
  fragment : address.fragment = none
  path : writePath address.path = beforeSolidi (writePath base.path) ++ more

/-- Whether texts below an address are read as addresses below it: it has no
query and no fragment, it does not end in a blank that is read where more
follows, and the segments before the solidi at its end do not end in an empty
one. -/
structure Joinable (text : String) : Prop where
  noTail : HasNoTail text.toList
  noBlank : ∀ char ∈ (dropIgnored text.toList).getLast?, isOuter char = false
  noGap : ∀ directory, parse (below text [[]]) = .ok directory →
    ¬ ['/', '/'] <:+ writePath directory.path

private theorem notTail_of_inside {char : Char}
    (inside : endsAuthority true char = false) : char ≠ '?' ∧ char ≠ '#' := by
  constructor
  · rintro rfl
    cases inside
  · rintro rfl
    cases inside

theorem forall_mem_writePath {property : Char → Prop} (solidus : property '/')
    {segments : List (List Char)}
    (inside : ∀ segment ∈ segments, ∀ char ∈ segment, property char) :
    ∀ char ∈ writePath (.segments segments), property char := by
  intro char member
  obtain ⟨segment, isSegment, member⟩ := List.mem_flatMap.mp member
  rcases List.mem_cons.mp member with rfl | member
  · exact solidus
  · exact inside segment isSegment char member

namespace Anatomy

variable {text scheme : String} {written after hidden : List Char} {count : Nat}
  (anatomy : Anatomy text scheme written after hidden count)
  (hosted : IsHosted scheme)
include anatomy

/-- A text below the address is read like the address up to the blanks. -/
theorem continued_plain {segments : List (List Char)} (some : segments ≠ [])
    (arePlain : ∀ segment ∈ segments, Plain segment) :
    parse (below text segments) = parseHosted scheme
      (written ++ (after ++ (hidden ++ writePath (.segments segments)))) := by
  obtain ⟨first, rest, rfl⟩ := List.exists_cons_of_ne_nil some
  refine anatomy.continued (first ++ writePath (.segments rest))
    fun char member => ?_
  exact forall_mem_writePath isOuter_solidus (fun segment isSegment =>
    (arePlain segment isSegment).visible) char (List.mem_cons_of_mem _ member)

/-- Without a question mark and a number sign only separators end an authority. -/
theorem starts_path (noTail : HasNoTail after) :
    ∀ char ∈ after.head?, isSeparator true char = true := by
  intro char isFirst
  have ends := anatomy.starts char isFirst
  have notTail := noTail char (List.mem_of_mem_head? isFirst)
  rw [endsAuthority, Bool.or_eq_true, Bool.or_eq_true, beq_iff_eq, beq_iff_eq]
    at ends
  exact (ends.resolve_right notTail.2).resolve_right notTail.1

include hosted

/-- The address that was read. -/
theorem base {address : Address} (parsed : parse text = .ok address) :
    ∃ authority, parseAuthority scheme written [] = .ok authority ∧
      address = authority.complete scheme (parseSegments scheme)
        (after ++ List.replicate count '/') := by
  have starts : ∀ char ∈ (after ++ List.replicate count '/').head?,
      endsAuthority true char = true := fun char isFirst => by
    rw [List.head?_append] at isFirst
    rcases Option.or_eq_some_iff.mp isFirst with inAfter | ⟨_, isSolidus⟩
    · exact anatomy.starts char inAfter
    · rw [List.eq_of_mem_replicate (List.mem_of_mem_head? isSolidus)]
      rfl
  rw [anatomy.read, hosted.parseHosted_append anatomy.isAuthority starts]
    at parsed
  obtain ⟨authority, isAuthority, rfl⟩ := map_eq_ok_iff.mp parsed
  exact ⟨authority, isAuthority, rfl⟩

/-- Blanks break the authority if they stand right behind it. -/
theorem after_ne_nil {segments : List (List Char)} (some : segments ≠ [])
    (arePlain : ∀ segment ∈ segments, Plain segment) {address : Address}
    (parsed : parse (below text segments) = .ok address)
    (areHidden : hidden ≠ []) : after ≠ [] := by
  rintro rfl
  obtain ⟨first, rest, rfl⟩ := List.exists_cons_of_ne_nil some
  have isAuthority : IsAuthority (written ++ hidden) :=
    List.forall_mem_append.mpr
      ⟨anatomy.isAuthority, AreBlanks.isAuthority anatomy.areHidden⟩
  rw [anatomy.continued_plain some arePlain, List.nil_append,
    ← List.append_assoc, hosted.parseHosted_append isAuthority fun char isFirst =>
      by cases isFirst; rfl] at parsed
  obtain ⟨authority, parsed, _⟩ := map_eq_ok_iff.mp parsed
  exact hosted.parseAuthority_blanks anatomy.isAuthority anatomy.areHidden
    areHidden authority parsed

/-- What is read below the address, if blanks belong to its path. -/
theorem parse_below {segments : List (List Char)} (some : segments ≠ [])
    (arePlain : ∀ segment ∈ segments, Plain segment)
    (ends : hidden ≠ [] → after ≠ []) :
    parse (below text segments) =
      (parseAuthority scheme written []).map fun authority =>
        authority.complete scheme (parseSegments scheme)
          (after ++ (hidden ++ writePath (.segments segments))) := by
  obtain ⟨first, rest, rfl⟩ := List.exists_cons_of_ne_nil some
  rw [anatomy.continued_plain some arePlain]
  refine hosted.parseHosted_append anatomy.isAuthority fun char isFirst => ?_
  rw [List.head?_append] at isFirst
  rcases Option.or_eq_some_iff.mp isFirst with inAfter | ⟨none, isNext⟩
  · exact anatomy.starts char inAfter
  · rw [not_not.mp fun areHidden =>
      ends areHidden (List.head?_eq_none_iff.mp none)] at isNext
    cases isNext
    rfl

/-- The path of what is read below the address goes on from where the segments of
the address led. -/
theorem path_below {segments : List (List Char)} (some : segments ≠ [])
    (arePlain : ∀ segment ∈ segments, Plain segment)
    (ends : hidden ≠ [] → after ≠ []) (noTail : HasNoTail after)
    {authority : Authority}
    (isAuthority : parseAuthority scheme written [] = .ok authority) :
    ∃ path, parse (below text segments) =
        .ok ⟨scheme, authority.credentials, .some authority.host,
          authority.port, path, none, none⟩ ∧
      writePath path = (Trail.through (segmentsOf (after ++ hidden))).text ++
        writePath (.segments segments) := by
  have noTailBelow : HasNoTail
      (after ++ (hidden ++ writePath (.segments segments))) :=
    hasNoTail_append.mpr ⟨noTail, hasNoTail_append.mpr
      ⟨hasNoTail_of_isOuter fun char member => (anatomy.areHidden char member).1,
        forall_mem_writePath (by decide) fun segment isSegment char member =>
          notTail_of_inside ((arePlain segment isSegment).inside char member)⟩⟩
  refine ⟨parseSegments scheme
    (after ++ (hidden ++ writePath (.segments segments))), ?_, ?_⟩
  · rw [anatomy.parse_below hosted some arePlain ends, isAuthority]
    exact congrArg Except.ok (Authority.complete_of_hasNoTail noTailBelow)
  · show pathText scheme _ = _
    rw [← List.append_assoc]
    refine hosted.pathText_append (fun char isFirst => ?_) some arePlain
    rw [List.head?_append] at isFirst
    rcases Option.or_eq_some_iff.mp isFirst with inAfter | ⟨none, isNext⟩
    · exact anatomy.starts_path noTail char inAfter
    · rw [not_not.mp fun areHidden =>
        ends areHidden (List.head?_eq_none_iff.mp none)] at isNext
      cases isNext

theorem base_path {address : Address} (parsed : parse text = .ok address)
    (noTail : HasNoTail after) :
    writePath address.path =
      pathText scheme (after ++ List.replicate count '/') := by
  obtain ⟨authority, _, rfl⟩ := anatomy.base hosted parsed
  rw [Authority.complete_of_hasNoTail (hasNoTail_append.mpr
    ⟨noTail, hasNoTail_solidi count⟩)]
  rfl

end Anatomy

/-! ## Joinable texts -/

private theorem beforeSolidi_append (text : List Char) (count : Nat) :
    beforeSolidi (text ++ List.replicate count '/') = beforeSolidi text := by
  rw [beforeSolidi, List.rdropWhile, List.reverse_append, List.reverse_replicate,
    List.dropWhile_append_of_pos fun char member =>
      beq_iff_eq.mpr (List.eq_of_mem_replicate member)]
  rfl

/-- A text ends in two solidi if one is put behind a text that ends in one. -/
theorem gap_iff {path : List Char} :
    ['/', '/'] <:+ path ++ ['/'] ↔ path.getLast? = some '/' := by
  rw [List.suffix_concat_iff, List.getLast?_eq_some_iff]
  constructor
  · rintro (empty | ⟨last, same, front, rfl⟩)
    · cases empty
    · have isLast : ['/'] ++ ['/'] = last ++ ['/'] := same
      exact ⟨front, by rw [List.append_cancel_right isLast]⟩
  · rintro ⟨front, rfl⟩
    exact .inr ⟨['/'], rfl, List.suffix_append front _⟩

variable {text : String} {base : Address} (parsed : parse text = .ok base)
  (hosted : IsHosted base.scheme) {segments : List (List Char)}
  (some : segments ≠ []) (arePlain : ∀ segment ∈ segments, Plain segment)
include parsed hosted some arePlain

private theorem extends_of_joinable (joinable : Joinable text) :
    ∃ address, parse (below text segments) = .ok address ∧
      address.Extends base (writePath (.segments segments)) := by
  obtain ⟨written, after, hidden, count, anatomy⟩ := anatomy parsed hosted
  obtain rfl : hidden = [] := anatomy.noneHidden.mpr joinable.noBlank
  have noTail := anatomy.noTail.mp joinable.noTail
  have ends : ([] : List Char) ≠ [] → after ≠ [] := fun some => absurd rfl some
  obtain ⟨authority, isAuthority, isBase⟩ := anatomy.base hosted parsed
  obtain ⟨more, basePath⟩ :=
    hosted.pathText_solidi (anatomy.starts_path noTail) count
  obtain ⟨path, isRead, isPath⟩ :=
    anatomy.path_below hosted some arePlain ends noTail isAuthority
  obtain ⟨gap, isDirectory, isGap⟩ :=
    anatomy.path_below hosted (List.cons_ne_nil [] [])
      (List.forall_mem_singleton.mpr plain_nil) ends noTail isAuthority
  rw [List.append_nil] at isPath isGap
  have noGap := joinable.noGap _ isDirectory
  rw [isGap] at noGap
  have isWhole : beforeSolidi (Trail.through (segmentsOf after)).text =
      (Trail.through (segmentsOf after)).text :=
    rdropWhile_of_getLast? fun char isLast => by
      rw [beq_eq_false_iff_ne]
      rintro rfl
      exact noGap (gap_iff.mpr isLast)
  refine ⟨_, isRead, rfl, ?_, ?_, rfl, rfl, ?_⟩
  · exact (congrArg Address.host isBase).symm
  · exact (congrArg Address.port isBase).symm
  · rw [anatomy.base_path hosted parsed noTail, basePath, beforeSolidi_append,
      isWhole, isPath]

private theorem joinable_of_extends {address : Address}
    (isRead : parse (below text segments) = .ok address)
    (isBelow : address.Extends base (writePath (.segments segments))) :
    Joinable text := by
  obtain ⟨written, after, hidden, count, anatomy⟩ := anatomy parsed hosted
  have ends := anatomy.after_ne_nil hosted some arePlain isRead
  obtain ⟨authority, isAuthority, isBase⟩ := anatomy.base hosted parsed
  have noTail : HasNoTail after := by
    rw [anatomy.parse_below hosted some arePlain ends, isAuthority] at isRead
    cases isRead
    exact (hasNoTail_append.mp
      (Authority.hasNoTail_of_complete isBelow.query isBelow.fragment)).1
  obtain ⟨path, alsoRead, isPath⟩ :=
    anatomy.path_below hosted some arePlain ends noTail isAuthority
  rw [isRead] at alsoRead
  cases alsoRead
  have sameFront := List.append_cancel_right (isPath.symm.trans isBelow.path)
  have noneHidden : hidden = [] := by
    by_contra areHidden
    obtain ⟨char, rest, rfl⟩ := List.exists_cons_of_ne_nil (ends areHidden)
    have basePath := anatomy.base_path hosted parsed noTail
    rw [anatomy.atEnd areHidden, List.replicate_zero, List.append_nil] at basePath
    have longer := hosted.pathText_blanks (anatomy.starts_path noTail char rfl)
      rest anatomy.areHidden areHidden
    rw [← basePath, ← List.cons_append, sameFront] at longer
    exact absurd (List.rdropWhile_prefix _ _).length_le (Nat.not_le_of_lt longer)
  refine ⟨anatomy.noTail.mpr noTail, anatomy.noneHidden.mp noneHidden,
    fun directory isDirectory gap => ?_⟩
  obtain ⟨directoryPath, alsoDirectory, isDirectoryPath⟩ :=
    anatomy.path_below hosted (List.cons_ne_nil [] [])
      (List.forall_mem_singleton.mpr plain_nil) ends noTail isAuthority
  rw [isDirectory] at alsoDirectory
  cases alsoDirectory
  rw [isDirectoryPath, sameFront] at gap
  have ends := rdropWhile_getLast? (· == '/') _ '/' (gap_iff.mp gap)
  cases ends

/-- What is written below an address lies below it exactly if its text is
joinable. -/
theorem extends_iff_joinable :
    (∃ address, parse (below text segments) = .ok address ∧
      address.Extends base (writePath (.segments segments))) ↔ Joinable text :=
  ⟨fun ⟨_, isRead, isBelow⟩ =>
      joinable_of_extends parsed hosted some arePlain isRead isBelow,
    extends_of_joinable parsed hosted some arePlain⟩

end Parley.Url.Address
