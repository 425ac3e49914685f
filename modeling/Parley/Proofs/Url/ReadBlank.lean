import Parley.Proofs.Url.Continued
import Parley.Proofs.Url.Host

/-!
Contract: blanks in the middle of an address are read.

At the end of a text the parser drops them. Where the text goes on they belong to
the host or the port, which they break, or to the last segment of the path, which
they make longer.

Owns: authorities and paths with blanks at the end.
-/

namespace Parley.Url.Address

private theorem isControlOrSpace_of_isOuter {char : Char}
    (outer : isOuter char = true) : Text.IsControlOrSpace char := by
  have isLow : char.toNat ≤ 0x20 := of_decide_eq_true outer
  exact isLow

/-- Whether a text holds blanks, none of which is ignored. -/
def AreBlanks (text : List Char) : Prop :=
  ∀ char ∈ text, isOuter char = true ∧ isIgnored char = false

theorem AreBlanks.ne_of_visible {text : List Char} (areBlanks : AreBlanks text)
    {char other : Char} (member : char ∈ text)
    (visible : isOuter other = false) : char ≠ other := by
  rintro rfl
  exact Bool.false_ne_true (visible.symm.trans (areBlanks char member).1)

theorem AreBlanks.isAuthority {text : List Char} (areBlanks : AreBlanks text) :
    IsAuthority text := by
  intro char member
  have isOther {other : Char} (visible : isOuter other = false) :
      (char == other) = false :=
    beq_eq_false_iff_ne.mpr (areBlanks.ne_of_visible member visible)
  rw [endsAuthority, isSeparator, isOther rfl, isOther rfl, isOther rfl,
    isOther rfl]
  rfl

/-! ## Blanks in an authority -/

private theorem splitCredentials_blanks {blanks : List Char}
    (areBlanks : AreBlanks blanks) (written : List Char) :
    (splitCredentials (written ++ blanks)).2 =
      (splitCredentials written).2 ++ blanks := by
  have areOther : ∀ char ∈ blanks.reverse, decide (char ≠ '@') = true :=
    fun char member => decide_eq_true
      (areBlanks.ne_of_visible (List.mem_reverse.mp member) rfl)
  have sameMark : (written ++ blanks).contains '@' = written.contains '@' := by
    rw [List.contains_append, Bool.or_eq_left_iff_imp]
    intro member
    exact absurd rfl (areBlanks.ne_of_visible
      (List.contains_iff_mem.mp member) rfl)
  simp only [splitCredentials]
  rw [sameMark, List.reverse_append, List.takeWhile_append_of_pos areOther,
    List.reverse_append, List.reverse_reverse]
  split <;> rfl

/-- A character that starts no port belongs to the host. -/
theorem splitPort_cons (bracketed : Bool) {char : Char}
    (inHost : ¬ (char = ':' ∧ (!bracketed) = true)) :
    ∃ inside, ∀ rest, splitPort bracketed (char :: rest) =
      (char :: (splitPort inside rest).1, (splitPort inside rest).2) :=
  ⟨_, fun rest => by rw [splitPort, if_neg inHost]⟩

private theorem splitPort_of_blanks {blanks : List Char}
    (areBlanks : AreBlanks blanks)
    (bracketed : Bool) : splitPort bracketed blanks = (blanks, []) := by
  induction blanks generalizing bracketed with
  | nil => rfl
  | cons char blanks inductionHypothesis =>
      have notColon := areBlanks.ne_of_visible List.mem_cons_self
        (rfl : isOuter ':' = false)
      obtain ⟨inside, step⟩ := splitPort_cons bracketed fun colon =>
        notColon colon.1
      rw [step, inductionHypothesis fun other member =>
        areBlanks other (List.mem_cons_of_mem _ member)]

/-- Blanks behind an authority belong to the port if there is one. -/
theorem splitPort_append_blanks {blanks : List Char}
    (areBlanks : AreBlanks blanks) (bracketed : Bool) (named : List Char) :
    splitPort bracketed (named ++ blanks) =
      if (splitPort bracketed named).2 = [] then
        ((splitPort bracketed named).1 ++ blanks, [])
      else
        ((splitPort bracketed named).1,
          (splitPort bracketed named).2 ++ blanks) := by
  induction named generalizing bracketed with
  | nil => exact splitPort_of_blanks areBlanks bracketed
  | cons char named inductionHypothesis =>
      by_cases startsPort : char = ':' ∧ (!bracketed) = true
      · rw [List.cons_append, splitPort, if_pos startsPort, splitPort,
          if_pos startsPort, if_neg (List.cons_ne_nil _ _)]
        rfl
      · obtain ⟨inside, step⟩ := splitPort_cons bracketed startsPort
        rw [List.cons_append, step, step, inductionHypothesis]
        split <;> rfl

variable {scheme : String}

private theorem not_isDigit_of_isOuter {char : Char}
    (blank : isOuter char = true) :
    ¬ char.isDigit = true := by
  have isSmall : char.toNat ≤ 0x20 := of_decide_eq_true blank
  intro isDigit
  have isLarge : '0' ≤ char := of_decide_eq_true (Bool.and_eq_true_iff.mp isDigit).1
  have : (0x30 : Nat) ≤ char.toNat := isLarge
  omega

private theorem parsePort_blanks {port blanks : List Char} (isPort : port ≠ [])
    (noBackslash : ∀ char ∈ port, char ≠ '\\') (areBlanks : AreBlanks blanks)
    (some : blanks ≠ []) :
    parsePort scheme (port ++ blanks) = .error .invalidPort := by
  have isWhole : ((port ++ blanks).drop 1).takeWhile (· ≠ '\\') =
      port.drop 1 ++ blanks := by
    rw [List.drop_append_of_le_length (List.length_pos_of_ne_nil isPort)]
    refine List.takeWhile_eq_self_iff.mpr fun char member => decide_eq_true ?_
    rcases List.mem_append.mp member with inPort | isBlank
    · exact noBackslash char ((List.drop_sublist 1 port).subset inPort)
    · exact areBlanks.ne_of_visible isBlank rfl
  obtain ⟨blank, more, rfl⟩ := List.exists_cons_of_ne_nil some
  have noNumber : (port.drop 1 ++ blank :: more).all Char.isDigit = false := by
    rw [List.all_eq_false]
    exact ⟨blank, List.mem_append_right _ List.mem_cons_self,
      not_isDigit_of_isOuter (areBlanks blank List.mem_cons_self).1⟩
  simp only [parsePort]
  rw [isWhole, noNumber]
  rfl

/-- An authority with blanks at its end has no host or no port. -/
theorem IsHosted.parseAuthority_blanks (hosted : IsHosted scheme)
    {written blanks : List Char} (isAuthority : IsAuthority written)
    (areBlanks : AreBlanks blanks) (some : blanks ≠ []) (authority : Authority) :
    parseAuthority scheme (written ++ blanks) [] ≠ .ok authority := by
  intro parsed
  obtain ⟨isHost, isPort⟩ := hosted.parts_of_parseAuthority parsed
  rw [splitCredentials_blanks areBlanks, splitPort_append_blanks areBlanks]
    at isHost isPort
  split at isHost
  · obtain ⟨front, blank, rfl⟩ := (List.eq_nil_or_concat' blanks).resolve_left some
    have isLow : Text.IsControlOrSpace blank := isControlOrSpace_of_isOuter
      (areBlanks blank (List.mem_append_right _ (List.mem_singleton_self _))).1
    rw [← List.append_assoc] at isHost
    obtain ⟨fault, failed⟩ := Host.parse_low isLow List.getLast?_concat
    rw [failed] at isHost
    cases isHost
  · rename_i hasPort
    rw [if_neg hasPort, parsePort_blanks hasPort
      (fun _ member => isAuthority.not_backslash member) areBlanks some] at isPort
    cases isPort

/-! ## Blanks in a path -/

/-- A blank is written as an escape with one of two digits that dots never have. -/
theorem encodeChar_blank {char : Char} (blank : isOuter char = true) :
    ∃ digit ∈ Percent.encodeChar Percent.inPath char,
      digit = '0' ∨ digit = '1' := by
  have small : ∀ code < 0x21,
      (Percent.encodeChar Percent.inPath (Char.ofNat code)).any
        (fun digit => digit == '0' || digit == '1') = true := by
    decide
  have isSmall : char.toNat < 0x21 := Nat.lt_succ_of_le (of_decide_eq_true blank)
  have found := small char.toNat isSmall
  rw [Char.ofNat_toNat] at found
  obtain ⟨digit, member, isDigit⟩ := List.any_eq_true.mp found
  rw [Bool.or_eq_true, beq_iff_eq, beq_iff_eq] at isDigit
  exact ⟨digit, member, isDigit⟩

theorem not_isDots_blank (count : Nat) (front : List Char) {char : Char}
    (blank : isOuter char = true) (back : List Char) :
    isDots count (Percent.encode Percent.inPath (front ++ char :: back)) =
      false := by
  obtain ⟨digit, member, isDigit⟩ := encodeChar_blank blank
  rw [Bool.eq_false_iff]
  intro areDots
  have inText : digit ∈ Percent.encode Percent.inPath (front ++ char :: back) :=
    List.mem_flatMap.mpr ⟨char, List.mem_append_right _ List.mem_cons_self, member⟩
  have isDotChar := isDots_chars areDots digit inText
  rcases isDigit with rfl | rfl
  · exact absurd isDotChar (by decide)
  · exact absurd isDotChar (by decide)

namespace Trail

private theorem text_leave_length (trail : Trail) :
    trail.leave.text.length ≤ trail.text.length := by
  unfold leave
  split
  · exact Nat.le_refl _
  · obtain ⟨segments, fromDrive⟩ := trail
    cases segments with
    | nil => exact Nat.le_refl _
    | cons segment segments =>
        have added := text_add ⟨segments, fromDrive⟩ segment
        rw [added, List.length_append]
        exact Nat.le_add_right _ _

/-- A last segment adds no more than itself to a path. -/
theorem text_step_length (trail : Trail) (segment : List Char) :
    (trail.step false true segment).text.length ≤
      trail.text.length + 1 +
        (Percent.encode Percent.inPath (dropIgnored segment)).length := by
  simp only [step, Bool.false_and, Bool.false_eq_true, if_false, close, if_true]
  have left := text_leave_length trail
  split
  · rw [text_add, List.length_append, List.length_singleton]
    omega
  · split
    · rw [text_add, List.length_append, List.length_singleton]
      omega
    · show (text ⟨_ :: trail.segments, trail.fromDrive⟩).length ≤ _
      rw [text_add, List.length_append, List.length_cons]
      omega

end Trail

/-- The path is longer with blanks at its end than without them. -/
theorem IsHosted.pathText_blanks (hosted : IsHosted scheme) {char : Char}
    (separates : isSeparator true char = true) (text : List Char)
    {blanks : List Char} (areBlanks : AreBlanks blanks) (some : blanks ≠ []) :
    (pathText scheme (char :: text)).length <
      (Trail.through (segmentsOf (char :: (text ++ blanks)))).text.length := by
  have areInside : ∀ blank ∈ blanks, isSeparator true blank = false :=
    fun blank member => isSeparator_of_inside (areBlanks.isAuthority blank member)
  obtain ⟨parts, last, split, extended⟩ := splitSegments_extend areInside
  rw [hosted.pathText_cons separates, split,
    Trail.follow_append (List.cons_ne_nil _ _), segmentsOf, extended,
    Trail.through, List.foldl_append]
  generalize parts.foldl _ Trail.start = trail
  show (trail.step false true last).text.length <
    (trail.step false false (last ++ blanks)).text.length
  obtain ⟨blank, more, rfl⟩ := List.exists_cons_of_ne_nil some
  have isRead : dropIgnored (last ++ blank :: more) =
      dropIgnored last ++ blank :: more := by
    rw [dropIgnored_append, dropIgnored_of_visible fun char member =>
      (areBlanks char member).2]
  have isBlank := (areBlanks blank List.mem_cons_self).1
  have longer : 0 < (Percent.encode Percent.inPath (blank :: more)).length := by
    obtain ⟨digit, member, _⟩ := encodeChar_blank isBlank
    exact List.length_pos_of_mem
      (List.mem_flatMap.mpr ⟨blank, List.mem_cons_self, member⟩)
  have shorter := trail.text_step_length last
  have isPlain := congrArg (Percent.encode Percent.inPath) isRead
  rw [Trail.step_of_not_dots isPlain (not_isDots_blank 2 _ isBlank more)
    (not_isDots_blank 1 _ isBlank more), Trail.text_add, Percent.encode,
    List.flatMap_append, List.length_append, List.length_cons,
    List.length_append, ← Percent.encode, ← Percent.encode]
  omega

end Parley.Url.Address
