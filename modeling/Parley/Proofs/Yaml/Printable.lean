import Parley.Yaml.Lexer

/-!
Contract: YAML text of printable ASCII characters.

Such a text is on one line, all of it is readable, and only spaces are gaps in it.
Each character takes one byte and one column, so the place behind a part of the
text is given by the length of that part.

Owns: `Printable`, `Mark.inLine`, and what the lexer sees of printable text.
-/

namespace Parley.Yaml

/-- Whether a character is a space or a visible character of ASCII. -/
def IsPrintable (char : Char) : Prop :=
  0x20 ≤ char.toNat ∧ char.toNat ≤ 0x7E

instance (char : Char) : Decidable (IsPrintable char) :=
  inferInstanceAs (Decidable (0x20 ≤ char.toNat ∧ char.toNat ≤ 0x7E))

/-- Whether a text has no characters but those. -/
def Printable (text : List Char) : Prop :=
  ∀ char ∈ text, IsPrintable char

instance (text : List Char) : Decidable (Printable text) :=
  List.decidableBAll IsPrintable text

/-! ## Characters -/

namespace IsPrintable

variable {char : Char}

theorem isAllowed (printable : IsPrintable char) : isAllowed char = true := by
  obtain ⟨least, most⟩ := printable
  simp [Yaml.isAllowed, least, most]

theorem utf8Size (printable : IsPrintable char) : char.utf8Size = 1 := by
  refine Char.utf8Size_eq_one_iff.mpr (UInt32.le_iff_toNat_le.mpr ?_)
  exact Nat.le_trans printable.2 (by decide)

/-- No line ends at a printable character. -/
theorem isBreak (printable : IsPrintable char) : isBreak char = false := by
  have differs (mark : Char) (notPrintable : ¬ IsPrintable mark) :
      (char == mark) = false :=
    beq_false_of_ne fun same => notPrintable (same ▸ printable)
  rw [Yaml.isBreak, differs _ (by decide), differs _ (by decide),
    differs _ (by decide), differs _ (by decide), differs _ (by decide)]
  rfl

/-- Of the printable characters only the space is a gap. -/
theorem isGap (printable : IsPrintable char) : isGap char = (char == ' ') := by
  have noTab : (char == '\t') = false :=
    beq_false_of_ne fun same => absurd (same ▸ printable) (by decide)
  rw [Yaml.isGap, printable.isBreak, isSpace, noTab, Bool.or_false,
    Bool.or_false]

end IsPrintable

/-! ## Texts -/

namespace Printable

variable {text first second : List Char} {char : Char}

theorem cons_iff :
    Printable (char :: text) ↔ IsPrintable char ∧ Printable text :=
  List.forall_mem_cons

theorem append_iff :
    Printable (first ++ second) ↔ Printable first ∧ Printable second :=
  List.forall_mem_append

theorem any_isBreak (printable : Printable text) : text.any isBreak = false :=
  List.any_eq_false.mpr fun char member =>
    Bool.eq_false_iff.mp (printable char member).isBreak

end Printable

/-- The place of a text of one line behind a number of characters. -/
def Mark.inLine (count : Nat) : Mark :=
  ⟨count, 0, count⟩

theorem Mark.over_printable {text : List Char} (printable : Printable text)
    (mark : Mark) :
    mark.over text =
      ⟨mark.index + text.length, mark.line, mark.column + text.length⟩ := by
  induction text generalizing mark with
  | nil => rfl
  | cons char text inductionHypothesis =>
      obtain ⟨isChar, isText⟩ := Printable.cons_iff.mp printable
      have noReturn : char ≠ '\r' := fun same =>
        absurd (same ▸ isChar) (by decide)
      have step : mark.over (char :: text) = (mark.afterChar char).over text := by
        rw [Mark.over, if_neg (Bool.eq_false_iff.mp isChar.isBreak)]
        intro _ same
        exact absurd same noReturn
      rw [step, inductionHypothesis isText, Mark.afterChar, isChar.utf8Size,
        List.length_cons]
      dsimp only
      rw [Nat.add_assoc, Nat.add_assoc, Nat.add_comm 1]

theorem Mark.over_inLine {text : List Char} (printable : Printable text)
    (count : Nat) :
    (Mark.inLine count).over text = .inLine (count + text.length) :=
  Mark.over_printable printable (.inLine count)

/-- All of a text is readable if every character is allowed. -/
theorem readable_of_allowed {text : List Char}
    (allowed : ∀ char ∈ text, isAllowed char = true) (block : List Char)
    (room : Nat) : readable block room text = (block.reverse ++ text, true) := by
  induction text generalizing block room with
  | nil => rw [readable, List.append_nil]
  | cons char text inductionHypothesis =>
      obtain ⟨isChar, isText⟩ := List.forall_mem_cons.mp allowed
      rw [readable, isChar, if_neg (show ¬ (!true) = true from Bool.false_ne_true)]
      split
      · rw [inductionHypothesis isText, List.reverse_cons, List.append_assoc,
          List.singleton_append]
      · rw [inductionHypothesis isText, List.reverse_singleton,
          List.singleton_append]

/-- A printable text is taken as a whole. -/
theorem tokenize_printable {text : List Char} (printable : Printable text) :
    tokenize text = Lexer.run (text.length + 1) 0 (.start text true) := by
  rw [tokenize, readable_of_allowed fun char member =>
    (printable char member).isAllowed]
  rfl

end Parley.Yaml
