import Parley.Text.Parts

/-!
Contract: the parts of a text hold everything but the separators.

There is always a first part. No part holds a separator, and the parts with
separators between them make the text again.

Owns: the steps of `splitAt`, and what its parts hold.
-/

namespace Parley.Text

variable {separator : Char}

/-! ## Steps -/

theorem splitAt_separator (text : List Char) :
    splitAt separator (separator :: text) = [] :: splitAt separator text := by
  rw [splitAt, if_pos rfl]

theorem splitAt_ne_nil (text : List Char) : splitAt separator text ≠ [] := by
  cases text with
  | nil => exact List.cons_ne_nil _ _
  | cons char rest =>
      rw [splitAt]
      split
      · exact List.cons_ne_nil _ _
      · split <;> exact List.cons_ne_nil _ _

/-- There is always a first part. -/
theorem splitAt_eq_cons (separator : Char) (text : List Char) :
    ∃ part parts, splitAt separator text = part :: parts :=
  List.exists_cons_of_ne_nil (splitAt_ne_nil text)

/-- A character that separates nothing is put in front of the first part. -/
theorem splitAt_cons {char : Char} (isOther : char ≠ separator)
    {text part : List Char} {parts : List (List Char)}
    (split : splitAt separator text = part :: parts) :
    splitAt separator (char :: text) = (char :: part) :: parts := by
  rw [splitAt, if_neg isOther, split]

/-! ## What the parts hold -/

theorem not_mem_of_mem_splitAt {text part : List Char}
    (isPart : part ∈ splitAt separator text) : separator ∉ part := by
  induction text generalizing part with
  | nil =>
      rw [List.mem_singleton.mp isPart]
      exact List.not_mem_nil
  | cons char rest inductionHypothesis =>
      by_cases separates : char = separator
      · subst separates
        rw [splitAt_separator] at isPart
        rcases List.mem_cons.mp isPart with rfl | isLater
        · exact List.not_mem_nil
        · exact inductionHypothesis isLater
      · obtain ⟨first, parts, split⟩ := splitAt_eq_cons separator rest
        rw [split] at inductionHypothesis
        rw [splitAt_cons separates split] at isPart
        rcases List.mem_cons.mp isPart with rfl | isLater
        · intro member
          rcases List.mem_cons.mp member with same | inFirst
          · exact separates same.symm
          · exact inductionHypothesis List.mem_cons_self inFirst
        · exact inductionHypothesis (List.mem_cons_of_mem _ isLater)

/-- The parts with separators between them make the text again. -/
theorem join_splitAt (separator : Char) (text : List Char) :
    ((splitAt separator text).intersperse [separator]).flatten = text := by
  induction text with
  | nil => rfl
  | cons char rest inductionHypothesis =>
      obtain ⟨part, parts, split⟩ := splitAt_eq_cons separator rest
      by_cases separates : char = separator
      · subst separates
        rw [splitAt_separator, split, List.intersperse_cons_cons, ← split,
          List.flatten_cons, List.flatten_cons, inductionHypothesis]
        rfl
      · rw [split] at inductionHypothesis
        rw [splitAt_cons separates split]
        cases parts with
        | nil => exact congrArg (char :: ·) inductionHypothesis
        | cons next parts => exact congrArg (char :: ·) inductionHypothesis

theorem mem_of_mem_splitAt {text part : List Char} {char : Char}
    (isPart : part ∈ splitAt separator text) (member : char ∈ part) :
    char ∈ text := by
  have between (parts : List (List Char)) (found : part ∈ parts) :
      char ∈ (parts.intersperse [separator]).flatten := by
    induction parts with
    | nil => cases found
    | cons first parts inductionHypothesis =>
        cases parts with
        | nil =>
            rw [List.mem_singleton.mp found] at member
            exact List.mem_append_left _ member
        | cons second parts =>
            rw [List.intersperse_cons_cons, List.flatten_cons]
            rcases List.mem_cons.mp found with rfl | isLater
            · exact List.mem_append_left _ member
            · exact List.mem_append_right _
                (List.mem_append_right _ (inductionHypothesis isLater))
  rw [← join_splitAt separator text]
  exact between _ isPart

/-- Every character but the separator is in some part. -/
theorem mem_splitAt {text : List Char} {char : Char} (member : char ∈ text)
    (isOther : char ≠ separator) :
    ∃ part ∈ splitAt separator text, char ∈ part := by
  induction text with
  | nil => cases member
  | cons first rest inductionHypothesis =>
      obtain ⟨part, parts, split⟩ := splitAt_eq_cons separator rest
      by_cases separates : first = separator
      · subst separates
        rw [splitAt_separator]
        obtain ⟨found, isPart, inPart⟩ := inductionHypothesis
          ((List.mem_cons.mp member).resolve_left isOther)
        exact ⟨found, List.mem_cons_of_mem _ isPart, inPart⟩
      · rw [splitAt_cons separates split]
        rcases List.mem_cons.mp member with rfl | later
        · exact ⟨_, List.mem_cons_self, List.mem_cons_self⟩
        · obtain ⟨found, isPart, inPart⟩ := inductionHypothesis later
          rw [split] at isPart
          rcases List.mem_cons.mp isPart with rfl | isLater
          · exact ⟨_, List.mem_cons_self, List.mem_cons_of_mem _ inPart⟩
          · exact ⟨found, List.mem_cons_of_mem _ isLater, inPart⟩

end Parley.Text
