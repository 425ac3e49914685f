import Parley.Config.Placeholder
import Parley.Proofs.Outcome

/-!
Contract: placeholders in a text, told without cutting it into pieces.

A placeholder is a name between its marks. It starts with a dollar sign and has
none inside, so no two placeholders of a text overlap. Interpolation replaces
each placeholder of a text by the value of its variable and keeps everything
else; it fails exactly if a variable is not set.

Owns: `IsName`, `spelled`, `HoldsPlaceholder`, `Replaced`, and what
`variableNames` and `interpolate` make of them.
-/

namespace Parley.Config.Placeholder

/-! ## Placeholders as text -/

/-- Whether a character may stand at the start of a name. -/
def StartsName (char : Char) : Prop :=
  'A' ≤ char ∧ char ≤ 'Z' ∨ char = '_'

/-- Whether a character may stand inside a name. -/
def InName (char : Char) : Prop :=
  StartsName char ∨ '0' ≤ char ∧ char ≤ '9'

/-- Whether characters are the name of a variable. -/
def IsName (name : List Char) : Prop :=
  ∃ first rest, name = first :: rest ∧ StartsName first ∧
    ∀ char ∈ rest, InName char

/-- The placeholder of a name. -/
def spelled (name : List Char) : List Char :=
  '$' :: '\x7b' :: (name ++ ['\x7d'])

/-- Whether a text starts with a placeholder. -/
def Leads (text : List Char) : Prop :=
  ∃ name, IsName name ∧ spelled name <+: text

/-- Whether a placeholder stands somewhere in a text. -/
def HoldsPlaceholder (text : List Char) : Prop :=
  ∃ name, IsName name ∧ spelled name <:+: text

/-- The relation between a text and the same text with every placeholder replaced
by the value of its variable. Values are not looked at. -/
inductive Replaced (environment : Environment) :
    List Char → List Char → Prop where
  | nil : Replaced environment [] []
  | char {char : Char} {text result : List Char}
      (noPlaceholder : ¬ Leads (char :: text))
      (rest : Replaced environment text result) :
      Replaced environment (char :: text) (char :: result)
  | reference {name text result : List Char} {value : String}
      (isName : IsName name)
      (isSet : environment (String.ofList name) = some value)
      (rest : Replaced environment text result) :
      Replaced environment (spelled name ++ text) (value.toList ++ result)

/-! ## Names -/

theorem startsName_iff {char : Char} :
    startsName char = true ↔ StartsName char := by
  have isUpper : char.isUpper = true ↔ 'A' ≤ char ∧ char ≤ 'Z' :=
    decide_eq_true_iff
  rw [startsName, Bool.or_eq_true, beq_iff_eq, isUpper, StartsName]

theorem continuesName_iff {char : Char} :
    continuesName char = true ↔ InName char := by
  have isDigit : char.isDigit = true ↔ '0' ≤ char ∧ char ≤ '9' :=
    Bool.and_eq_true_iff.trans
      (and_congr decide_eq_true_iff decide_eq_true_iff)
  rw [continuesName, Bool.or_eq_true, startsName_iff, isDigit, InName]

theorem continuesName_close : continuesName '\x7d' = false := by
  decide

/-- No mark of a placeholder may stand inside a name. -/
theorem InName.ne_dollar {char : Char} (inName : InName char) :
    char ≠ '$' := by
  rintro rfl
  exact absurd (continuesName_iff.mpr inName) (by decide)

theorem IsName.inName {name : List Char} (isName : IsName name) :
    ∀ char ∈ name, InName char := by
  obtain ⟨first, rest, rfl, isFirst, isRest⟩ := isName
  intro char member
  rcases List.mem_cons.mp member with rfl | later
  · exact .inl isFirst
  · exact isRest char later

/-- The only dollar sign of a placeholder is its first character. -/
theorem IsName.no_dollar {name : List Char} (isName : IsName name) :
    '$' ∉ '\x7b' :: (name ++ ['\x7d']) := by
  intro member
  rcases List.mem_cons.mp member with isOpening | later
  · exact absurd isOpening (by decide)
  rcases List.mem_append.mp later with inName | atEnd
  · exact (isName.inName '$' inName).ne_dollar rfl
  · exact absurd (List.mem_singleton.mp atEnd) (by decide)

/-! ## The placeholder at the start of a text -/

private theorem span_name {rest : List Char}
    (inName : ∀ char ∈ rest, InName char)
    (after : List Char) :
    (rest ++ '\x7d' :: after).takeWhile continuesName = rest ∧
      (rest ++ '\x7d' :: after).dropWhile continuesName =
        '\x7d' :: after := by
  have continues : ∀ char ∈ rest, continuesName char = true :=
    fun char member => continuesName_iff.mpr (inName char member)
  constructor
  · rw [List.takeWhile_append_of_pos continues,
      List.takeWhile_cons_of_neg (by rw [continuesName_close]; decide),
      List.append_nil]
  · rw [List.dropWhile_append_of_pos continues,
      List.dropWhile_cons_of_neg (by rw [continuesName_close]; decide)]

/-- The placeholder that a text starts with is found. -/
theorem leading?_eq_some_iff {text name rest : List Char} :
    leading? text = some (name, rest) ↔
      IsName name ∧ text = spelled name ++ rest := by
  constructor
  · intro found
    unfold leading? at found
    split at found
    · rename_i first more
      split at found
      · rename_i isFirst
        split at found
        · rename_i after ended
          obtain ⟨rfl, rfl⟩ := Prod.mk.inj (Option.some.inj found)
          have inName : ∀ char ∈ more.takeWhile continuesName, InName char :=
            fun char member => continuesName_iff.mp
              (List.all_eq_true.mp List.all_takeWhile char member)
          refine ⟨⟨first, _, rfl, startsName_iff.mp isFirst, inName⟩, ?_⟩
          have split : more = more.takeWhile continuesName ++ '\x7d' :: after := by
            rw [← ended, List.takeWhile_append_dropWhile]
          rw [spelled, List.cons_append, List.cons_append, List.append_assoc,
            List.singleton_append, List.cons_append, ← split]
        · cases found
      · cases found
    · cases found
  · rintro ⟨⟨first, more, rfl, isFirst, inName⟩, rfl⟩
    obtain ⟨taken, dropped⟩ := span_name inName rest
    have shape : spelled (first :: more) ++ rest =
        '$' :: '\x7b' :: first :: (more ++ '\x7d' :: rest) := by
      rw [spelled, List.cons_append, List.cons_append, List.append_assoc]
      rfl
    rw [shape, leading?, if_pos (startsName_iff.mpr isFirst), dropped, taken]
    rfl

theorem leading?_eq_none_iff {text : List Char} :
    leading? text = none ↔ ¬ Leads text := by
  constructor
  · rintro nothing ⟨name, isName, rest, rfl⟩
    rw [leading?_eq_some_iff.mpr ⟨isName, rfl⟩] at nothing
    cases nothing
  · intro noPlaceholder
    cases found : leading? text with
    | none => rfl
    | some parts =>
        obtain ⟨name, rest⟩ := parts
        obtain ⟨isName, split⟩ := leading?_eq_some_iff.mp found
        exact absurd ⟨name, isName, rest, split.symm⟩ noPlaceholder

/-- Only what starts with a dollar sign can start with a placeholder. -/
theorem not_leads_of_ne {char : Char} {text : List Char}
    (notDollar : char ≠ '$') : ¬ Leads (char :: text) := by
  rintro ⟨name, _, starts⟩
  exact notDollar (List.cons_prefix_cons.mp starts).1.symm

theorem leads_spelled {name : List Char} (isName : IsName name)
    (rest : List Char) : Leads (spelled name ++ rest) :=
  ⟨name, isName, List.prefix_append _ _⟩

theorem HoldsPlaceholder.of_leads {text : List Char} (leads : Leads text) :
    HoldsPlaceholder text := by
  obtain ⟨name, isName, starts⟩ := leads
  exact ⟨name, isName, starts.isInfix⟩

theorem HoldsPlaceholder.append_left {text : List Char}
    (holds : HoldsPlaceholder text) (before : List Char) :
    HoldsPlaceholder (before ++ text) := by
  obtain ⟨name, isName, inside⟩ := holds
  exact ⟨name, isName, inside.trans (List.suffix_append _ _).isInfix⟩

theorem holdsPlaceholder_cons_iff {char : Char} {text : List Char} :
    HoldsPlaceholder (char :: text) ↔
      Leads (char :: text) ∨ HoldsPlaceholder text := by
  constructor
  · rintro ⟨name, isName, inside⟩
    rcases List.infix_cons_iff.mp inside with starts | later
    · exact .inl ⟨name, isName, starts⟩
    · exact .inr ⟨name, isName, later⟩
  · rintro (leads | later)
    · exact .of_leads leads
    · exact later.append_left [char]

/-- A placeholder starts with a dollar sign. -/
theorem HoldsPlaceholder.dollar_mem {text : List Char}
    (holds : HoldsPlaceholder text) : '$' ∈ text := by
  obtain ⟨name, _, inside⟩ := holds
  exact inside.subset List.mem_cons_self

theorem not_holdsPlaceholder_nil : ¬ HoldsPlaceholder [] := by
  rintro ⟨name, _, inside⟩
  cases List.infix_nil.mp inside

/-! ## Pieces -/

theorem pieces_nil : pieces [] = [] := by
  rw [pieces]
  rfl

theorem pieces_char {char : Char} {text : List Char}
    (noPlaceholder : ¬ Leads (char :: text)) :
    pieces (char :: text) = .char char :: pieces text := by
  rw [pieces]
  split
  · rename_i found
    rw [leading?_eq_none_iff.mpr noPlaceholder] at found
    cases found
  · rfl

theorem pieces_reference {name : List Char} (isName : IsName name)
    (rest : List Char) :
    pieces (spelled name ++ rest) = .reference name :: pieces rest := by
  have isFound : leading? (spelled name ++ rest) = some (name, rest) :=
    leading?_eq_some_iff.mpr ⟨isName, rfl⟩
  rw [pieces]
  split
  · rename_i other after found
    rw [isFound] at found
    obtain ⟨rfl, rfl⟩ := Prod.mk.inj (Option.some.inj found)
    rfl
  · rename_i nothing
    rw [isFound] at nothing
    cases nothing

/-- A text is empty, starts with a character that stands for itself, or starts
with a placeholder. -/
theorem piecewise {motive : List Char → Prop} (nil : motive [])
    (char : ∀ char text, ¬ Leads (char :: text) → motive text →
      motive (char :: text))
    (reference : ∀ name text, IsName name → motive text →
      motive (spelled name ++ text))
    (text : List Char) : motive text := by
  cases found : leading? text with
  | some parts =>
      obtain ⟨name, rest⟩ := parts
      have shorter := leading?_length found
      obtain ⟨isName, split⟩ := leading?_eq_some_iff.mp found
      rw [split]
      exact reference name rest isName
        (piecewise nil char reference rest)
  | none =>
      cases text with
      | nil => exact nil
      | cons first rest =>
          exact char first rest (leading?_eq_none_iff.mp found)
            (piecewise nil char reference rest)
termination_by text.length

/-- A text has variables exactly if a placeholder stands in it. -/
theorem variableNames_eq_nil_iff {text : String} :
    variableNames text = [] ↔ ¬ HoldsPlaceholder text.toList := by
  rw [variableNames]
  induction text.toList using piecewise with
  | nil =>
      rw [pieces_nil]
      exact ⟨fun _ => not_holdsPlaceholder_nil, fun _ => rfl⟩
  | char char rest noPlaceholder inductionHypothesis =>
      rw [pieces_char noPlaceholder, holdsPlaceholder_cons_iff]
      exact inductionHypothesis.trans
        ⟨fun noLater both => both.elim noPlaceholder noLater,
          fun neither later => neither (.inr later)⟩
  | reference name rest isName _ =>
      rw [pieces_reference isName]
      constructor
      · intro nothing
        cases nothing
      · intro nothing
        exact absurd (HoldsPlaceholder.of_leads (leads_spelled isName rest))
          nothing

instance (text : String) : Decidable (HoldsPlaceholder text.toList) :=
  decidable_of_iff (¬ variableNames text = [])
    (by rw [variableNames_eq_nil_iff, Classical.not_not])

/-! ## Interpolation -/

/-- The pieces of a text expand to the text with its placeholders replaced. -/
theorem mapM_pieces_eq_ok_iff {environment : Environment}
    {text : List Char} {result : List Char} :
    (∃ parts, (pieces text).mapM (Piece.expand environment) = .ok parts ∧
        parts.flatten = result) ↔
      Replaced environment text result := by
  constructor
  · rintro ⟨parts, expanded, rfl⟩
    induction text using piecewise generalizing parts with
    | nil =>
        rw [pieces_nil] at expanded
        cases expanded
        exact .nil
    | char char rest noPlaceholder inductionHypothesis =>
        rw [pieces_char noPlaceholder, List.mapM_cons] at expanded
        obtain ⟨value, isValue, expanded⟩ :=
          Outcome.bind_eq_ok_iff.mp expanded
        obtain ⟨later, isLater, same⟩ := Outcome.bind_eq_ok_iff.mp expanded
        cases isValue
        cases same
        exact .char noPlaceholder (inductionHypothesis later isLater)
    | reference name rest isName inductionHypothesis =>
        rw [pieces_reference isName, List.mapM_cons] at expanded
        obtain ⟨value, isValue, expanded⟩ := Outcome.bind_eq_ok_iff.mp expanded
        obtain ⟨later, isLater, same⟩ := Outcome.bind_eq_ok_iff.mp expanded
        cases same
        rw [Piece.expand] at isValue
        split at isValue
        · rename_i held isSet
          cases isValue
          exact .reference isName isSet (inductionHypothesis later isLater)
        · cases isValue
  · intro replaced
    induction replaced with
    | nil => exact ⟨[], by rw [pieces_nil]; rfl, rfl⟩
    | @char char text result noPlaceholder _ inductionHypothesis =>
        obtain ⟨parts, expanded, rfl⟩ := inductionHypothesis
        refine ⟨[char] :: parts, ?_, rfl⟩
        rw [pieces_char noPlaceholder, List.mapM_cons, expanded]
        rfl
    | @reference name text result value isName isSet _ inductionHypothesis =>
        obtain ⟨parts, expanded, rfl⟩ := inductionHypothesis
        refine ⟨value.toList :: parts, ?_, rfl⟩
        rw [pieces_reference isName, List.mapM_cons, Piece.expand, isSet,
          expanded]
        rfl

/-- Interpolation gives the text with its placeholders replaced. -/
theorem interpolate_eq_ok_iff {environment : Environment}
    {text result : String} :
    interpolate environment text = .ok result ↔
      Replaced environment text.toList result.toList := by
  rw [← mapM_pieces_eq_ok_iff, interpolate]
  cases (pieces text.toList).mapM (Piece.expand environment) with
  | error fault =>
      constructor
      · intro same
        cases same
      · rintro ⟨parts, same, _⟩
        cases same
  | ok parts =>
      constructor
      · intro same
        cases same
        exact ⟨parts, rfl, String.toList_ofList.symm⟩
      · rintro ⟨others, same, joined⟩
        cases same
        rw [Except.map, joined, String.ofList_toList]

end Parley.Config.Placeholder
