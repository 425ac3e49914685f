import Parley.Proofs.Config.Load
import Parley.Proofs.Config.Insertion

/-!
Contract: a text cut at its placeholders.

Placeholders of a text never overlap, so there is one way to cut a text at
placeholders such that none is left in any part. The names in it are those of the
variables of the text, in order. Expansion keeps the parts and puts the value of a
variable where its name stood; it fails at the first name without a value.

Owns: `Occurrence`, `Division`, the division of a text, and what expansion makes of
it.
-/

namespace Parley.Config.Placeholder

theorem HoldsPlaceholder.closing_mem {text : List Char}
    (holds : HoldsPlaceholder text) : '\x7d' ∈ text := by
  obtain ⟨name, _, inside⟩ := holds
  exact inside.subset (List.mem_append_right ['$', '\x7b']
    (List.mem_append_right name List.mem_cons_self))

/-! ## Occurrences -/

/-- A place in a text, by the count of characters before it, and the name of the
placeholder that starts there. -/
structure Occurrence where
  start : Nat
  name : List Char
deriving DecidableEq, Repr

namespace Occurrence

/-- The place behind the placeholder. -/
def stop (occurrence : Occurrence) : Nat :=
  occurrence.start + (spelled occurrence.name).length

/-- Whether the placeholder stands there in a text. -/
def IsIn (occurrence : Occurrence) (text : List Char) : Prop :=
  IsName occurrence.name ∧
    spelled occurrence.name <+: text.drop occurrence.start

private theorem IsIn.of_same_start {first second : Occurrence}
    {text : List Char}
    (isFirst : first.IsIn text) (isSecond : second.IsIn text)
    (same : first.start = second.start) : first = second := by
  obtain ⟨after, split⟩ := isFirst.2
  obtain ⟨other, otherSplit⟩ := isSecond.2
  rw [← same, ← split] at otherSplit
  obtain ⟨names, _⟩ := spelled_inj isFirst.1 isSecond.1 otherSplit.symm
  cases first
  cases second
  cases same
  cases names
  rfl

/-- A placeholder that starts later starts behind the earlier one, which has no
dollar sign inside. -/
theorem IsIn.stop_le_start {first second : Occurrence} {text : List Char}
    (isFirst : first.IsIn text) (isSecond : second.IsIn text)
    (later : first.start < second.start) : first.stop ≤ second.start := by
  refine Nat.not_lt.mp fun overlap => ?_
  obtain ⟨after, split⟩ := isFirst.2
  obtain ⟨rest, otherSplit⟩ := isSecond.2
  have dollar : text[second.start]? = some '$' := by
    have head := congrArg (·[0]?) otherSplit
    simpa [spelled] using head.symm
  have inside : (spelled first.name)[second.start - first.start]? = some '$' := by
    have within : second.start - first.start < (spelled first.name).length := by
      rw [stop] at overlap
      omega
    have place : (text.drop first.start)[second.start - first.start]? =
        some '$' := by
      rw [List.getElem?_drop, Nat.add_sub_cancel' (Nat.le_of_lt later), dollar]
    rwa [← split, List.getElem?_append_left within] at place
  obtain ⟨offset, isOffset⟩ : ∃ offset, second.start - first.start = offset + 1 :=
    ⟨second.start - first.start - 1, by omega⟩
  rw [isOffset, spelled, List.getElem?_cons_succ] at inside
  exact isFirst.1.no_dollar (List.mem_of_getElem? inside)

end Occurrence

/-! ## Divisions -/

/-- A text cut at placeholders: the part before the first of them, and every name
with the part behind its placeholder. -/
structure Division where
  front : List Char
  rest : List (List Char × List Char)
deriving DecidableEq, Repr

namespace Division

/-- The text in which something else stands in the place of every name. -/
def filled (division : Division) (fill : List Char → List Char) : List Char :=
  division.front ++ division.rest.flatMap fun (name, part) => fill name ++ part

def names (division : Division) : List (List Char) :=
  division.rest.map Prod.fst

def parts (division : Division) : List (List Char) :=
  division.front :: division.rest.map Prod.snd

/-- Whether a text is cut at all of its placeholders. -/
structure Divides (division : Division) (text : List Char) : Prop where
  spells : division.filled spelled = text
  areNames : ∀ name ∈ division.names, IsName name
  resolved : ∀ part ∈ division.parts, ¬ HoldsPlaceholder part

/-- The division with one more character in front. -/
def cons (char : Char) (division : Division) : Division :=
  { division with front := char :: division.front }

/-- The division with a placeholder in front. -/
def refer (name : List Char) (division : Division) : Division :=
  ⟨[], (name, division.front) :: division.rest⟩

/-- The division into pieces of which those that stand for themselves are put
together. -/
def ofPieces : List Piece → Division
  | [] => ⟨[], []⟩
  | .char char :: pieces => (ofPieces pieces).cons char
  | .reference name :: pieces => (ofPieces pieces).refer name

theorem filled_refer (name : List Char) (division : Division)
    (fill : List Char → List Char) :
    (division.refer name).filled fill = fill name ++ division.filled fill := by
  rw [filled, refer, List.flatMap_cons, List.nil_append, List.append_assoc]
  rfl

theorem Divides.nil : Divides ⟨[], []⟩ [] where
  spells := rfl
  areNames _ member := nomatch member
  resolved _ member := List.mem_singleton.mp member ▸ not_holdsPlaceholder_nil

theorem Divides.cons {char : Char} {text : List Char} {division : Division}
    (divides : division.Divides text) (noPlaceholder : ¬ Leads (char :: text)) :
    (division.cons char).Divides (char :: text) where
  spells := congrArg (char :: ·) divides.spells
  areNames := divides.areNames
  resolved := by
    obtain ⟨isFront, areOthers⟩ := List.forall_mem_cons.mp divides.resolved
    refine List.forall_mem_cons.mpr ⟨fun holds => ?_, areOthers⟩
    rcases holdsPlaceholder_cons_iff.mp holds with leads | later
    · obtain ⟨name, isName, starts⟩ := leads
      refine noPlaceholder ⟨name, isName, starts.trans ?_⟩
      exact List.cons_prefix_cons.mpr ⟨rfl, _, divides.spells⟩
    · exact isFront later

theorem Divides.refer {name text : List Char} {division : Division}
    (divides : division.Divides text) (isName : IsName name) :
    (division.refer name).Divides (spelled name ++ text) where
  spells := by rw [filled_refer, divides.spells]
  areNames := List.forall_mem_cons.mpr ⟨isName, divides.areNames⟩
  resolved := List.forall_mem_cons.mpr
    ⟨not_holdsPlaceholder_nil, divides.resolved⟩

/-- The pieces of a text divide it. -/
theorem ofPieces_divides (text : List Char) :
    (ofPieces (pieces text)).Divides text := by
  induction text using piecewise with
  | nil =>
      rw [pieces_nil]
      exact .nil
  | char char text noPlaceholder inductionHypothesis =>
      rw [pieces_char noPlaceholder]
      exact inductionHypothesis.cons noPlaceholder
  | reference name text isName inductionHypothesis =>
      rw [pieces_reference isName]
      exact inductionHypothesis.refer isName

/-! ## The division is the only one -/

/-- What stands behind a part is nothing or a placeholder. -/
theorem filled_spelled_cases (rest : List (List Char × List Char)) :
    rest = [] ∧ filled ⟨[], rest⟩ spelled = [] ∨
      ∃ name part more, rest = (name, part) :: more ∧
        filled ⟨[], rest⟩ spelled =
          spelled name ++ filled ⟨part, more⟩ spelled := by
  cases rest with
  | nil => exact .inl ⟨rfl, rfl⟩
  | cons entry more =>
      exact .inr ⟨entry.1, entry.2, more, rfl,
        filled_refer entry.1 ⟨entry.2, more⟩ spelled⟩

/-- A part without placeholders starts none, whatever names come behind it. -/
theorem not_leads_part {char : Char} {front : List Char}
    {rest : List (List Char × List Char)}
    (noPlaceholder : ¬ HoldsPlaceholder (char :: front)) :
    ¬ Leads (filled ⟨char :: front, rest⟩ spelled) := by
  intro leads
  rw [filled, List.cons_append] at leads
  refine noPlaceholder (.of_leads (leads.of_prefixes fun start noDollar starts => ?_))
  -- A beginning without dollar signs ends before the first placeholder.
  change start <+: front ++ filled ⟨[], rest⟩ spelled at starts
  rcases List.prefix_or_prefix_of_prefix starts (List.prefix_append front _)
    with inside | ⟨beyond, rfl⟩
  · exact inside
  · have reaches := (List.prefix_append_right_inj front).mp starts
    cases beyond with
    | nil => exact (List.append_nil front).symm ▸ List.prefix_rfl
    | cons first beyond =>
        rcases filled_spelled_cases rest with ⟨_, nothing⟩ | ⟨_, _, _, _, isNext⟩
        · rw [nothing] at reaches
          cases List.prefix_nil.mp reaches
        · rw [isNext] at reaches
          rw [(List.cons_prefix_cons.mp reaches).1] at noDollar
          exact absurd (List.mem_append_right _ List.mem_cons_self) noDollar

/-- Whatever divides a text is put together from its pieces. -/
theorem Divides.eq_ofPieces {text : List Char} {division : Division}
    (divides : division.Divides text) : division = ofPieces (pieces text) := by
  obtain ⟨front, rest⟩ := division
  obtain ⟨spells, areNames, resolved⟩ := divides
  induction text using piecewise generalizing front rest with
  | nil =>
      obtain ⟨rfl, nothing⟩ := List.append_eq_nil_iff.mp spells
      rcases filled_spelled_cases rest with ⟨rfl, _⟩ | ⟨_, _, _, rfl, _⟩
      · rw [pieces_nil]
        rfl
      · cases nothing
  | char char text noPlaceholder inductionHypothesis =>
      cases front with
      | nil =>
          rcases filled_spelled_cases rest with ⟨rfl, _⟩ | ⟨name, _, _, rfl, isNext⟩
          · cases spells
          · rw [← spells, isNext] at noPlaceholder
            exact absurd (leads_spelled (areNames name List.mem_cons_self) _)
              noPlaceholder
      | cons first front =>
          obtain ⟨isFront, areOthers⟩ := List.forall_mem_cons.mp resolved
          obtain ⟨rfl, spellsRest⟩ := List.cons.inj spells
          have later := inductionHypothesis front rest spellsRest areNames
            (List.forall_mem_cons.mpr
              ⟨fun holds => isFront (holds.append_left [first]), areOthers⟩)
          rw [pieces_char noPlaceholder, ofPieces, ← later]
          rfl
  | reference name text isName inductionHypothesis =>
      cases front with
      | nil =>
          rcases filled_spelled_cases rest with
            ⟨rfl, _⟩ | ⟨other, part, more, rfl, isNext⟩
          · cases spells
          · obtain ⟨isOther, areOthers⟩ := List.forall_mem_cons.mp areNames
            rw [isNext] at spells
            obtain ⟨rfl, spellsRest⟩ := spelled_inj isOther isName spells
            have later := inductionHypothesis part more spellsRest areOthers
              (List.forall_mem_cons.mp resolved).2
            rw [pieces_reference isName, ofPieces, ← later]
            rfl
      | cons first front =>
          refine absurd (leads_spelled isName text) ?_
          rw [← spells]
          exact not_leads_part (resolved _ List.mem_cons_self)

end Division

/-! ## Expansion -/

private theorem names_ofPieces (pieces : List Piece) :
    pieces.filterMap Piece.name? =
      (Division.ofPieces pieces).names.map String.ofList := by
  induction pieces with
  | nil => rfl
  | cons piece pieces inductionHypothesis =>
      cases piece with
      | char value => exact inductionHypothesis
      | reference name =>
          exact congrArg (String.ofList name :: ·) inductionHypothesis

variable {environment : Environment}

/-- Pieces whose variables are set expand to the parts with the values between
them. -/
theorem mapM_expand_of_set {pieces : List Piece} {value : String → String}
    (areSet : ∀ name ∈ pieces.filterMap Piece.name?,
      environment name = some (value name)) :
    ∃ parts, pieces.mapM (Piece.expand environment) = .ok parts ∧
      parts.flatten = (Division.ofPieces pieces).filled fun name =>
        (value (String.ofList name)).toList := by
  induction pieces with
  | nil => exact ⟨[], rfl, rfl⟩
  | cons piece pieces inductionHypothesis =>
      cases piece with
      | char char =>
          obtain ⟨parts, expanded, joined⟩ := inductionHypothesis areSet
          refine ⟨[char] :: parts, ?_, congrArg (char :: ·) joined⟩
          rw [List.mapM_cons, expanded]
          rfl
      | reference name =>
          obtain ⟨isSet, areSet⟩ := List.forall_mem_cons.mp areSet
          obtain ⟨parts, expanded, joined⟩ := inductionHypothesis areSet
          refine ⟨(value (String.ofList name)).toList :: parts, ?_, ?_⟩
          · rw [List.mapM_cons, Piece.expand, isSet, expanded]
            rfl
          · rw [Division.ofPieces, Division.filled_refer, ← joined]
            rfl

/-- Pieces expand to the first name without a value. -/
theorem mapM_expand_of_unset {pieces : List Piece} {before after : List String}
    {name : String}
    (names : pieces.filterMap Piece.name? = before ++ name :: after)
    (areSet : ∀ other ∈ before, environment other ≠ none)
    (isUnset : environment name = none) :
    pieces.mapM (Piece.expand environment) = .error name := by
  induction pieces generalizing before with
  | nil => exact absurd names.symm (List.append_ne_nil_of_right_ne_nil _ nofun)
  | cons piece pieces inductionHypothesis =>
      cases piece with
      | char char =>
          rw [List.mapM_cons, inductionHypothesis names areSet]
          rfl
      | reference own =>
          cases before with
          | nil =>
              obtain ⟨rfl, _⟩ := List.cons.inj names
              rw [List.mapM_cons, Piece.expand, isUnset]
              rfl
          | cons first before =>
              obtain ⟨rfl, others⟩ := List.cons.inj names
              obtain ⟨isSet, areOthers⟩ := List.forall_mem_cons.mp areSet
              obtain ⟨value, isValue⟩ := Option.ne_none_iff_exists'.mp isSet
              rw [List.mapM_cons, Piece.expand, isValue,
                inductionHypothesis others areOthers]
              rfl

end Parley.Config.Placeholder

namespace Parley.Config

open Placeholder (Division Environment Occurrence variableNames)

variable {environment : Environment} {text : String}

/-- A text whose variables are set expands to its parts with their values between
them. -/
theorem expand_of_set {value : String → String}
    (areSet : ∀ name ∈ variableNames text,
      environment name = some (value name)) :
    expand environment text =
      .ok (String.ofList
        ((Division.ofPieces (Placeholder.pieces text.toList)).filled fun name =>
          (value (String.ofList name)).toList)) := by
  obtain ⟨parts, expanded, joined⟩ := Placeholder.mapM_expand_of_set areSet
  rw [expand, Placeholder.interpolate, expanded, ← joined]
  rfl

/-- The first variable of a text that is not set is missing. -/
theorem expand_of_unset {before after : List String} {name : String}
    (names : variableNames text = before ++ name :: after)
    (areSet : ∀ other ∈ before, environment other ≠ none)
    (isUnset : environment name = none) :
    expand environment text = .error (.missingVariable name) := by
  rw [expand, Placeholder.interpolate,
    Placeholder.mapM_expand_of_unset names areSet isUnset]
  rfl

/-- The variables of a text are set, or there is a first one that is not. -/
theorem areSet_or_first_unset (names : List String)
    (environment : Environment) :
    (∀ name ∈ names, environment name ≠ none) ∨
      ∃ before name after, names = before ++ name :: after ∧
        (∀ other ∈ before, environment other ≠ none) ∧
        environment name = none := by
  cases found : names.find? fun name => (environment name).isNone with
  | none =>
      left
      intro name member isUnset
      have isSet := List.find?_eq_none.mp found name member
      rw [isUnset] at isSet
      exact isSet rfl
  | some name =>
      right
      obtain ⟨isUnset, before, after, split, areSet⟩ :=
        List.find?_eq_some_iff_append.mp found
      refine ⟨before, name, after, split, fun other member isOther => ?_,
        Option.isNone_iff_eq_none.mp isUnset⟩
      have isSet := areSet other member
      rw [isOther] at isSet
      cases isSet

/-- A text expands exactly if all of its variables are set. -/
theorem expand_succeeds_iff :
    (∃ result, expand environment text = .ok result) ↔
      ∀ name ∈ variableNames text, environment name ≠ none := by
  constructor
  · rintro ⟨result, expanded⟩
    rcases areSet_or_first_unset (variableNames text) environment with
      areSet | ⟨before, name, after, names, areSet, isUnset⟩
    · exact areSet
    · rw [expand_of_unset names areSet isUnset] at expanded
      cases expanded
  · intro areSet
    have values : ∀ name ∈ variableNames text,
        environment name = some ((environment name).getD "") := by
      intro name member
      obtain ⟨value, isValue⟩ := Option.ne_none_iff_exists'.mp (areSet name member)
      rw [isValue]
      rfl
    exact ⟨_, expand_of_set values⟩

/-- Placeholders of a text do not overlap, and exactly one division cuts the text
at all of them. Its names are the variables of the text. If they are set, the text
expands to the parts with the values between them, which are not looked at; else
the first one that is not set is missing. A text without variables stays as it
is. -/
theorem expand_fills_only_division (text : String)
    (environment : Environment) :
    (∀ first second : Occurrence, first.IsIn text.toList →
      second.IsIn text.toList →
        first = second ∨ first.stop ≤ second.start ∨
          second.stop ≤ first.start) ∧
    ∃ division : Division,
      (division.Divides text.toList ∧
        ∀ other : Division, other.Divides text.toList → other = division) ∧
      variableNames text = division.names.map String.ofList ∧
      (∀ value : String → String,
        (∀ name ∈ variableNames text, environment name = some (value name)) →
          expand environment text = .ok (String.ofList
            (division.filled fun name =>
              (value (String.ofList name)).toList))) ∧
      (∀ before name after, variableNames text = before ++ name :: after →
        (∀ other ∈ before, environment other ≠ none) →
        environment name = none →
          expand environment text = .error (.missingVariable name)) ∧
      ((∃ result, expand environment text = .ok result) ↔
        ∀ name ∈ variableNames text, environment name ≠ none) ∧
      (variableNames text = [] → expand environment text = .ok text) := by
  constructor
  · intro first second isFirst isSecond
    rcases Nat.lt_trichotomy first.start second.start with
      earlier | same | later
    · exact .inr (.inl (isFirst.stop_le_start isSecond earlier))
    · exact .inl (isFirst.of_same_start isSecond same)
    · exact .inr (.inr (isSecond.stop_le_start isFirst later))
  · have divides := Division.ofPieces_divides text.toList
    refine ⟨.ofPieces (Placeholder.pieces text.toList),
      ⟨divides, fun other isOther => isOther.eq_ofPieces⟩,
      Placeholder.names_ofPieces _, fun value => expand_of_set,
      fun before name after => expand_of_unset, expand_succeeds_iff, ?_⟩
    intro noVariables
    have resolved := Placeholder.variableNames_eq_nil_iff.mp noVariables
    exact expand_eq_ok_iff.mpr (Placeholder.replaced_of_not_holds resolved)

/-- Marks of placeholders before a placeholder, and around another one. -/
def crowdedText : String :=
  "$$\x7bA\x7d-$\x7b$\x7bB\x7d"

/-- Values of which one holds a placeholder in turn. -/
def referringValue (name : String) : String :=
  if name = "A" then "1$\x7bB\x7d" else "2"

/-- Only the innermost marks are placeholders, and a value that holds one is not
looked at. Without that value, it is missing though another one is missing as
well. -/
theorem crowdedText_expands :
    variableNames crowdedText = ["A", "B"] ∧
      expand (fun name => some (referringValue name)) crowdedText =
        .ok "$1$\x7bB\x7d-$\x7b2" ∧
      expand (fun _ => none) crowdedText = .error (.missingVariable "A") := by
  have divides : Division.Divides
      ⟨['$'], [(['A'], ['-', '$', '\x7b']), (['B'], [])]⟩
      crowdedText.toList := by
    refine ⟨rfl, ?_, ?_⟩
    · refine List.forall_mem_cons.mpr ⟨?_, List.forall_mem_singleton.mpr ?_⟩
      · exact ⟨'A', [], rfl, Placeholder.startsName_iff.mp rfl,
          List.forall_mem_nil _⟩
      · exact ⟨'B', [], rfl, Placeholder.startsName_iff.mp rfl,
          List.forall_mem_nil _⟩
    · refine List.forall_mem_cons.mpr ⟨?_, List.forall_mem_cons.mpr
        ⟨?_, List.forall_mem_singleton.mpr ?_⟩⟩
      · exact fun holds => absurd holds.closing_mem (by decide)
      · exact fun holds => absurd holds.closing_mem (by decide)
      · exact Placeholder.not_holdsPlaceholder_nil
  obtain ⟨_, division, ⟨_, only⟩, names, fills, _⟩ :=
    expand_fills_only_division crowdedText
      fun name => some (referringValue name)
  rw [← only _ divides] at names fills
  refine ⟨names, fills referringValue fun _ _ => rfl, ?_⟩
  obtain ⟨_, _, _, _, _, misses, _⟩ :=
    expand_fills_only_division crowdedText fun _ => none
  exact misses [] "A" ["B"] names (List.forall_mem_nil _) rfl

end Parley.Config
