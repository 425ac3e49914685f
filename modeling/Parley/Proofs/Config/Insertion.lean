import Parley.Proofs.Config.Placeholder

/-!
Contract: values of variables as parts of other texts.

A text in which some placeholders were replaced holds the values of their
variables as they are, next to placeholders that were left. If it is expanded in
its turn and no placeholder remains, the result is what expanding the first text
twice gives.

Owns: `Inserted`, how both relations act on parts of a text, and expansion in two
passes.
-/

namespace Parley.Config.Placeholder

/-- The relation between a text and the same text with placeholders replaced by
the values of their variables. Values are not looked at. Placeholders may be left
if `mayLeave` holds. -/
inductive Inserted (environment : Environment) (mayLeave : Prop) :
    List Char → List Char → Prop where
  | nil : Inserted environment mayLeave [] []
  | char {char : Char} {text result : List Char}
      (isLeft : Leads (char :: text) → mayLeave)
      (rest : Inserted environment mayLeave text result) :
      Inserted environment mayLeave (char :: text) (char :: result)
  | reference {name text result : List Char} {value : String}
      (isName : IsName name)
      (isSet : environment (String.ofList name) = some value)
      (rest : Inserted environment mayLeave text result) :
      Inserted environment mayLeave (spelled name ++ text)
        (value.toList ++ result)

variable {environment : Environment} {mayLeave : Prop}

theorem Replaced.inserted {text result : List Char}
    (replaced : Replaced environment text result) :
    Inserted environment mayLeave text result := by
  induction replaced with
  | nil => exact .nil
  | char noPlaceholder _ inductionHypothesis =>
      exact .char (fun leads => absurd leads noPlaceholder) inductionHypothesis
  | reference isName isSet _ inductionHypothesis =>
      exact .reference isName isSet inductionHypothesis

theorem Inserted.replaced {text result : List Char}
    (inserted : Inserted environment mayLeave text result)
    (noneLeft : ¬ mayLeave) : Replaced environment text result := by
  induction inserted with
  | nil => exact .nil
  | char isLeft _ inductionHypothesis =>
      exact .char (fun leads => noneLeft (isLeft leads)) inductionHypothesis
  | reference isName isSet _ inductionHypothesis =>
      exact .reference isName isSet inductionHypothesis

/-! ## Parts of a text -/

theorem spelled_append (name text : List Char) :
    spelled name ++ text = '$' :: ('\x7b' :: (name ++ ['\x7d']) ++ text) := rfl

theorem spelled_inj {name other text rest : List Char} (isName : IsName name)
    (isOther : IsName other) (same : spelled name ++ text = spelled other ++ rest) :
    name = other ∧ text = rest := by
  have found := leading?_eq_some_iff.mpr ⟨isOther, same⟩
  rw [leading?_eq_some_iff.mpr ⟨isName, rfl⟩] at found
  exact Prod.mk.inj (Option.some.inj found)

theorem inserted_cons {char : Char} {text result : List Char}
    (isPlain : ¬ Leads (char :: text)) :
    Inserted environment mayLeave (char :: text) result ↔
      ∃ later, result = char :: later ∧
        Inserted environment mayLeave text later := by
  constructor
  · intro inserted
    generalize isText : char :: text = whole at inserted
    cases inserted with
    | nil => cases isText
    | char isLeft rest =>
        cases isText
        exact ⟨_, rfl, rest⟩
    | reference isName isSet rest =>
        rw [isText] at isPlain
        exact absurd (leads_spelled isName _) isPlain
  · rintro ⟨later, rfl, rest⟩
    exact .char (fun leads => absurd leads isPlain) rest

/-- What holds no dollar sign is not changed. -/
theorem inserted_append {front text result : List Char}
    (noDollar : '$' ∉ front) :
    Inserted environment mayLeave (front ++ text) result ↔
      ∃ later, result = front ++ later ∧
        Inserted environment mayLeave text later := by
  induction front generalizing result with
  | nil =>
      constructor
      · intro inserted
        exact ⟨result, rfl, inserted⟩
      · rintro ⟨later, rfl, inserted⟩
        exact inserted
  | cons char front inductionHypothesis =>
      have notDollar : char ≠ '$' := fun same =>
        noDollar (same ▸ List.mem_cons_self)
      have noMore : '$' ∉ front := fun member =>
        noDollar (List.mem_cons_of_mem _ member)
      rw [List.cons_append, inserted_cons (not_leads_of_ne notDollar)]
      constructor
      · rintro ⟨later, rfl, rest⟩
        obtain ⟨last, rfl, others⟩ := (inductionHypothesis noMore).mp rest
        exact ⟨last, rfl, others⟩
      · rintro ⟨last, rfl, rest⟩
        exact ⟨front ++ last, rfl, (inductionHypothesis noMore).mpr
          ⟨last, rfl, rest⟩⟩

theorem Inserted.eq_of_no_dollar {text result : List Char}
    (inserted : Inserted environment mayLeave text result)
    (noDollar : '$' ∉ text) : result = text := by
  rw [← List.append_nil text, inserted_append noDollar] at inserted
  obtain ⟨later, rfl, rest⟩ := inserted
  cases rest
  exact List.append_nil text

/-- A placeholder is replaced or left. -/
theorem inserted_spelled {name text result : List Char} (isName : IsName name)
    (inserted : Inserted environment mayLeave (spelled name ++ text) result) :
    (∃ value later, environment (String.ofList name) = some value ∧
        result = value.toList ++ later ∧
        Inserted environment mayLeave text later) ∨
      ∃ later, mayLeave ∧ result = spelled name ++ later ∧
        Inserted environment mayLeave text later := by
  generalize isText : spelled name ++ text = whole at inserted
  cases inserted with
  | nil => cases isText
  | char isLeft rest =>
      have leads := leads_spelled isName text
      rw [isText] at leads
      rw [spelled_append] at isText
      obtain ⟨rfl, rfl⟩ := List.cons.inj isText
      obtain ⟨later, rfl, others⟩ := (inserted_append isName.no_dollar).mp rest
      exact .inr ⟨later, isLeft leads, rfl, others⟩
  | reference isOther isSet rest =>
      obtain ⟨rfl, rfl⟩ := spelled_inj isName isOther isText
      exact .inl ⟨_, _, isSet, rfl, rest⟩

theorem replaced_iff_inserted {text result : List Char} :
    Replaced environment text result ↔ Inserted environment False text result :=
  ⟨Replaced.inserted, fun inserted => inserted.replaced id⟩

theorem replaced_cons {char : Char} {text result : List Char}
    (isPlain : ¬ Leads (char :: text)) :
    Replaced environment (char :: text) result ↔
      ∃ later, result = char :: later ∧ Replaced environment text later := by
  simp only [replaced_iff_inserted]
  exact inserted_cons isPlain

theorem replaced_append {front text result : List Char}
    (noDollar : '$' ∉ front) :
    Replaced environment (front ++ text) result ↔
      ∃ later, result = front ++ later ∧ Replaced environment text later := by
  simp only [replaced_iff_inserted]
  exact inserted_append noDollar

theorem replaced_spelled {name text result : List Char} (isName : IsName name)
    (replaced : Replaced environment (spelled name ++ text) result) :
    ∃ value later, environment (String.ofList name) = some value ∧
      result = value.toList ++ later ∧ Replaced environment text later := by
  rw [replaced_iff_inserted] at replaced
  obtain ⟨value, later, isSet, isResult, rest⟩ | ⟨_, impossible, _⟩ :=
    inserted_spelled isName replaced
  · exact ⟨value, later, isSet, isResult, replaced_iff_inserted.mpr rest⟩
  · exact impossible.elim

/-- A text without placeholders expands to itself. -/
theorem replaced_of_not_holds {text : List Char}
    (noPlaceholder : ¬ HoldsPlaceholder text) :
    Replaced environment text text := by
  induction text with
  | nil => exact .nil
  | cons char text inductionHypothesis =>
      rw [holdsPlaceholder_cons_iff, not_or] at noPlaceholder
      exact .char noPlaceholder.1 (inductionHypothesis noPlaceholder.2)

/-! ## Placeholders that are left -/

theorem holdsPlaceholder_append_iff {front text : List Char}
    (noDollar : '$' ∉ front) :
    HoldsPlaceholder (front ++ text) ↔ HoldsPlaceholder text := by
  induction front with
  | nil => exact Iff.rfl
  | cons char front inductionHypothesis =>
      have notDollar : char ≠ '$' := fun same =>
        noDollar (same ▸ List.mem_cons_self)
      rw [List.cons_append, holdsPlaceholder_cons_iff,
        inductionHypothesis fun member =>
          noDollar (List.mem_cons_of_mem _ member)]
      exact ⟨fun either => either.elim
        (fun leads => absurd leads (not_leads_of_ne notDollar)) id, .inr⟩

/-- What follows a dollar sign where a placeholder starts. -/
theorem leads_dollar_iff {text : List Char} :
    Leads ('$' :: text) ↔
      ∃ name, IsName name ∧ '\x7b' :: (name ++ ['\x7d']) <+: text := by
  constructor
  · rintro ⟨name, isName, starts⟩
    exact ⟨name, isName, (List.cons_prefix_cons.mp starts).2⟩
  · rintro ⟨name, isName, starts⟩
    exact ⟨name, isName, List.cons_prefix_cons.mpr ⟨rfl, starts⟩⟩

/-- Placeholders start in a text only where they start in another one, if every
beginning of what follows that holds no dollar sign is one there too. -/
theorem Leads.of_prefixes {char : Char} {text other : List Char}
    (leads : Leads (char :: text))
    (prefixes : ∀ front, '$' ∉ front → front <+: text → front <+: other) :
    Leads (char :: other) := by
  by_cases isDollar : char = '$'
  · subst isDollar
    obtain ⟨name, isName, starts⟩ := leads_dollar_iff.mp leads
    exact leads_dollar_iff.mpr ⟨name, isName, prefixes _ isName.no_dollar starts⟩
  · exact absurd leads (not_leads_of_ne isDollar)

theorem Inserted.prefixes {text result : List Char}
    (inserted : Inserted environment mayLeave text result) {front : List Char}
    (noDollar : '$' ∉ front) (starts : front <+: text) : front <+: result := by
  obtain ⟨later, rfl⟩ := starts
  obtain ⟨last, rfl, _⟩ := (inserted_append noDollar).mp inserted
  exact List.prefix_append _ _

theorem Replaced.prefixes {text result : List Char}
    (replaced : Replaced environment text result) {front : List Char}
    (noDollar : '$' ∉ front) (starts : front <+: text) : front <+: result :=
  (replaced_iff_inserted.mp replaced).prefixes noDollar starts

/-- If a result holds no placeholder, none was left. -/
theorem Inserted.replaced_of_not_holds {text result : List Char}
    (inserted : Inserted environment mayLeave text result)
    (noPlaceholder : ¬ HoldsPlaceholder result) :
    Replaced environment text result := by
  induction inserted with
  | nil => exact .nil
  | char isLeft rest inductionHypothesis =>
      rw [holdsPlaceholder_cons_iff, not_or] at noPlaceholder
      refine .char (fun leads => noPlaceholder.1 ?_)
        (inductionHypothesis noPlaceholder.2)
      exact leads.of_prefixes fun front noDollar => rest.prefixes noDollar
  | reference isName isSet rest inductionHypothesis =>
      exact .reference isName isSet (inductionHypothesis fun holds =>
        noPlaceholder (holds.append_left _))

/-! ## Two passes -/

/-- Whether whatever one text expands to without placeholders, another one
expands to as well. Up to its first dollar sign, it starts like that one. -/
structure Overtakes (environment : Environment) (text other : List Char) :
    Prop where
  expands : ∀ result, Replaced environment text result →
    ¬ HoldsPlaceholder result → Replaced environment other result
  prefixes : ∀ front, '$' ∉ front → front <+: text → front <+: other

theorem Overtakes.cons {text other : List Char}
    (overtakes : Overtakes environment text other) (char : Char) :
    Overtakes environment (char :: text) (char :: other) where
  expands result replaced noPlaceholder := by
    by_cases leads : Leads (char :: text)
    · obtain ⟨name, isName, later, isText⟩ := leads
      rw [← isText] at replaced
      obtain ⟨value, last, isSet, rfl, rest⟩ := replaced_spelled isName replaced
      rw [spelled_append] at isText
      obtain ⟨rfl, rfl⟩ := List.cons.inj isText
      -- the name stands in the other text as well, which goes on as this one
      have noneLater : ¬ HoldsPlaceholder
          ('\x7b' :: (name ++ ['\x7d']) ++ last) := by
        rw [holdsPlaceholder_append_iff isName.no_dollar]
        exact fun holds => noPlaceholder (holds.append_left _)
      have others := overtakes.expands _ ((replaced_append isName.no_dollar).mpr
        ⟨last, rfl, rest⟩) noneLater
      obtain ⟨more, rfl⟩ := overtakes.prefixes _ isName.no_dollar
        (List.prefix_append _ later)
      obtain ⟨_, same, others⟩ := (replaced_append isName.no_dollar).mp others
      rw [← List.append_cancel_left same] at others
      exact .reference isName isSet others
    · obtain ⟨last, rfl, rest⟩ := (replaced_cons leads).mp replaced
      rw [holdsPlaceholder_cons_iff, not_or] at noPlaceholder
      have others := overtakes.expands last rest noPlaceholder.2
      refine .char (fun leadsOther => noPlaceholder.1 ?_) others
      exact leadsOther.of_prefixes fun front noDollar =>
        others.prefixes noDollar
  prefixes front noDollar starts := by
    cases front with
    | nil => exact List.nil_prefix
    | cons first front =>
        obtain ⟨rfl, begins⟩ := List.cons_prefix_cons.mp starts
        refine List.cons_prefix_cons.mpr ⟨rfl, overtakes.prefixes front ?_ begins⟩
        exact fun member => noDollar (List.mem_cons_of_mem _ member)

theorem Overtakes.append {text other : List Char}
    (overtakes : Overtakes environment text other) (front : List Char) :
    Overtakes environment (front ++ text) (front ++ other) := by
  induction front with
  | nil => exact overtakes
  | cons char front inductionHypothesis => exact inductionHypothesis.cons char

/-- A value in front of a text that is expanded is not looked at, if no
placeholder starts in it. -/
theorem replaced_behind {text result : List Char}
    (replaced : Replaced environment text result) (front : List Char)
    (noPlaceholder : ¬ HoldsPlaceholder (front ++ result)) :
    Replaced environment (front ++ text) (front ++ result) := by
  induction front with
  | nil => exact replaced
  | cons char front inductionHypothesis =>
      rw [List.cons_append, holdsPlaceholder_cons_iff, not_or] at noPlaceholder
      have others := inductionHypothesis noPlaceholder.2
      refine .char (fun leads => noPlaceholder.1 ?_) others
      exact leads.of_prefixes fun front noDollar => others.prefixes noDollar

/-- A placeholder is overtaken by the value of its variable. -/
theorem Overtakes.spelled {text other name : List Char} {value : String}
    (overtakes : Overtakes environment text other) (isName : IsName name)
    (isSet : environment (String.ofList name) = some value) :
    Overtakes environment (spelled name ++ text) (value.toList ++ other) where
  expands result replaced noPlaceholder := by
    obtain ⟨held, last, isHeld, rfl, rest⟩ := replaced_spelled isName replaced
    cases isSet.symm.trans isHeld
    exact replaced_behind (overtakes.expands last rest fun holds =>
      noPlaceholder (holds.append_left _)) _ noPlaceholder
  prefixes front noDollar starts := by
    cases front with
    | nil => exact List.nil_prefix
    | cons first front =>
        have isFirst := (List.cons_prefix_cons.mp starts).1
        exact absurd (isFirst ▸ List.mem_cons_self) noDollar

/-- A text expands if every variable that it refers to is set. -/
def Expands (environment : Environment) (text : List Char) : Prop :=
  ∃ result, Replaced environment text result

theorem Expands.tail {char : Char} {text : List Char}
    (expands : Expands environment (char :: text)) :
    Expands environment text := by
  obtain ⟨result, replaced⟩ := expands
  by_cases leads : Leads (char :: text)
  · obtain ⟨name, isName, later, isText⟩ := leads
    rw [← isText] at replaced
    obtain ⟨_, last, _, _, rest⟩ := replaced_spelled isName replaced
    rw [spelled_append] at isText
    obtain ⟨rfl, rfl⟩ := List.cons.inj isText
    exact ⟨_, (replaced_append isName.no_dollar).mpr ⟨last, rfl, rest⟩⟩
  · obtain ⟨last, _, rest⟩ := (replaced_cons leads).mp replaced
    exact ⟨last, rest⟩

theorem Expands.behind {front text : List Char}
    (expands : Expands environment (front ++ text)) :
    Expands environment text := by
  induction front with
  | nil => exact expands
  | cons char front inductionHypothesis => exact inductionHypothesis expands.tail

/-- If what some placeholders of a text were replaced in expands, then the text
expands, and expands once more to the same. -/
theorem Inserted.overtaken {text middle : List Char}
    (inserted : Inserted environment mayLeave text middle)
    (expands : Expands environment middle) :
    ∃ once, Replaced environment text once ∧
      Overtakes environment middle once := by
  induction text using piecewise generalizing middle with
  | nil =>
      cases inserted
      exact ⟨[], .nil, fun _ replaced _ => replaced, fun _ _ starts => starts⟩
  | char char text noPlaceholder inductionHypothesis =>
      obtain ⟨later, rfl, rest⟩ := (inserted_cons noPlaceholder).mp inserted
      obtain ⟨once, isOnce, overtakes⟩ := inductionHypothesis rest expands.tail
      exact ⟨char :: once, .char noPlaceholder isOnce, overtakes.cons char⟩
  | reference name text isName inductionHypothesis =>
      obtain ⟨value, later, isSet, rfl, rest⟩ | ⟨later, _, rfl, rest⟩ :=
        inserted_spelled isName inserted
      · obtain ⟨once, isOnce, overtakes⟩ :=
          inductionHypothesis rest expands.behind
        exact ⟨value.toList ++ once, .reference isName isSet isOnce,
          overtakes.append value.toList⟩
      · obtain ⟨result, replaced⟩ := expands
        obtain ⟨value, last, isSet, _, isLast⟩ :=
          replaced_spelled isName replaced
        obtain ⟨once, isOnce, overtakes⟩ :=
          inductionHypothesis rest ⟨last, isLast⟩
        exact ⟨value.toList ++ once, .reference isName isSet isOnce,
          overtakes.spelled isName isSet⟩

/-- If no placeholder remains, a text with some placeholders replaced expands to
what the text expands to in two passes. -/
theorem Inserted.twice {text middle result : List Char}
    (inserted : Inserted environment mayLeave text middle)
    (replaced : Replaced environment middle result)
    (noPlaceholder : ¬ HoldsPlaceholder result) :
    ∃ once, Replaced environment text once ∧
      Replaced environment once result := by
  obtain ⟨once, isOnce, overtakes⟩ := inserted.overtaken ⟨result, replaced⟩
  exact ⟨once, isOnce, overtakes.expands result replaced noPlaceholder⟩

end Parley.Config.Placeholder
