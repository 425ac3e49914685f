import Parley.Proofs.Schema.Strictness

/-!
Contract: a closed record is not read from an object with one member too many.

The member that is too many has a key that the record does not know, or one that
another member has too. It may stand anywhere in the object, or in the object of
one of the record's sections.

Owns: `Surplus`, `Crowded`, `Section`, `CrowdedWithin`, and the refusal of such
objects.
-/

namespace Parley.Schema

open Parley.Json (Denotes Entry IsBody WellFormed)

variable {σ : Type}

/-! ## Members that are one too many -/

/-- Whether an entry has no place among others: of the keys that are known, it has
none that the others leave. -/
structure Surplus (known : List String) (others : List Entry) (entry : Entry) :
    Prop where
  isKey : IsBody entry.key
  wellFormed : WellFormed entry.value
  taken : ∀ key : String, Denotes entry.key key.toList → key ∈ known →
    ∃ other ∈ others, Denotes other.key key.toList

/-- Whether a JSON text is an object that spells fields, but for one member too
many. -/
def Crowded (Added : Entry → Prop) (fields : List Field) (text : List Char) :
    Prop :=
  ∃ front added back, Arranged NoOther fields (front ++ back) ∧ Added added ∧
    Surplus (fields.map Field.key) (front ++ back) added ∧
    IsObject (front ++ added :: back) text

/-- A field whose value is an object with fields of its own. -/
structure Section where
  key : String
  mayBeAbsent : Prop
  fields : List Field

/-- A section as its fields spell it. -/
def Section.field (part : Section) : Field :=
  ⟨part.key, part.mayBeAbsent, ObjectText NoOther part.fields⟩

/-- A section with one member too many. It is there, or it would have none. -/
def Section.crowded (Added : Entry → Prop) (part : Section) : Field :=
  ⟨part.key, False, Crowded Added part.fields⟩

/-- Whether a JSON text is an object that spells fields and sections, but for one
member too many, in the object or in one of the sections. -/
def CrowdedWithin (Added : Entry → Prop) (fields : List Field)
    (sections : List Section) (text : List Char) : Prop :=
  Crowded Added (fields ++ sections.map Section.field) text ∨
    ∃ before part after, sections = before ++ part :: after ∧
      ObjectText NoOther (fields ++ (before.map Section.field ++
        part.crowded Added :: after.map Section.field)) text

/-- What holds of fields and of sections holds of all fields of an object, also if
one of the sections has a member too many. -/
theorem forall_sections {Holds : Field → Prop} {fields : List Field}
    {sections : List Section} (areFields : ∀ field ∈ fields, Holds field)
    (areSections : ∀ part ∈ sections, Holds part.field) :
    ∀ field ∈ fields ++ sections.map Section.field, Holds field :=
  List.forall_mem_append.mpr ⟨areFields, List.forall_mem_map.mpr areSections⟩

theorem forall_crowded {Holds : Field → Prop} {Added : Entry → Prop}
    {fields : List Field} {before after : List Section} {part : Section}
    (areFields : ∀ field ∈ fields, Holds field)
    (areSections : ∀ other ∈ before ++ part :: after, Holds other.field)
    (isCrowded : Holds (part.crowded Added)) :
    ∀ field ∈ fields ++ (before.map Section.field ++
      part.crowded Added :: after.map Section.field), Holds field := by
  obtain ⟨areBefore, areBehind⟩ := List.forall_mem_append.mp areSections
  have areAfter := (List.forall_mem_cons.mp areBehind).2
  exact List.forall_mem_append.mpr ⟨areFields, List.forall_mem_append.mpr
    ⟨List.forall_mem_map.mpr areBefore, List.forall_mem_cons.mpr
      ⟨isCrowded, List.forall_mem_map.mpr areAfter⟩⟩⟩

/-! ## What spelled objects consist of -/

/-- Whether everything that spells a field is a value. -/
def Field.SpellsValues (field : Field) : Prop :=
  ∀ text, field.Spells text → WellFormed text

namespace Arranged

variable {Other : Entry → Prop} {fields : List Field} {entries : List Entry}

/-- Each member is another one or that of a field. -/
theorem source (arranged : Arranged Other fields entries) :
    ∀ entry ∈ entries, Other entry ∨ ∃ field ∈ fields,
      Denotes entry.key field.key.toList ∧ field.Spells entry.value := by
  induction arranged with
  | nil => exact List.forall_mem_nil _
  | field before after named spelled _ inductionHypothesis =>
      refine List.forall_mem_cons.mpr
        ⟨.inr ⟨_, List.mem_append_right _ List.mem_cons_self, named, spelled⟩,
          fun entry isEntry => ?_⟩
      refine (inductionHypothesis entry isEntry).imp_right ?_
      rintro ⟨field, isField, spells⟩
      refine ⟨field, ?_, spells⟩
      rcases List.mem_append.mp isField with isBefore | isAfter
      · exact List.mem_append_left _ isBefore
      · exact List.mem_append_right _ (List.mem_cons_of_mem _ isAfter)
  | other isOther _ inductionHypothesis =>
      exact List.forall_mem_cons.mpr ⟨.inl isOther, inductionHypothesis⟩

/-- A field that may not be absent has a member. -/
theorem present (arranged : Arranged Other fields entries) {field : Field}
    (isField : field ∈ fields) (required : ¬ field.mayBeAbsent) :
    ∃ entry ∈ entries, Denotes entry.key field.key.toList ∧
      field.Spells entry.value := by
  induction arranged with
  | nil mayBeAbsent => exact absurd (mayBeAbsent field isField) required
  | @field before after other entry entries named spelled _
      inductionHypothesis =>
      have later : (∃ entry ∈ entries, Denotes entry.key field.key.toList ∧
          field.Spells entry.value) → ∃ other ∈ entry :: entries,
            Denotes other.key field.key.toList ∧ field.Spells other.value :=
        fun ⟨other, isOther, spells⟩ =>
          ⟨other, List.mem_cons_of_mem _ isOther, spells⟩
      rcases List.mem_append.mp isField with isBefore | isBehind
      · exact later (inductionHypothesis (List.mem_append_left _ isBefore))
      rcases List.mem_cons.mp isBehind with rfl | isAfter
      · exact ⟨entry, List.mem_cons_self, named, spelled⟩
      · exact later (inductionHypothesis (List.mem_append_right _ isAfter))
  | other _ _ inductionHypothesis =>
      obtain ⟨entry, isEntry, spells⟩ := inductionHypothesis isField
      exact ⟨entry, List.mem_cons_of_mem _ isEntry, spells⟩

/-- Members of fields are members of an object. -/
theorem areMembers (arranged : Arranged NoOther fields entries)
    (areValues : ∀ field ∈ fields, field.SpellsValues) :
    ∀ entry ∈ entries, IsBody entry.key ∧ WellFormed entry.value := by
  intro entry isEntry
  obtain isOther | ⟨field, isField, named, spelled⟩ :=
    arranged.source entry isEntry
  · exact isOther.elim
  · exact ⟨named.isBody, areValues field isField entry.value spelled⟩

end Arranged

theorem ObjectText.wellFormed {fields : List Field} {text : List Char}
    (isObject : ObjectText NoOther fields text)
    (areValues : ∀ field ∈ fields, field.SpellsValues) : WellFormed text := by
  obtain ⟨entries, arranged, enclosed⟩ := isObject
  have areMembers := arranged.areMembers areValues
  exact .object enclosed (fun entry isEntry => (areMembers entry isEntry).1)
    fun entry isEntry => (areMembers entry isEntry).2

/-- An object with one member too many is made of members too. -/
theorem Surplus.areMembers {fields : List Field} {front back : List Entry}
    {added : Entry} {known : List String}
    (surplus : Surplus known (front ++ back) added)
    (arranged : Arranged NoOther fields (front ++ back))
    (areValues : ∀ field ∈ fields, field.SpellsValues) :
    ∀ entry ∈ front ++ added :: back, IsBody entry.key ∧
      WellFormed entry.value := by
  have areMembers := arranged.areMembers areValues
  intro entry isEntry
  rcases List.mem_append.mp isEntry with isFront | isBehind
  · exact areMembers entry (List.mem_append_left _ isFront)
  rcases List.mem_cons.mp isBehind with rfl | isBack
  · exact ⟨surplus.isKey, surplus.wellFormed⟩
  · exact areMembers entry (List.mem_append_right _ isBack)

theorem Crowded.wellFormed {Added : Entry → Prop} {fields : List Field}
    {text : List Char} (crowded : Crowded Added fields text)
    (areValues : ∀ field ∈ fields, field.SpellsValues) : WellFormed text := by
  obtain ⟨front, added, back, arranged, _, surplus, enclosed⟩ := crowded
  have areMembers := surplus.areMembers arranged areValues
  exact .object enclosed (fun entry isEntry => (areMembers entry isEntry).1)
    fun entry isEntry => (areMembers entry isEntry).2

/-! ## Refusals -/

namespace Record

variable {record : Record σ} {Added : Entry → Prop} {fields : List Field}
  {text : List Char}

/-- A closed record is not read from an object with one member too many, wherever
it stands. -/
theorem refuses_crowded (isClosed : record.closed = true)
    (measures : ∀ member ∈ record.members, member.reader.Measures)
    (sameKeys : fields.map Field.key = record.members.map Member.key)
    (areValues : ∀ field ∈ fields, field.SpellsValues)
    (crowded : Crowded Added fields text) :
    record.codec.toReader.Refuses text := by
  obtain ⟨front, added, back, arranged, _, surplus, isObject⟩ := crowded
  have areMembers := surplus.areMembers arranged areValues
  refine refuses_object isClosed measures isObject
    (fun entry isEntry => (areMembers entry isEntry).1)
    (fun entry isEntry => (areMembers entry isEntry).2) fun fits => ?_
  obtain ⟨member, isMember, named, _⟩ := fits.known added
    (List.mem_append_right _ List.mem_cons_self)
  have isKnown : member.key ∈ fields.map Field.key := by
    rw [sameKeys]
    exact List.mem_map_of_mem isMember
  obtain ⟨other, isOther, namedToo⟩ := surplus.taken member.key named isKnown
  have apart := (List.pairwise_middle Apart.symm).mp fits.apart
  exact List.rel_of_pairwise_cons apart isOther _ named namedToo

/-- A closed record is not read from an object with a field whose member refuses
it. -/
theorem refuses_field (isClosed : record.closed = true)
    (measures : ∀ member ∈ record.members, member.reader.Measures)
    (areValues : ∀ field ∈ fields, field.SpellsValues)
    (isObject : ObjectText NoOther fields text) {field : Field}
    (isField : field ∈ fields) (required : ¬ field.mayBeAbsent)
    (refused : ∀ member ∈ record.members, member.key = field.key →
      ∀ value, field.Spells value → member.reader.Refuses value) :
    record.codec.toReader.Refuses text := by
  obtain ⟨entries, arranged, enclosed⟩ := isObject
  have areMembers := arranged.areMembers areValues
  refine refuses_object isClosed measures enclosed
    (fun entry isEntry => (areMembers entry isEntry).1)
    (fun entry isEntry => (areMembers entry isEntry).2) fun fits => ?_
  obtain ⟨entry, isEntry, named, spelled⟩ := arranged.present isField required
  obtain ⟨member, isMember, namedToo, accepted⟩ := fits.known entry isEntry
  have sameKey : member.key = field.key :=
    String.toList_injective (namedToo.unique named)
  exact accepted (refused member isMember sameKey entry.value spelled)

/-- A closed record with sections is not read with one member too many in its own
object or in that of a section. -/
theorem refuses_crowdedWithin (isClosed : record.closed = true)
    (measures : ∀ member ∈ record.members, member.reader.Measures)
    {sections : List Section}
    (sameKeys : (fields ++ sections.map Section.field).map Field.key =
      record.members.map Member.key)
    (areValues : ∀ field ∈ fields, field.SpellsValues)
    (areSections : ∀ part ∈ sections, ∀ field ∈ part.fields,
      field.SpellsValues)
    (refused : ∀ part ∈ sections, ∀ member ∈ record.members,
      member.key = part.key → ∀ value, Crowded Added part.fields value →
        member.reader.Refuses value)
    (crowded : CrowdedWithin Added fields sections text) :
    record.codec.toReader.Refuses text := by
  have spelled : ∀ part ∈ sections, part.field.SpellsValues :=
    fun part isPart _ isObject => isObject.wellFormed (areSections part isPart)
  rcases crowded with crowded | ⟨before, part, after, rfl, isObject⟩
  · exact refuses_crowded isClosed measures sameKeys
      (forall_sections areValues spelled) crowded
  · have isPart : part ∈ before ++ part :: after :=
      List.mem_append_right _ List.mem_cons_self
    have isField : part.crowded Added ∈ fields ++ (before.map Section.field ++
        part.crowded Added :: after.map Section.field) :=
      List.mem_append_right _ (List.mem_append_right _ List.mem_cons_self)
    have crowdedValues : (part.crowded Added).SpellsValues :=
      fun _ crowded => crowded.wellFormed (areSections part isPart)
    exact refuses_field isClosed measures
      (forall_crowded areValues spelled crowdedValues) isObject isField id
      (refused part isPart)

end Record

end Parley.Schema
