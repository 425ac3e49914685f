import Parley.Proofs.Schema.Record
import Parley.Proofs.Schema.Spelling

/-!
Contract: a record is read from every object that spells its fields.

The members of the object may stand in any order. A field may be left out where
the record says so, and the object may have other members where the record is
open. Each member that is read sets what no other member sets, so the order does
not matter, and a field that may be left out sets what the blank record has.

Owns: `Field`, `Arranged`, `ObjectText`, `Pending`, and the reading of such
objects.
-/

namespace Parley.Schema

open Parley.Json (Blanks Denotes Enclosed Entry Separated Walks WellFormed)

variable {σ : Type}

/-! ## Spellings of objects -/

/-- A field of an object: its key, whether it may be left out, and the texts that
spell its value. -/
structure Field where
  key : String
  mayBeAbsent : Prop
  Spells : List Char → Prop

/-- The ways to put members into an object for fields, in any order: each member
is one of the fields that are left, or another member. Only fields that may be
absent are left at the end. -/
inductive Arranged (Other : Entry → Prop) : List Field → List Entry → Prop where
  | nil {fields : List Field}
      (mayBeAbsent : ∀ field ∈ fields, field.mayBeAbsent) :
      Arranged Other fields []
  | field (before after : List Field) {field : Field} {entry : Entry}
      {entries : List Entry} (named : Denotes entry.key field.key.toList)
      (spelled : field.Spells entry.value)
      (others : Arranged Other (before ++ after) entries) :
      Arranged Other (before ++ field :: after) (entry :: entries)
  | other {fields : List Field} {entry : Entry} {entries : List Entry}
      (isOther : Other entry) (others : Arranged Other fields entries) :
      Arranged Other fields (entry :: entries)

/-- Whether a JSON text is an object whose members are some entries. -/
def IsObject (entries : List Entry) (text : List Char) : Prop :=
  Enclosed '\x7b' '\x7d' Entry.LaidOut entries text

/-- Whether a JSON text is an object that spells fields. -/
def ObjectText (Other : Entry → Prop) (fields : List Field)
    (text : List Char) : Prop :=
  ∃ entries, Arranged Other fields entries ∧ IsObject entries text

/-- A member that an object with the given keys does not know: its value is any
well-formed one. -/
def Unknown (known : List String) (entry : Entry) : Prop :=
  WellFormed entry.value ∧
    ∃ key : String, Denotes entry.key key.toList ∧ key ∉ known

/-- No member but the fields. -/
def NoOther (_ : Entry) : Prop := False

/-- The object that is written for fields, in their order, spells them. -/
theorem objectText_written {Other : Entry → Prop} {fields : List Field}
    {members : List (String × Json.Value)}
    (areSpelled : List.Forall₂ (fun field member =>
      field.key = member.1 ∧ field.Spells member.2.write) fields members) :
    ObjectText Other fields (Json.Value.object members).write := by
  refine ⟨members.map Entry.written, ?_, Json.enclosed_written members⟩
  induction areSpelled with
  | nil => exact .nil (List.forall_mem_nil _)
  | @cons field member fields members isSpelled _ inductionHypothesis =>
      obtain ⟨sameKey, spelled⟩ := isSpelled
      refine .field [] fields ?_ spelled inductionHypothesis
      rw [sameKey]
      exact Json.denotes_written member.1.toList

/-- A member sets what its codec reads. -/
theorem Member.plain_parses {α : Type} {key : String} {absence : Absence}
    {codec : Codec α} {get : σ → α} {set : α → σ → σ} {depth : Nat}
    {text : List Char} {value : α}
    (parses : codec.toReader.Parses depth text value) :
    (Member.plain key absence codec get set).reader.Parses depth text
      (set value) :=
  parses.map set

private theorem Member.sparse_parses {α : Type} {key : String}
    {absence : Absence}
    {codec : Codec α} {get : σ → Option α} {set : Option α → σ → σ}
    {depth : Nat} {text : List Char} {value : Option α}
    (parses : codec.optional.toReader.Parses depth text value) :
    (Member.sparse key absence codec get set).reader.Parses depth text
      (set value) :=
  parses.map set

/-! ## Fields that are left -/

/-- A field together with what reading it does to a record. -/
structure Setter (σ : Type) extends Field where
  update : σ → σ

namespace Record

variable (record : Record σ)

/-- What is known of the fields that are left in the middle of reading an object:
they are not met yet, their members read what spells them, in any order they make
the value, and one that may be absent changes nothing. -/
structure Pending (depth : Nat) (value : σ) (setters : List (Setter σ))
    (assembly : Assembly σ) : Prop where
  distinct : (setters.map (·.key)).Nodup
  fresh : ∀ setter ∈ setters, setter.key ∉ assembly.seen
  read : ∀ setter ∈ setters, ∃ member,
    record.members.find? (·.key == setter.key) = some member ∧
      ∀ text, setter.Spells text → member.reader.Parses depth text setter.update
  commute : ∀ first ∈ setters, ∀ second ∈ setters, ∀ current,
    first.update (second.update current) = second.update (first.update current)
  idle : ∀ setter ∈ setters, setter.mayBeAbsent →
    setter.update assembly.value = assembly.value
  whole : setters.foldl (fun current setter => setter.update current)
    assembly.value = value

variable {record}

/-- Updates that commute with another one may be made before or after it. -/
theorem foldl_update {setters : List (Setter σ)} {setter : Setter σ}
    (commute : ∀ other ∈ setters, ∀ current,
      other.update (setter.update current) = setter.update (other.update current))
    (current : σ) :
    setters.foldl (fun current other => other.update current)
        (setter.update current) =
      setter.update (setters.foldl (fun current other => other.update current)
        current) := by
  induction setters generalizing current with
  | nil => rfl
  | cons first setters inductionHypothesis =>
      rw [List.foldl_cons, List.foldl_cons, commute first List.mem_cons_self]
      exact inductionHypothesis
        (fun other member => commute other (List.mem_cons_of_mem _ member)) _

/-- One field less is left after it was read, whichever it is. -/
theorem Pending.add {depth : Nat} {value : σ} {before after : List (Setter σ)}
    {setter : Setter σ} {assembly : Assembly σ}
    (pending : record.Pending depth value (before ++ setter :: after) assembly) :
    record.Pending depth value (before ++ after)
      (assembly.add setter.key setter.update) := by
  have isSetter : setter ∈ before ++ setter :: after :=
    List.mem_append_right _ List.mem_cons_self
  have isLeft {other : Setter σ} (member : other ∈ before ++ after) :
      other ∈ before ++ setter :: after := by
    rcases List.mem_append.mp member with isBefore | isAfter
    · exact List.mem_append_left _ isBefore
    · exact List.mem_append_right _ (List.mem_cons_of_mem _ isAfter)
  have distinct := pending.distinct
  rw [List.map_append, List.map_cons, List.perm_middle.nodup_iff,
    ← List.map_append, List.nodup_cons] at distinct
  refine ⟨distinct.2, fun other member seen => ?_,
    fun other member => pending.read other (isLeft member),
    fun first isFirst second isSecond =>
      pending.commute first (isLeft isFirst) second (isLeft isSecond),
    fun other member mayBeAbsent => ?_, ?_⟩
  · rcases List.mem_cons.mp seen with same | earlier
    · exact distinct.1 (same ▸ List.mem_map_of_mem member)
    · exact pending.fresh other (isLeft member) earlier
  · show other.update (setter.update assembly.value) = setter.update assembly.value
    rw [pending.commute other (isLeft member) setter isSetter,
      pending.idle other (isLeft member) mayBeAbsent]
  · -- What was read now could have been read in its turn.
    rw [← pending.whole, List.foldl_append, List.foldl_append, List.foldl_cons]
    show after.foldl _ (before.foldl _ (setter.update assembly.value)) = _
    rw [foldl_update fun other member => pending.commute other
      (List.mem_append_left _ member) setter isSetter]

/-- What is left at the end changes nothing. -/
theorem Pending.done {depth : Nat} {value : σ} {setters : List (Setter σ)}
    {assembly : Assembly σ}
    (pending : record.Pending depth value setters assembly)
    (mayBeAbsent : ∀ setter ∈ setters, setter.mayBeAbsent) :
    assembly.value = value := by
  have unchanged {left : List (Setter σ)}
      (idle : ∀ setter ∈ left, setter.update assembly.value = assembly.value) :
      left.foldl (fun current setter => setter.update current) assembly.value =
        assembly.value := by
    induction left with
    | nil => rfl
    | cons setter left inductionHypothesis =>
        rw [List.foldl_cons, idle setter List.mem_cons_self]
        exact inductionHypothesis fun other member =>
          idle other (List.mem_cons_of_mem _ member)
  rw [← pending.whole, unchanged fun setter member =>
    pending.idle setter member (mayBeAbsent setter member)]

/-! ## Members -/

/-- A member of the record is read from behind its key. -/
theorem readMember_field {depth allowance : Nat} (enough : depth ≤ allowance)
    {assembly : Assembly σ} {key : String} {member : Member σ} {update : σ → σ}
    (known : record.members.find? (·.key == key) = some member)
    (fresh : key ∉ assembly.seen) {text : List Char}
    (parses : member.reader.Parses depth text update)
    {behindKey behindColon rest : List Char} (areBehindKey : Blanks behindKey)
    (areBehindColon : Blanks behindColon) (separated : Separated rest) :
    record.readMember allowance assembly key
        (behindKey ++ ':' :: (behindColon ++ (text ++ rest))) =
      .ok (.ok (assembly.add key update), rest) := by
  rw [readMember, demand_of_fresh known fresh]
  dsimp only
  rw [Json.readColon_blanks areBehindKey]
  dsimp only
  rw [parses allowance enough _ _ areBehindColon separated]
  rfl

/-- A member that an open record does not know is passed over. -/
theorem readMember_other (allowance : Nat) (assembly : Assembly σ) {key : String}
    (isOpen : record.closed = false)
    (unknown : record.members.find? (·.key == key) = none) {text : List Char}
    (wellFormed : WellFormed text) {behindKey behindColon rest : List Char}
    (areBehindKey : Blanks behindKey) (areBehindColon : Blanks behindColon)
    (separated : Separated rest) :
    record.readMember allowance assembly key
        (behindKey ++ ':' :: (behindColon ++ (text ++ rest))) =
      .ok (.ok assembly, rest) := by
  rw [readMember, demand, unknown, isOpen]
  dsimp only
  rw [if_neg Bool.false_ne_true]
  show ((Json.readColon _ >>= Json.skipValue).map _ : Json.Reading _) = _
  rw [Json.readColon_blanks areBehindKey]
  show ((Json.skipValue _).map _ : Json.Reading _) = _
  rw [wellFormed.skipValue areBehindColon separated]
  rfl

/-! ## Objects -/

/-- Whether a record passes over members. -/
def Ignores (record : Record σ) (Other : Entry → Prop) : Prop :=
  ∀ entry, Other entry → record.closed = false ∧
    Unknown (record.members.map Member.key) entry

theorem ignores_noOther (record : Record σ) : record.Ignores NoOther :=
  fun _ isOther => isOther.elim

private theorem find?_of_unknown {key : String}
    (unknown : key ∉ record.members.map Member.key) :
    record.members.find? (·.key == key) = none := by
  rw [List.find?_eq_none]
  intro member isMember same
  exact unknown (List.mem_map.mpr ⟨member, isMember, beq_iff_eq.mp same⟩)

/-- An open record passes over what it does not know. -/
theorem ignores_unknown (isOpen : record.closed = false) :
    record.Ignores (Unknown (record.members.map Member.key)) :=
  fun _ unknown => ⟨isOpen, unknown⟩

/-- An object that spells the fields that are left is walked through to the value,
and every field that may not be absent is met. -/
theorem Pending.walks {Other : Entry → Prop} (ignores : record.Ignores Other)
    {depth allowance : Nat} (enough : depth ≤ allowance) {value : σ}
    {setters : List (Setter σ)} {assembly : Assembly σ}
    (pending : record.Pending depth value setters assembly)
    {entries : List Entry}
    (arranged : Arranged Other (setters.map Setter.toField) entries) :
    ∃ last : Assembly σ,
      Walks (record.readMember allowance) assembly entries last ∧
        last.value = value ∧ (∀ key ∈ assembly.seen, key ∈ last.seen) ∧
        ∀ setter ∈ setters, ¬ setter.mayBeAbsent → setter.key ∈ last.seen := by
  generalize areFields : setters.map Setter.toField = fields at arranged
  induction arranged generalizing setters assembly with
  | nil mayBeAbsent =>
      subst areFields
      have left : ∀ setter ∈ setters, setter.mayBeAbsent := fun setter member =>
        mayBeAbsent setter.toField (List.mem_map_of_mem member)
      exact ⟨assembly, .nil, pending.done left, fun _ seen => seen,
        fun setter member required => absurd (left setter member) required⟩
  | @field before after field entry entries named spelled _
      inductionHypothesis =>
      obtain ⟨front, back, rfl, areBefore, areBack⟩ :=
        List.map_eq_append_iff.mp areFields
      obtain ⟨setter, behind, rfl, rfl, areAfter⟩ := List.map_eq_cons_iff.mp areBack
      have isSetter : setter ∈ front ++ setter :: behind :=
        List.mem_append_right _ List.mem_cons_self
      obtain ⟨member, known, reads⟩ := pending.read setter isSetter
      obtain ⟨last, walks, isValue, kept, met⟩ := inductionHypothesis pending.add
        (by rw [List.map_append, areBefore, areAfter])
      refine ⟨last, .cons named (fun behindKey behindColon rest areBehindKey
          areBehindColon separated =>
            readMember_field enough known (pending.fresh setter isSetter)
              (reads _ spelled) areBehindKey areBehindColon separated) walks,
        isValue, fun key seen => kept key (List.mem_cons_of_mem _ seen), ?_⟩
      intro other isOther required
      rcases List.mem_append.mp isOther with isBefore | isBehind
      · exact met other (List.mem_append_left _ isBefore) required
      rcases List.mem_cons.mp isBehind with rfl | isAfter
      · exact kept other.key List.mem_cons_self
      · exact met other (List.mem_append_right _ isAfter) required
  | @other fields entry entries isOther _ inductionHypothesis =>
      obtain ⟨isOpen, wellFormed, key, named, unknown⟩ := ignores entry isOther
      obtain ⟨last, walks, isValue, kept, met⟩ :=
        inductionHypothesis pending areFields
      exact ⟨last, .cons named (fun behindKey behindColon rest areBehindKey
          areBehindColon separated =>
            readMember_other allowance assembly isOpen (find?_of_unknown unknown)
              wellFormed areBehindKey areBehindColon separated) walks,
        isValue, kept, met⟩

/-- The fields of a record value, before any of them is read. -/
structure Restores (record : Record σ) (depth : Nat) (value : σ)
    (setters : List (Setter σ)) : Prop where
  pending : record.Pending depth value setters record.start
  required : ∀ member ∈ record.members, member.absence = .required →
    ∃ setter ∈ setters, setter.key = member.key ∧ ¬ setter.mayBeAbsent

/-- Whether a setter does what a member of a record asks for: it does what is read
for the member, it changes nothing in the blank record if its field may be absent,
and its field may not be absent if the member is required. -/
structure Serves (blank : σ) (depth : Nat) (member : Member σ)
    (setter : Setter σ) : Prop where
  sameKey : setter.key = member.key
  reads : ∀ text, setter.Spells text →
    member.reader.Parses depth text setter.update
  idle : setter.mayBeAbsent → setter.update blank = blank
  required : member.absence = .required → ¬ setter.mayBeAbsent

section Members

variable {α : Type} {blank : σ} {depth : Nat} {key : String}
  {absence : Absence} {codec : Codec α} {mayBeAbsent : Prop}
  {Spells : List Char → Prop}

theorem Serves.plain {get : σ → α} {set : α → σ → σ} {value : α}
    (parses : ∀ text, Spells text → codec.toReader.Parses depth text value)
    (asBlank : mayBeAbsent → value = get blank)
    (kept : set (get blank) blank = blank)
    (required : absence = .required → ¬ mayBeAbsent) :
    Serves blank depth (.plain key absence codec get set)
      ⟨⟨key, mayBeAbsent, Spells⟩, set value⟩ where
  sameKey := rfl
  reads text spells := Member.plain_parses (parses text spells)
  idle isAbsent := by
    show set value blank = blank
    rw [asBlank isAbsent, kept]
  required := required

theorem Serves.sparse {get : σ → Option α} {set : Option α → σ → σ}
    {value : Option α}
    (parses : ∀ text, Spells text →
      codec.optional.toReader.Parses depth text value)
    (asBlank : mayBeAbsent → value = get blank)
    (kept : set (get blank) blank = blank)
    (required : absence = .required → ¬ mayBeAbsent) :
    Serves blank depth (.sparse key absence codec get set)
      ⟨⟨key, mayBeAbsent, Spells⟩, set value⟩ where
  sameKey := rfl
  reads text spells := Member.sparse_parses (parses text spells)
  idle isAbsent := by
    show set value blank = blank
    rw [asBlank isAbsent, kept]
  required := required

end Members

private theorem exists_of_forall₂ {α β : Type} {related : α → β → Prop}
    {firsts : List α} {seconds : List β}
    (pairwise : List.Forall₂ related firsts seconds) :
    ∀ first ∈ firsts, ∃ second ∈ seconds, related first second := by
  induction pairwise with
  | nil => exact List.forall_mem_nil _
  | cons isRelated _ inductionHypothesis =>
      refine List.forall_mem_cons.mpr
        ⟨⟨_, List.mem_cons_self, isRelated⟩, fun first member => ?_⟩
      obtain ⟨second, isSecond, others⟩ := inductionHypothesis first member
      exact ⟨second, List.mem_cons_of_mem _ isSecond, others⟩

private theorem keys_of_serves {blank : σ} {depth : Nat}
    {setters : List (Setter σ)} {members : List (Member σ)}
    (serve : List.Forall₂ (Serves blank depth) members setters) :
    setters.map (·.key) = members.map Member.key := by
  induction serve with
  | nil => rfl
  | cons first _ inductionHypothesis =>
      rw [List.map_cons, List.map_cons, first.sameKey, inductionHypothesis]

/-- A record is restored by setters that serve its members one by one, commute
with each other, and make the value together. -/
theorem Restores.of_members {depth : Nat} {value : σ}
    {setters : List (Setter σ)}
    (distinct : (record.members.map Member.key).Nodup)
    (serve : List.Forall₂ (Serves record.blank depth) record.members setters)
    (commute : ∀ first ∈ setters, ∀ second ∈ setters, ∀ current,
      first.update (second.update current) =
        second.update (first.update current))
    (whole : setters.foldl (fun current setter => setter.update current)
      record.blank = value) :
    record.Restores depth value setters := by
  constructor
  · constructor
    · rw [keys_of_serves serve]
      exact distinct
    · exact fun _ _ => List.not_mem_nil
    · intro setter isSetter
      obtain ⟨member, isMember, serves⟩ :=
        exists_of_forall₂ serve.flip setter isSetter
      refine ⟨member, ?_, serves.reads⟩
      rw [serves.sameKey]
      exact find?_key (List.pairwise_map.mp distinct) isMember
    · exact commute
    · intro setter isSetter
      obtain ⟨member, _, serves⟩ := exists_of_forall₂ serve.flip setter isSetter
      exact serves.idle
    · exact whole
  · intro member isMember isRequired
    obtain ⟨setter, isSetter, serves⟩ :=
      exists_of_forall₂ serve member isMember
    exact ⟨setter, isSetter, serves.sameKey, serves.required isRequired⟩

/-- An object that spells the fields of a record is read as the record. -/
theorem Restores.parses {depth : Nat} {value : σ} {setters : List (Setter σ)}
    (restores : record.Restores depth value setters) {Other : Entry → Prop}
    (ignores : record.Ignores Other) {text : List Char}
    (isObject : ObjectText Other (setters.map Setter.toField) text) :
    record.codec.toReader.Parses (depth + 1) text value := by
  intro allowance enough before rest areBlanks separated
  obtain ⟨inner, rfl⟩ := Nat.exists_eq_add_one.mpr
    (Nat.lt_of_lt_of_le (Nat.succ_pos depth) enough)
  obtain ⟨entries, arranged, enclosed⟩ := isObject
  obtain ⟨last, walks, isValue, _, met⟩ := restores.pending.walks ignores
    (Nat.le_of_succ_le_succ enough) arranged
  have finished : record.finish last = .ok value := by
    have noneMissing : record.members.find? (fun member =>
        member.absence == .required && !last.seen.contains member.key) =
        none := by
      rw [List.find?_eq_none]
      intro member isMember missing
      rw [Bool.and_eq_true, beq_iff_eq, Bool.not_eq_true'] at missing
      obtain ⟨setter, isSetter, sameKey, required⟩ :=
        restores.required member isMember missing.1
      have seen := met setter isSetter required
      rw [sameKey, ← List.contains_iff_mem, missing.2] at seen
      cases seen
    rw [finish, noneMissing, isValue]
  obtain ⟨inside, opened, walked⟩ :=
    Json.foldMembers_enclosed enclosed walks rest
  rw [opened]
  show record.readText (inner + 1) (before ++ '\x7b' :: inside) = _
  unfold readText
  rw [Json.skipBlank_blanks areBlanks (by decide) inside]
  show record.readObject inner inside = _
  rw [readObject, walked]
  show settle Json.closeObject (.ok (record.finish last, '\x7d' :: rest)) = _
  rw [finished]
  rfl

end Record

end Parley.Schema
