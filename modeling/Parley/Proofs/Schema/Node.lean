import Parley.Proofs.Json.Float
import Parley.Proofs.Schema.Record
import Parley.Proofs.Yaml.FlowNodes
import Parley.Proofs.Yaml.Numbers
import Parley.Schema.Document

/-!
Contract: values are read from the nodes of what is written for them.

A reader of a YAML document finds in the node of a JSON value what the reader of JSON
finds in its text: quoted scalars are texts, plain ones are numbers or no value, and
mappings are records.

Owns: `Reader.ReadsNode`, and the values of portable documents.
-/

namespace Parley.Schema

open Parley.Json (Value)
open Parley.Yaml (Node Portable Renders RendersMembers)

variable {σ α β : Type}

/-- Whether a reader reads the node of a JSON value as a value, wherever it stands. -/
def Reader.ReadsNode (reader : Reader α) (json : Value) (value : α) : Prop :=
  ∀ (root : Node) (path : Yaml.Path) (node : Node), Renders json node →
    reader.node ⟨root, path, node⟩ = .ok value

/-- The value of a whole text is that of its node. -/
theorem Codec.parseYaml_portable (codec : Codec α) {json : Value}
    (portable : Portable json) :
    ∃ root, Renders json root ∧
      codec.parseYaml json.toText = codec.node ⟨root, [], root⟩ := by
  obtain ⟨root, isDocument, renders, whole⟩ :=
    Yaml.Document.parse_portable portable
  refine ⟨root, renders, ?_⟩
  rw [Codec.parseYaml, isDocument]
  dsimp only
  rw [whole]
  cases codec.node ⟨root, [], root⟩ <;> rfl

theorem Reader.ReadsNode.map {reader : Reader α} {json : Value} {value : α}
    (reads : reader.ReadsNode json value) (transform : α → β) :
    (reader.map transform).ReadsNode json (transform value) := by
  intro root path node renders
  show (reader.node ⟨root, path, node⟩).map transform = _
  rw [reads root path node renders]
  rfl

/-! ## Scalars -/

/-- What a scalar type reads from a scalar, wherever that stands. -/
theorem ScalarType.readNode_scalar_eq_ok_iff {type : ScalarType α} {root : Node}
    {path : Yaml.Path} {head : Yaml.Head} {style : Yaml.Style} {text : String}
    {value : α} :
    type.readNode ⟨root, path, .scalar head style text⟩ = .ok value ↔
      ∃ found, (head.scalar style text).readAs? type.kind = some found ∧
        type.accept found = .ok value := by
  unfold readNode
  dsimp only [Place.resolve]
  cases (head.scalar style text).readAs? type.kind with
  | none =>
      constructor
      · intro same
        cases same
      · rintro ⟨_, same, _⟩
        cases same
  | some found =>
      have only : (∃ other, some found = some other ∧
          type.accept other = .ok value) ↔ type.accept found = .ok value :=
        ⟨fun ⟨_, same, accepted⟩ => Option.some.inj same ▸ accepted,
          fun accepted => ⟨found, rfl, accepted⟩⟩
      rw [only]
      dsimp only
      -- The two sides fail with refusals of different types.
      cases type.accept found with
      | ok accepted => constructor <;> (intro same; cases same; rfl)
      | error refusal => constructor <;> (intro same; cases same)

theorem ScalarType.readsNode {type : ScalarType α} {number : Json.Number}
    {found : Found} {value : α}
    (isRead : (⟨none, .plain, String.ofList number.write⟩ : Yaml.Scalar).readAs?
      type.kind = some found)
    (accepted : type.accept found = .ok value) :
    type.reader.ReadsNode (.number number) value := by
  intro root path node renders
  cases renders with
  | @number _ head untagged =>
      refine readNode_scalar_eq_ok_iff.mpr ⟨found, ?_, accepted⟩
      rw [Yaml.Head.scalar, untagged]
      exact isRead

/-- A number that is read in one place is read in every other. -/
theorem ScalarType.readsNode_of_readNode {type : ScalarType α}
    {number : Json.Number} {root node : Node} {path : Yaml.Path} {value : α}
    (renders : Renders (.number number) node)
    (isRead : type.readNode ⟨root, path, node⟩ = .ok value) :
    type.reader.ReadsNode (.number number) value := by
  cases renders with
  | @number _ head untagged =>
      obtain ⟨found, isFound, accepted⟩ := readNode_scalar_eq_ok_iff.mp isRead
      rw [Yaml.Head.scalar, untagged] at isFound
      exact readsNode isFound accepted

theorem Codec.plainText_readsNode (text : String) :
    plainText.toReader.ReadsNode (.text text) text := by
  intro root path node renders
  cases renders
  rfl

theorem Codec.u32_readsNode (value : UInt32) :
    u32.toReader.ReadsNode (u32.write value) value :=
  ScalarType.readsNode
    (Yaml.readAs?_natural (Nat.lt_trans value.toNat_lt (by decide)))
    (u32_accepts value)

theorem Codec.u64_readsNode (value : UInt64) :
    u64.toReader.ReadsNode (u64.write value) value :=
  ScalarType.readsNode (Yaml.readAs?_natural value.toNat_lt) (u64_accepts value)

/-- A number is read wherever it stands, if it is read where it stands alone. -/
theorem Codec.single_readsNode {value : Numeric.Single}
    (finite : value.isFinite = true)
    (readsBack : single.parseYaml (single.toText value) = .ok value) :
    single.toReader.ReadsNode (single.write value) value := by
  obtain ⟨numeral, spelled, _⟩ := Json.single_numeral finite
  have portable : Portable (single.write value) := .number (spelled ▸ .number numeral)
  obtain ⟨root, renders, same⟩ := single.parseYaml_portable portable
  rw [toText, same] at readsBack
  exact ScalarType.readsNode_of_readNode renders readsBack

/-! ## Optional values -/

theorem Reader.optional_readsNode_null (reader : Reader α) :
    reader.optional.ReadsNode .null none := by
  intro root path node renders
  cases renders with
  | @null head untagged =>
      have empty : isNoneScalar (head.scalar .plain "null") = .ok true := by
        rw [Yaml.Head.scalar, untagged]
        rfl
      unfold Reader.optional
      dsimp only [Place.resolve]
      rw [empty]

/-- A number that is read is also read where it may be absent. -/
theorem Reader.ReadsNode.optional {reader : Reader α} {number : Json.Number}
    {value : α} (reads : reader.ReadsNode (.number number) value)
    {numeral : Json.Numeral} (spelled : number.write = numeral.spelled) :
    reader.optional.ReadsNode (.number number) (some value) := by
  intro root path node renders
  have isRead := reads root path node renders
  cases renders with
  | @number _ head untagged =>
      have held : isNoneScalar
          (head.scalar .plain (String.ofList number.write)) = .ok false := by
        rw [Yaml.Head.scalar, untagged, spelled]
        exact congrArg Except.ok (Yaml.isNullWord_numeral numeral)
      unfold Reader.optional
      dsimp only [Place.resolve]
      rw [held]
      dsimp only
      rw [isRead]
      rfl

/-! ## Records -/

namespace Record

variable (record : Record σ)

/-- The steps by which the members of an object are gathered from the node of the
object into a record. -/
inductive Gathers :
    Assembly σ → List (String × Value) → Assembly σ → Prop where
  | nil {assembly : Assembly σ} : Gathers assembly [] assembly
  | cons {assembly last : Assembly σ} {key : String} {json : Value}
      {entries : List (String × Value)} {member : Member σ} {update : σ → σ}
      (known : record.members.find? (·.key == key) = some member)
      (fresh : key ∉ assembly.seen)
      (reads : member.reader.ReadsNode json update)
      (others : Gathers (assembly.add key update) entries last) :
      Gathers assembly ((key, json) :: entries) last

variable {record} {assembly last : Assembly σ} {entries : List (String × Value)}

/-- A member that is always written is gathered if its codec reads it. -/
theorem Gathers.plain {key : String} {json : Value} {absence : Absence}
    {codec : Codec α} {get : σ → α} {set : α → σ → σ} {value : α}
    (known : record.members.find? (·.key == key) =
      some (.plain key absence codec get set))
    (fresh : assembly.seen.contains key = false)
    (reads : codec.toReader.ReadsNode json value)
    (others : record.Gathers (assembly.add key (set value)) entries last) :
    record.Gathers assembly ((key, json) :: entries) last :=
  have notSeen : key ∉ assembly.seen := fun seen =>
    Bool.false_ne_true (fresh.symm.trans (List.contains_iff_mem.mpr seen))
  .cons known notSeen (reads.map set) others

private theorem readEntry_member {key : String} {json : Value}
    {member : Member σ}
    {update : σ → σ}
    (known : record.members.find? (·.key == key) = some member)
    (fresh : key ∉ assembly.seen) (reads : member.reader.ReadsNode json update)
    {place : Place} {mark : Yaml.Mark} {head : Yaml.Head} {node : Node}
    (renders : Renders json node) :
    record.readEntry place mark assembly (.scalar head .quoted key, node) =
      .ok (assembly.add key update) := by
  rw [readEntry]
  dsimp only [nodeKey, Place.resolve]
  rw [demand_of_fresh known fresh]
  dsimp only
  rw [reads _ _ _ renders]
  rfl

/-- The walk through a mapping takes its entries as they are gathered. -/
theorem Gathers.walks (gathers : record.Gathers assembly entries last)
    (place : Place) (mark : Yaml.Mark) {nodes : List (Node × Node)}
    (renders : RendersMembers entries nodes) :
    nodes.foldlM (record.readEntry place mark) assembly = .ok last := by
  induction gathers generalizing nodes with
  | nil =>
      cases renders
      rfl
  | cons known fresh reads _ inductionHypothesis =>
      cases renders with
      | cons isValue areEntries =>
          rw [List.foldlM_cons, readEntry_member known fresh reads isValue]
          exact inductionHypothesis areEntries

/-- An object is read as the record that its members make up. -/
theorem readsNode_object {value : σ}
    (gathers : record.Gathers record.start entries last)
    (finished : record.finish last = .ok value) :
    record.codec.toReader.ReadsNode (.object entries) value := by
  intro root path node renders
  cases renders with
  | @object _ entries head areEntries =>
      show record.readEntries ⟨root, path, .mapping head entries⟩ head.mark
        entries = _
      rw [readEntries, gathers.walks _ _ areEntries]
      dsimp only [Except.bind]
      rw [finished]
      rfl

end Record

/-! ## What is written for records -/

theorem portable_integer (value : Int) :
    Portable (.number (.integer value)) :=
  .number (Json.write_integer value ▸ .number _)

theorem Member.plain_portable {key : String} {absence : Absence}
    {codec : Codec α} {get : σ → α} {set : α → σ → σ} {value : σ}
    (portable : Portable (codec.write (get value))) :
    ∀ json, (Member.plain key absence codec get set).write value = some json →
      Portable json := by
  intro json same
  cases same
  exact portable

/-- What is written for a record is portable, if all its keys and members are. -/
theorem Record.portable_written {record : Record σ} {value : σ}
    (areKeys : ∀ key ∈ record.members.map Member.key, Yaml.IsKey key)
    (areValues : ∀ member ∈ record.members, ∀ json,
      member.write value = some json → Portable json) :
    Portable (record.codec.write value) := by
  have written : ∀ entry ∈ record.writeMembers value,
      Yaml.IsKey entry.1 ∧ Portable entry.2 := by
    intro entry isEntry
    obtain ⟨member, isMember, same⟩ := List.mem_filterMap.mp isEntry
    obtain ⟨json, isWritten, rfl⟩ := Option.map_eq_some_iff.mp same
    exact ⟨areKeys _ (List.mem_map_of_mem isMember),
      areValues member isMember json isWritten⟩
  exact .object (fun entry isEntry => (written entry isEntry).1)
    fun entry isEntry => (written entry isEntry).2

end Parley.Schema
