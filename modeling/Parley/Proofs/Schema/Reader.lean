import Parley.Proofs.Json.Value
import Parley.Schema.Record

/-!
Contract: what codecs write is read back.

A codec gives a value back from its own text if the readers of its parts do. The
number of containers that have to be opened for that is known for every codec.

Owns: `Reader.Reads`, `Codec.RoundTrips`, and the round trips of scalars,
optional values, lists and enumerations.
-/

namespace Parley.Schema

open Parley.Json (ReadsAs Separated Value readScalar?)

variable {α β : Type}

/-! ## Round trips -/

/-- Whether a reader reads what is written for a JSON value as a value, if at
least `depth` containers may be opened. -/
def Reader.Reads (reader : Reader α) (depth : Nat) (json : Value) (value : α) :
    Prop :=
  ∀ allowance, depth ≤ allowance → ReadsAs (reader.text allowance) json value

/-- Whether a codec gives a value back from what it writes for it. -/
def Codec.RoundTrips (codec : Codec α) (depth : Nat) (value : α) : Prop :=
  codec.toReader.Reads depth (codec.write value) value

theorem Reader.Reads.mono {reader : Reader α} {depth deeper : Nat}
    {json : Value} {value : α} (reads : reader.Reads depth json value)
    (atMost : depth ≤ deeper) : reader.Reads deeper json value :=
  fun allowance enough => reads allowance (Nat.le_trans atMost enough)

/-- A whole text is read, if no more containers have to be opened than may be. -/
theorem Codec.parse_toText {codec : Codec α} {depth : Nat} {json : Value}
    {value : α} (reads : codec.toReader.Reads depth json value)
    (shallow : depth ≤ Json.depthLimit) :
    codec.parse json.toText = .ok value := by
  have isRead := reads Json.depthLimit shallow [] trivial
  rw [List.append_nil] at isRead
  rw [Codec.parse, Json.Value.toText, String.toList_ofList, isRead]
  rfl

theorem Reader.Reads.map {reader : Reader α} {depth : Nat} {json : Value}
    {value : α} (reads : reader.Reads depth json value) (transform : α → β) :
    (reader.map transform).Reads depth json (transform value) := by
  intro allowance enough rest separated
  show (reader.text allowance (json.write ++ rest)).map _ = _
  rw [reads allowance enough rest separated]
  rfl

/-! ## Scalars -/

/-- A scalar type takes what is read where its values stand. -/
theorem ScalarType.reads {type : ScalarType α} {json held : Value} {value : α}
    (isRead : ∀ rest, Separated rest →
      readScalar? (json.write ++ rest) = some (.ok (held, rest)))
    (accepted : type.accept held.found = .ok value) :
    type.reader.Reads 0 json value := by
  intro allowance _ rest separated
  have isRead := isRead rest separated
  obtain ⟨first, more, written, starts⟩ := json.write_starts
  rw [written, List.cons_append] at isRead ⊢
  show type.readText (first :: (more ++ rest)) = _
  unfold ScalarType.readText
  rw [Json.skipBlank_value starts]
  dsimp only
  unfold ScalarType.readStart
  rw [isRead]
  dsimp only
  rw [accepted]

theorem ScalarType.read_of_readText {type : ScalarType α} {value : α}
    {text rest : List Char} (isRead : type.readText text = .ok (value, rest)) :
    ∃ held, readScalar? (Json.skipBlank text) = some (.ok (held, rest)) ∧
      type.accept held.found = .ok value := by
  unfold ScalarType.readText at isRead
  split at isRead
  · cases isRead
  rename_i char more isStart
  rw [isStart]
  unfold ScalarType.readStart at isRead
  split at isRead
  · cases isRead
  · rename_i held last isScalar
    split at isRead
    · rename_i accepted isAccepted
      cases isRead
      exact ⟨held, isScalar, isAccepted⟩
    · cases isRead
  · split at isRead <;> cases isRead

namespace Codec

theorem plainText_roundTrips (text : String) :
    plainText.RoundTrips 0 text :=
  ScalarType.reads (fun rest _ => Json.readScalar?_text text rest) rfl

theorem boolean_roundTrips (value : Bool) : boolean.RoundTrips 0 value := by
  have isRead : ∀ rest, Separated rest →
      readScalar? ((Value.boolean value).write ++ rest) =
        some (.ok (.boolean value, rest)) := by
    intro rest _
    cases value <;> rfl
  exact ScalarType.reads isRead rfl

/-- A natural number of limited width is read as it was written. -/
theorem naturalType_accepts (expected : String) {limit : Nat}
    (value : Fin limit) :
    (naturalType expected limit).accept
      (Value.number (.integer value.val)).found = .ok value := by
  have inRange : 0 ≤ (value.val : Int) ∧ (value.val : Int) < limit := by
    omega
  show (if fits : 0 ≤ (value.val : Int) ∧ (value.val : Int) < limit then _
    else _) = _
  rw [dif_pos inRange]
  rfl

theorem fits64_of_lt {value : Nat} (small : value < UInt64.size) :
    Json.Fits64 value := by
  have size : UInt64.size = 0x10000000000000000 := rfl
  rw [Json.fits64_iff]
  omega

theorem u32_accepts (value : UInt32) :
    u32Type.accept (Value.number (.integer value.toNat)).found = .ok value := by
  unfold u32Type
  dsimp only
  rw [show (value.toNat : Int) = (value.toFin.val : Int) from rfl,
    naturalType_accepts]
  rfl

theorem u64_accepts (value : UInt64) :
    u64Type.accept (Value.number (.integer value.toNat)).found = .ok value := by
  unfold u64Type
  dsimp only
  rw [show (value.toNat : Int) = (value.toFin.val : Int) from rfl,
    naturalType_accepts]
  rfl

theorem fitsSigned_toInt (value : Int64) :
    Numeric.fitsSigned 64 value.toInt = true := by
  have power : (Nat.pow 2 (64 - 1) : Nat) = 0x8000000000000000 := rfl
  have atLeast := value.le_toInt
  have below := value.toInt_lt
  rw [Numeric.fitsSigned, Bool.and_eq_true, decide_eq_true_iff,
    decide_eq_true_iff, power]
  omega

theorem i64_accepts (value : Int64) :
    i64Type.accept (Value.number (.integer value.toInt)).found = .ok value := by
  show (if Numeric.fitsSigned 64 value.toInt then _ else _) = _
  rw [if_pos (fitsSigned_toInt value), Int64.ofInt_toInt]

theorem u32_roundTrips (value : UInt32) : u32.RoundTrips 0 value := by
  have small : value.toNat < UInt64.size :=
    Nat.lt_trans value.toNat_lt (by decide)
  exact ScalarType.reads (fun _ separated =>
    Json.readScalar?_integer (fits64_of_lt small) separated) (u32_accepts value)

theorem u64_roundTrips (value : UInt64) : u64.RoundTrips 0 value :=
  ScalarType.reads (fun _ separated =>
    Json.readScalar?_integer (fits64_of_lt value.toNat_lt) separated)
    (u64_accepts value)

theorem i64_roundTrips (value : Int64) : i64.RoundTrips 0 value :=
  ScalarType.reads (fun _ separated =>
    Json.readScalar?_integer (.inl (fitsSigned_toInt value)) separated)
    (i64_accepts value)

end Codec

/-! ## Optional values -/

/-- Whether a value is not written like the empty value. -/
def Written (json : Value) : Prop :=
  ∀ rest, json.write ≠ 'n' :: rest

theorem written_text (text : String) : Written (.text text) := by
  intro rest same
  cases same

theorem written_object (members : List (String × Value)) :
    Written (.object members) := by
  intro rest same
  cases members <;> cases same

/-- What is not written like the empty value is read as a value. -/
theorem Reader.Reads.optional {reader : Reader α} {depth : Nat} {json : Value}
    {value : α} (reads : reader.Reads depth json value)
    (written : Written json) :
    reader.optional.Reads depth json (some value) := by
  intro allowance enough rest separated
  have isRead := reads allowance enough rest separated
  obtain ⟨first, more, opened, starts⟩ := json.write_starts
  have notEmpty : first ≠ 'n' := by
    rintro rfl
    exact written more opened
  rw [opened, List.cons_append] at isRead ⊢
  show reader.optional.text allowance (first :: (more ++ rest)) = _
  unfold Reader.optional
  dsimp only
  rw [Json.skipBlank_value starts]
  split
  · rename_i same
    exact absurd (List.cons.inj same).1 notEmpty
  · rw [isRead]
    rfl

/-- What is written like the empty value is read as no value. -/
theorem Reader.optional_reads_none (reader : Reader α) {json : Value}
    (empty : json.write = ['n', 'u', 'l', 'l']) :
    reader.optional.Reads 0 json none := by
  intro allowance _ rest _
  rw [empty]
  rfl

/-! ## Lists -/

/-- A list is read back if each of its values is. -/
theorem Codec.list_roundTrips {codec : Codec α} {depth : Nat} {values : List α}
    (roundTrips : ∀ value ∈ values, codec.RoundTrips depth value) :
    codec.list.RoundTrips (depth + 1) values := by
  intro allowance enough rest separated
  obtain ⟨inner, rfl⟩ := Nat.exists_eq_add_one.mpr
    (Nat.lt_of_lt_of_le (Nat.succ_pos depth) enough)
  have reads : ∀ value ∈ values,
      ReadsAs (codec.text inner) (codec.write value) value :=
    fun value member => roundTrips value member inner
      (Nat.le_of_succ_le_succ enough)
  have enoughItems : values.length <
      ((Value.sequence (values.map codec.write)).write ++ rest).length := by
    have length := Json.length_write_sequence (values.map codec.write)
    rw [List.length_map] at length
    rw [List.length_append]
    omega
  obtain ⟨inside, opened, isRead⟩ :=
    Json.readItems_written reads enoughItems rest
  show codec.toReader.list.text (inner + 1)
    ((Value.sequence (values.map codec.write)).write ++ rest) = _
  rw [opened] at isRead ⊢
  exact isRead

/-! ## Enumerations -/

/-- A variant is read back if its name stands for it. -/
theorem Codec.enumeration_roundTrips {variants : List (String × α)}
    {name : α → String} {value : α}
    (named : variants.lookup (name value) = some value) :
    (Codec.enumeration variants name).RoundTrips 0 value := by
  have accepted : (Reader.variantType variants).accept
      (Value.text (name value)).found = .ok value := by
    show Reader.variant variants (name value) = _
    rw [Reader.variant, named]
  have isRead : ∀ rest, Separated rest →
      readScalar? ((Value.text (name value)).write ++ rest) =
        some (.ok (.text (name value), rest)) :=
    fun rest _ => Json.readScalar?_text (name value) rest
  have reads := ScalarType.reads isRead accepted
  intro allowance enough rest separated
  exact reads allowance enough rest separated

end Parley.Schema
