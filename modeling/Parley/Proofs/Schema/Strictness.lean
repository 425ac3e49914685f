import Parley.Proofs.Json.Measured
import Parley.Proofs.Schema.Arrangement

/-!
Contract: a closed record is read from objects with its own members only, each
once at most, and each with a value that its reader takes.

A reader that takes a value takes all of it, whatever the value is. So a walk that
is not refused met every member of the object, in whatever order they stand.

Owns: `Reader.Measures`, `Reader.Refuses`, `Record.Fits`, and that closed records
refuse objects whose members do not fit.
-/

namespace Parley.Schema

open Parley.Json (Blanks Denotes Entry Frame IsBody MeasuresMember Separated
  Walked WellFormed readScalar? skipBlank skipInside skipOpened skipOut)

variable {α β σ : Type}

/-! ## Readers that take whole values -/

/-- Whether a reader takes of a text what is passed over as a value. -/
def Reader.Measures (reader : Reader α) : Prop :=
  ∀ allowance, Json.Measures (reader.text allowance)

theorem ScalarType.measures (type : ScalarType α) : type.reader.Measures := by
  intro allowance text value rest isRead frames
  obtain ⟨_, isScalar, _⟩ := ScalarType.read_of_readText isRead
  exact Json.skipInside_of_readScalar isScalar frames

namespace Reader.Measures

variable {reader : Reader α}

theorem map (measures : reader.Measures) (transform : α → β) :
    (reader.map transform).Measures := by
  intro allowance text value rest isRead frames
  obtain ⟨⟨held, _⟩, isHeld, same⟩ := Outcome.map_eq_ok_iff.mp isRead
  cases same
  exact measures allowance isHeld frames

theorem optional (measures : reader.Measures) : reader.optional.Measures := by
  intro allowance text value rest isRead frames
  unfold Reader.optional at isRead
  dsimp only at isRead
  split at isRead
  · rename_i more isEmpty
    obtain ⟨after, isWord, same⟩ := Outcome.map_eq_ok_iff.mp isRead
    cases same
    have isNull : readScalar? (skipBlank text) = some (.ok (.null, rest)) := by
      rw [isEmpty]
      show some ((Json.readWord ['u', 'l', 'l'] more).map _) = _
      rw [isWord]
      rfl
    exact Json.skipInside_of_readScalar isNull frames
  · obtain ⟨⟨held, _⟩, isHeld, same⟩ := Outcome.map_eq_ok_iff.mp isRead
    cases same
    rw [← Json.skipInside_skipBlank]
    exact measures allowance isHeld frames

end Reader.Measures

theorem Member.plain_measures {key : String} {absence : Absence}
    {codec : Codec α} {get : σ → α} {set : α → σ → σ}
    (measures : codec.toReader.Measures) :
    (Member.plain key absence codec get set).reader.Measures :=
  measures.map set

namespace Record

variable {record : Record σ}

theorem readMember_measures (isClosed : record.closed = true)
    (measures : ∀ member ∈ record.members, member.reader.Measures)
    (allowance : Nat) : MeasuresMember (record.readMember allowance) := by
  intro assembly key text next rest isRead
  obtain ⟨member, start, update, _, isMember, _, isColon, isUpdate, _⟩ :=
    member_of_readMember isClosed isRead
  exact ⟨start, isColon, measures member isMember allowance isUpdate⟩

/-- What is left of a list is taken as it is passed over. -/
theorem readTuple_measured {members : List (Member σ)}
    (measures : ∀ member ∈ members, member.reader.Measures)
    {allowance index : Nat} {first : Bool} {value final : σ}
    {text rest last : List Char}
    (walked : record.readTuple allowance members index first value text =
      .ok (.ok final, rest))
    (closes : Json.closeList rest = .ok last) (frames : List Frame) :
    (if first then skipOpened .list frames text
      else skipOut (.list :: frames) text) = skipOut frames last := by
  induction members generalizing index first value text with
  | nil =>
      cases walked
      exact Json.skip_listEnd (Json.closeList_eq_ok closes) first frames
  | cons member members inductionHypothesis =>
      have measuresLater := fun other isMember =>
        measures other (List.mem_cons_of_mem member isMember)
      obtain ⟨behind, isEnd, walks⟩ |
        ⟨start, update, behind, isItem, isUpdate, walks⟩ :=
        readTuple_step walked
      · have passed := inductionHypothesis measuresLater walks
        obtain ⟨after, rfl, found⟩ := Json.next_eq_end (.inr ⟨rfl, rfl⟩) isEnd
        rw [Json.skip_listEnd (Json.skipBlank_of_not (by decide) after)]
          at passed
        rw [Json.skip_listEnd found, passed]
      · have passed := inductionHypothesis measuresLater walks
        rw [if_neg Bool.false_ne_true] at passed
        have item := measures member List.mem_cons_self allowance isUpdate
        rw [Json.skip_listItem isItem, item, passed]

/-- A closed record whose members are read from whole values is so itself. -/
theorem measures (isClosed : record.closed = true)
    (measures : ∀ member ∈ record.members, member.reader.Measures) :
    record.codec.toReader.Measures := by
  intro allowance text value rest isRead frames
  obtain ⟨inner, _, start, ⟨opens, isObject⟩ | ⟨opens, isList⟩⟩ :=
    container_of_readText isRead
  · have opens : skipBlank text = Frame.object.opening :: start := opens
    obtain ⟨_, middle, walked, _, closes⟩ := walk_of_readObject isObject
    obtain ⟨after, rfl, passed⟩ := Json.foldMembers_measured
      (readMember_measures isClosed measures inner) walked
    cases closes
    rw [Json.skipInside_frame opens]
    exact passed frames
  · have opens : skipBlank text = Frame.list.opening :: start := opens
    obtain ⟨middle, walked, closes⟩ := value_of_settle isList
    rw [Json.skipInside_frame opens]
    exact readTuple_measured measures walked closes frames

end Record

/-! ## Texts that are refused -/

/-- Whether a reader reads no value from a text, wherever it stands. -/
def Reader.Refuses (reader : Reader α) (text : List Char) : Prop :=
  ∀ allowance before rest value after, Blanks before → Separated rest →
    reader.text allowance (before ++ (text ++ rest)) ≠ .ok (value, after)

theorem Reader.Refuses.map {reader : Reader α} {text : List Char}
    (refuses : reader.Refuses text) (transform : α → β) :
    (reader.map transform).Refuses text := by
  intro allowance before rest value after areBlanks separated isRead
  obtain ⟨⟨held, _⟩, isHeld, same⟩ := Outcome.map_eq_ok_iff.mp isRead
  exact refuses allowance before rest held _ areBlanks separated isHeld

theorem Member.plain_refuses {key : String} {absence : Absence}
    {codec : Codec α} {get : σ → α} {set : α → σ → σ} {text : List Char}
    (refuses : codec.toReader.Refuses text) :
    (Member.plain key absence codec get set).reader.Refuses text :=
  refuses.map set

/-- A whole text is refused with the blanks around what is. -/
theorem Codec.parse_refused {codec : Codec α} {core : List Char}
    (refuses : codec.toReader.Refuses core) {text : List Char}
    (padded : Json.Padded core text) :
    ∃ fault, codec.parse (String.ofList text) = .error fault := by
  obtain ⟨before, after, rfl, areBefore, areAfter⟩ := padded
  have ended : Separated after := by
    rw [← List.append_nil after]
    exact Separated.behind areAfter trivial
  cases parsed : codec.parse (String.ofList (before ++ (core ++ after))) with
  | error fault => exact ⟨fault, rfl⟩
  | ok value =>
      rw [Codec.parse, Outcome.mapError_eq_ok_iff, String.toList_ofList] at parsed
      obtain ⟨rest, isRead, _⟩ := Json.closeText_eq_ok_iff.mp parsed
      exact absurd isRead (refuses _ _ _ _ _ areBefore ended)

/-! ## Members that a closed record takes -/

/-- Whether two members have different keys, as far as their keys denote
texts. -/
def Apart (first second : Entry) : Prop :=
  ∀ key : List Char, Denotes first.key key → ¬ Denotes second.key key

theorem Apart.symm {first second : Entry} (apart : Apart first second) :
    Apart second first :=
  fun key isSecond isFirst => apart key isFirst isSecond

/-- Whether members may be those of a record: they have different keys that the
record knows, and none has a value that the member refuses. -/
structure Record.Fits (record : Record σ) (entries : List Entry) : Prop where
  apart : entries.Pairwise Apart
  known : ∀ entry ∈ entries, ∃ member ∈ record.members,
    Denotes entry.key member.key.toList ∧ ¬ member.reader.Refuses entry.value

namespace Record

variable {record : Record σ}

/-- What a walk through members tells of them. -/
theorem walked_fits (isClosed : record.closed = true) {allowance : Nat}
    {assembly last : Assembly σ} {entries : List Entry}
    (walked : Walked (record.readMember allowance) assembly entries last) :
    record.Fits entries ∧ ∀ key ∈ assembly.seen, ∀ entry ∈ entries,
      ¬ Denotes entry.key key.toList := by
  induction walked with
  | nil => exact ⟨⟨.nil, List.forall_mem_nil _⟩,
      fun _ _ => List.forall_mem_nil _⟩
  | @cons assembly next last entry entries key named behindKey behindColon rest
      areBehindKey areBehindColon separated taken _ inductionHypothesis =>
      obtain ⟨member, start, update, demands, isMember, rfl, isColon, isUpdate,
        rfl⟩ := member_of_readMember isClosed taken
      rw [Json.readColon_blanks areBehindKey] at isColon
      cases isColon
      obtain ⟨fits, differ⟩ := inductionHypothesis
      have apart : ∀ other ∈ entries, Apart entry other := by
        intro other isOther text isText isTextToo
        obtain rfl := named.unique isText
        exact differ member.key List.mem_cons_self other isOther isTextToo
      have accepted : ¬ member.reader.Refuses entry.value := fun refuses =>
        refuses allowance behindColon rest update rest areBehindColon separated
          isUpdate
      refine ⟨⟨.cons apart fits.apart, List.forall_mem_cons.mpr
        ⟨⟨member, isMember, named, accepted⟩, fits.known⟩⟩, ?_⟩
      intro key seen other isOther isKey
      rcases List.mem_cons.mp isOther with rfl | later
      · have same := String.toList_injective (named.unique isKey)
        exact fresh_of_demand demands (same ▸ seen)
      · exact differ key (List.mem_cons_of_mem _ seen) other later isKey

/-- A closed record is read from no object whose members do not fit. -/
theorem refuses_object (isClosed : record.closed = true)
    (measures : ∀ member ∈ record.members, member.reader.Measures)
    {entries : List Entry} {text : List Char} (isObject : IsObject entries text)
    (areKeys : ∀ entry ∈ entries, IsBody entry.key)
    (areWellFormed : ∀ entry ∈ entries, WellFormed entry.value)
    (misfit : ¬ record.Fits entries) : record.codec.toReader.Refuses text := by
  intro allowance before rest value after areBlanks _ isRead
  obtain ⟨inside, opened⟩ := Json.Enclosed.opens isObject
  have opens : skipBlank (before ++ (text ++ rest)) =
      '\x7b' :: (inside ++ rest) := by
    rw [Json.skipBlank_append areBlanks, opened, List.cons_append]
    exact Json.skipBlank_of_not (by decide) _
  obtain ⟨inner, _, start, ⟨opensToo, isRead⟩ | ⟨opensToo, _⟩⟩ :=
    container_of_readText isRead
  · rw [opens] at opensToo
    cases opensToo
    obtain ⟨_, _, walked, _⟩ := walk_of_readObject isRead
    have isWalked := Json.Enclosed.walked
      (readMember_measures isClosed measures inner) isObject areKeys
      areWellFormed (by rw [opened]; rfl) walked
    exact misfit (walked_fits isClosed isWalked).1
  · rw [opens] at opensToo
    cases opensToo

end Record

end Parley.Schema
