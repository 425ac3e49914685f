import Parley.Proofs.Json.Walk

/-!
Contract: JSON values are read as they were written.

A value that holds no floating-point numbers, whose integers have 64 bits and
whose members stand in the order of their keys, is what reading its text gives,
if no more containers are open in it at a time than may be. Members that were
written in another order are put into that order.

Owns: `Value.Plain`, `InOrder`, `Value.nesting`, and the round trip of values.
-/

namespace Parley.Json

/-! ## Values that reading gives -/

/-- Whether members have different keys and stand in the order of these. -/
def InOrder (members : List (String × Value)) : Prop :=
  members.Pairwise fun first second => first.1 < second.1

instance (members : List (String × Value)) : Decidable (InOrder members) :=
  inferInstanceAs (Decidable (List.Pairwise _ members))

/-- The values without floating-point numbers that reading gives. -/
inductive Value.Plain : Value → Prop where
  | null : Plain .null
  | boolean (value : Bool) : Plain (.boolean value)
  | integer {value : Int} (fits : Fits64 value) :
      Plain (.number (.integer value))
  | text (value : String) : Plain (.text value)
  | sequence {items : List Value} (each : ∀ item ∈ items, item.Plain) :
      Plain (.sequence items)
  | object {members : List (String × Value)} (inOrder : InOrder members)
      (each : ∀ member ∈ members, member.2.Plain) : Plain (.object members)

mutual

/-- How many containers are open at a time in the text of a value. -/
def Value.nesting : Value → Nat
  | .sequence items => nestingItems items + 1
  | .object members => nestingMembers members + 1
  | _ => 0

def nestingItems : List Value → Nat
  | [] => 0
  | item :: items => max item.nesting (nestingItems items)

def nestingMembers : List (String × Value) → Nat
  | [] => 0
  | (_, value) :: members => max value.nesting (nestingMembers members)

end

private theorem nesting_le_items {items : List Value} {item : Value}
    (member : item ∈ items) : item.nesting ≤ nestingItems items := by
  induction items with
  | nil => exact absurd member List.not_mem_nil
  | cons first items inductionHypothesis =>
      rw [nestingItems]
      rcases List.mem_cons.mp member with rfl | later
      · exact Nat.le_max_left _ _
      · exact Nat.le_trans (inductionHypothesis later) (Nat.le_max_right _ _)

theorem nesting_le_members {members : List (String × Value)}
    {member : String × Value} (isMember : member ∈ members) :
    member.2.nesting ≤ nestingMembers members := by
  induction members with
  | nil => exact absurd isMember List.not_mem_nil
  | cons first members inductionHypothesis =>
      obtain ⟨key, value⟩ := first
      rw [nestingMembers]
      rcases List.mem_cons.mp isMember with rfl | later
      · exact Nat.le_max_left _ _
      · exact Nat.le_trans (inductionHypothesis later) (Nat.le_max_right _ _)

/-! ## Members in order -/

/-- Whether no two members have one key. -/
def DistinctKeys (members : List (String × Value)) : Prop :=
  members.Pairwise fun first second => first.1 ≠ second.1

private theorem InOrder.distinctKeys {members : List (String × Value)}
    (inOrder : InOrder members) : DistinctKeys members :=
  inOrder.imp fun below => String.ne_of_lt below

theorem DistinctKeys.perm {first second : List (String × Value)}
    (distinct : DistinctKeys first) (same : first.Perm second) :
    DistinctKeys second :=
  List.Pairwise.perm distinct same fun differ => differ.symm

theorem insertMember_perm {key : String} {value : Value}
    {members : List (String × Value)}
    (fresh : ∀ member ∈ members, key ≠ member.1) :
    (insertMember key value members).Perm ((key, value) :: members) := by
  induction members with
  | nil => exact .refl _
  | cons member members inductionHypothesis =>
      obtain ⟨other, held⟩ := member
      rw [insertMember]
      have notOther : key ≠ other := fresh (other, held) List.mem_cons_self
      split
      · exact .refl _
      exact ((inductionHypothesis fun member isMember =>
        fresh member (List.mem_cons_of_mem _ isMember)).cons _).trans
        (.swap _ _ _)

private theorem insertMember_inOrder {key : String} {value : Value}
    {members : List (String × Value)}
    (fresh : ∀ member ∈ members, key ≠ member.1) (inOrder : InOrder members) :
    InOrder (insertMember key value members) := by
  induction members with
  | nil => exact List.pairwise_singleton _ _
  | cons member members inductionHypothesis =>
      obtain ⟨other, held⟩ := member
      obtain ⟨above, others⟩ := List.pairwise_cons.mp inOrder
      have notOther : key ≠ other := fresh (other, held) List.mem_cons_self
      have freshLater : ∀ member ∈ members, key ≠ member.1 :=
        fun member isMember => fresh member (List.mem_cons_of_mem _ isMember)
      rw [insertMember]
      split
      · rename_i below
        refine List.pairwise_cons.mpr ⟨fun member isMember => ?_, inOrder⟩
        rcases List.mem_cons.mp isMember with rfl | later
        · exact below
        · exact String.lt_trans below (above member later)
      rename_i notBelow
      have otherBelow : other < key := by
        refine String.not_le.mp fun atMost => ?_
        exact notOther (String.le_antisymm atMost (String.not_lt.mp notBelow))
      refine List.pairwise_cons.mpr
        ⟨fun member isMember => ?_, inductionHypothesis freshLater others⟩
      rcases List.mem_cons.mp
        ((insertMember_perm freshLater).mem_iff.mp isMember) with rfl | later
      · exact otherBelow
      · exact above member later

/-- The members that are kept after further ones were read. -/
def keepAll (kept members : List (String × Value)) : List (String × Value) :=
  members.foldl (fun kept member => insertMember member.1 member.2 kept) kept

private theorem keepAll_spec {kept members : List (String × Value)}
    (distinct : DistinctKeys (members ++ kept)) (inOrder : InOrder kept) :
    (keepAll kept members).Perm (members ++ kept) ∧
      InOrder (keepAll kept members) := by
  induction members generalizing kept with
  | nil => exact ⟨.refl _, inOrder⟩
  | cons member members inductionHypothesis =>
      obtain ⟨fresh, _⟩ := List.pairwise_cons.mp distinct
      have freshKept : ∀ other ∈ kept, member.1 ≠ other.1 :=
        fun other isKept => fresh other (List.mem_append_right _ isKept)
      have moved : (member :: (members ++ kept)).Perm
          (members ++ insertMember member.1 member.2 kept) :=
        List.perm_middle.symm.trans
          ((insertMember_perm freshKept).symm.append_left members)
      obtain ⟨same, isOrdered⟩ := inductionHypothesis
        (distinct.perm moved) (insertMember_inOrder freshKept inOrder)
      exact ⟨same.trans moved.symm, isOrdered⟩

/-- Members are kept in the order of their keys, however they were written. -/
theorem keepAll_of_perm {written members : List (String × Value)}
    (same : written.Perm members) (inOrder : InOrder members) :
    keepAll [] written = members := by
  have distinct : DistinctKeys (written ++ []) := by
    rw [List.append_nil]
    exact inOrder.distinctKeys.perm same.symm
  obtain ⟨isSame, isOrdered⟩ := keepAll_spec distinct List.Pairwise.nil
  rw [List.append_nil] at isSame
  refine List.Perm.eq_of_pairwise (fun first second _ _ below above => ?_)
    isOrdered inOrder (isSame.trans same)
  exact absurd above (String.lt_asymm below)

/-! ## Scalars -/

theorem readScalar?_text (text : String) (rest : List Char) :
    readScalar? (writeText text ++ rest) = some (.ok (.text text, rest)) := by
  obtain ⟨inside, opened, isRead⟩ := readLiteral_written text rest
  rw [opened]
  show some ((readLiteral inside).map _) = _
  rw [isRead]
  rfl

/-- What starts with a digit or a minus is read as a number. -/
theorem readScalar?_number {first : Char}
    (starts : first.isDigit = true ∨ first = '-') (more : List Char) :
    readScalar? (first :: more) =
      some ((readNumber (first :: more)).map fun (number, after) =>
        (.number number, after)) := by
  have noWord : ∀ letter ∈ ['n', 't', 'f', '"'], first ≠ letter := by
    rintro letter member rfl
    simp only [List.mem_cons, List.not_mem_nil, or_false] at member
    rcases member with rfl | rfl | rfl | rfl <;> revert starts <;> decide
  have isNumber : first = '-' ∨ first.isDigit = true := starts.symm
  unfold readScalar?
  dsimp only
  rw [if_neg (noWord 'n' (by decide)), if_neg (noWord 't' (by decide)),
    if_neg (noWord 'f' (by decide)), if_neg (noWord '"' (by decide)),
    if_pos isNumber]

/-- A numeral is read as a number. -/
theorem readScalar?_numeral (numeral : Numeral) (rest : List Char) :
    readScalar? (numeral.spelled ++ rest) =
      some ((readNumber (numeral.spelled ++ rest)).map fun (number, after) =>
        (.number number, after)) := by
  obtain ⟨first, more, opened, starts⟩ := numeral.spelled_head
  rw [opened]
  exact readScalar?_number starts (more ++ rest)

theorem readScalar?_spelled {numeral : Numeral} {number : Number}
    (isNumber : numeral.value? = some number) {rest : List Char}
    (separated : Separated rest) :
    readScalar? (numeral.spelled ++ rest) =
      some (.ok (.number number, rest)) := by
  rw [readScalar?_numeral, (readNumber_spelled numeral
    (separated.endsBefore _ _)).mpr ⟨isNumber, rfl⟩]
  rfl

theorem readScalar?_integer {value : Int} (fits : Fits64 value)
    {rest : List Char} (separated : Separated rest) :
    readScalar? (Number.write (.integer value) ++ rest) =
      some (.ok (.number (.integer value), rest)) := by
  rw [write_integer]
  exact readScalar?_spelled (Numeral.value?_ofInt fits) separated

/-! ## Values -/

private theorem readValueWith_scalar {list : List Char → Reading (List Value)}
    {object : List Char → Reading (List (String × Value))} {json : Value}
    {rest : List Char}
    (isRead : readScalar? (json.write ++ rest) = some (.ok (json, rest))) :
    readValueWith list object (json.write ++ rest) = .ok (json, rest) := by
  obtain ⟨first, more, written, starts⟩ := json.write_starts
  rw [written, List.cons_append] at isRead ⊢
  unfold readValueWith
  rw [skipBlank_value starts]
  dsimp only
  rw [isRead]

private theorem readValueWith_sequence {list : List Char → Reading (List Value)}
    {object : List Char → Reading (List (String × Value))}
    {items : List Value} {inside rest : List Char}
    (isRead : list ('[' :: inside) = .ok (items, rest)) :
    readValueWith list object ('[' :: inside) =
      .ok (.sequence items, rest) := by
  show (list ('[' :: inside)).map _ = _
  rw [isRead]
  rfl

private theorem readValueWith_object {list : List Char → Reading (List Value)}
    {object : List Char → Reading (List (String × Value))}
    {members : List (String × Value)} {inside rest : List Char}
    (isRead : object ('\x7b' :: inside) = .ok (members, rest)) :
    readValueWith list object ('\x7b' :: inside) =
      .ok (.object members, rest) := by
  show (object ('\x7b' :: inside)).map _ = _
  rw [isRead]
  rfl

/-- A scalar is read whatever may be opened. -/
theorem readValue_scalar {json : Value} {rest : List Char}
    (isRead : readScalar? (json.write ++ rest) = some (.ok (json, rest)))
    (allowance : Nat) :
    readValue allowance (json.write ++ rest) = .ok (json, rest) := by
  cases allowance <;> exact readValueWith_scalar isRead

/-- Every member of an object is kept when it is read. -/
theorem takes_keepMember {read : List Char → Reading Value}
    {members : List (String × Value)}
    (reads : ∀ member ∈ members, ReadsAs read member.2 member.2)
    (kept : List (String × Value)) :
    Takes (keepMember read) kept members (keepAll kept members) := by
  induction members generalizing kept with
  | nil => exact .nil
  | cons member members inductionHypothesis =>
      obtain ⟨key, value⟩ := member
      have others := inductionHypothesis
        (fun member isMember => reads member (List.mem_cons_of_mem _ isMember))
        (insertMember key value kept)
      refine .cons (fun rest separated => ?_) others
      have isRead := reads (key, value) List.mem_cons_self rest separated
      show Except.map _ (read (value.write ++ rest)) = _
      rw [isRead]
      rfl

/-- The members of a written object are read, in the order of their keys. -/
theorem readMembers_written {read : List Char → Reading Value}
    {written members : List (String × Value)}
    (reads : ∀ member ∈ written, ReadsAs read member.2 member.2)
    (same : written.Perm members) (inOrder : InOrder members)
    (rest : List Char) :
    ∃ inside, (Value.object written).write ++ rest = '{' :: inside ∧
      readMembers read inside = .ok (members, rest) := by
  have takes := takes_keepMember reads []
  rw [keepAll_of_perm same inOrder] at takes
  obtain ⟨inside, opened, walked⟩ := foldMembers_object takes rest
  refine ⟨inside, opened, ?_⟩
  rw [readMembers, walked]
  rfl

/-- A value is read as it was written, if as many containers may be opened as it
nests. -/
theorem readValue_written {value : Value} (plain : value.Plain)
    {allowance : Nat} (shallow : value.nesting ≤ allowance) :
    ReadsAs (readValue allowance) value value := by
  intro rest separated
  induction plain generalizing allowance rest with
  | null => exact readValue_scalar rfl allowance
  | boolean held => cases held <;> exact readValue_scalar rfl allowance
  | integer fits =>
      exact readValue_scalar (readScalar?_integer fits separated) allowance
  | text held => exact readValue_scalar (readScalar?_text held rest) allowance
  | @sequence items _ inductionHypothesis =>
      obtain ⟨inner, rfl⟩ := Nat.exists_eq_add_one.mpr
        (Nat.lt_of_lt_of_le (Nat.succ_pos _) shallow)
      have reads : ∀ item ∈ items, ReadsAs (readValue inner) item item :=
        fun item member rest separated => inductionHypothesis item member
          (Nat.le_trans (nesting_le_items member)
            (Nat.le_of_succ_le_succ shallow)) rest separated
      have enough : items.length <
          ((Value.sequence items).write ++ rest).length := by
        have length := length_write_sequence items
        rw [List.length_append]
        omega
      obtain ⟨inside, opened, isRead⟩ := readItems_written reads enough rest
      rw [List.map_id'] at opened
      rw [opened] at isRead ⊢
      exact readValueWith_sequence isRead
  | @object members inOrder _ inductionHypothesis =>
      obtain ⟨inner, rfl⟩ := Nat.exists_eq_add_one.mpr
        (Nat.lt_of_lt_of_le (Nat.succ_pos _) shallow)
      have reads : ∀ member ∈ members,
          ReadsAs (readValue inner) member.2 member.2 :=
        fun member isMember rest separated =>
          inductionHypothesis member isMember
            (Nat.le_trans (nesting_le_members isMember)
              (Nat.le_of_succ_le_succ shallow)) rest separated
      obtain ⟨inside, opened, isRead⟩ :=
        readMembers_written reads (.refl _) inOrder rest
      rw [opened]
      exact readValueWith_object isRead

end Parley.Json
