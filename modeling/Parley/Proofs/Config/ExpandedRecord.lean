import Parley.Proofs.Config.ExpandedReader
import Parley.Proofs.Schema.Record

/-!
Contract: records in a text and in the same text with its placeholders replaced.

A closed record has known keys only, and these hold no placeholder. So both texts
have the same members in the same order, be they in an object or in a list, and
the records that are read are related if the values of their members are.

Owns: `RecordFollows`, and that readers of records follow.
-/

namespace Parley.Json

/-- What goes on with a member or the end of an object starts with no
placeholder. -/
theorem startsWithout_of_foldMembers {σ ρ : Type}
    {member : σ → String → List Char → Reading (Except ρ σ)} {bound : Nat}
    {state last : σ} {text rest : List Char}
    (walked : foldMembers member bound false state text =
      .ok (.ok last, rest)) : StartsWithout ['$'] text := by
  obtain ⟨isEnd, _⟩ | ⟨_, _, _, _, _, _, _, isKey, _⟩ := foldMembers_step walked
  · exact startsWithout_of_nextKey isEnd
  · exact startsWithout_of_nextKey isKey

end Parley.Json

namespace Parley.Config

open Parley.Json (StartsWithout skipBlank)
open Parley.Schema (Assembly Codec Member Reader Record)
open Placeholder (Environment Inserted)

variable {σ : Type} {environment : Environment} {file text expanded : List Char}
  {record : Record σ} {related : σ → σ → Prop}

/-- Whether changes take related values to related values. -/
def Preserves (related : σ → σ → Prop) (update other : σ → σ) : Prop :=
  ∀ value last, related value last → related (update value) (other last)

/-- The records whose readers give related values. -/
structure RecordFollows (environment : Environment) (file : List Char)
    (record : Record σ) (related : σ → σ → Prop) : Prop where
  closed : record.closed = true
  blank : related record.blank record.blank
  keys : ∀ member ∈ record.members, '$' ∉ member.key.toList
  members : ∀ member ∈ record.members,
    Follows environment file member.reader (Preserves related)

/-- The relation between records as far as they were read. -/
structure AssemblyFollows (related : σ → σ → Prop) (assembly other : Assembly σ) :
    Prop where
  value : related assembly.value other.value
  seen : other.seen = assembly.seen

private theorem demand_of_seen {assembly other : Assembly σ}
    (same : other.seen = assembly.seen) (key : String) :
    record.demand other key = record.demand assembly key := by
  unfold Record.demand
  rw [same]

/-- Both texts have the same member, with related values. -/
theorem readMember_follows (follows : RecordFollows environment file record related)
    {allowance : Nat} {assembly other next last : Assembly σ} {key : String}
    {rest after : List Char} (isRelated : AssemblyFollows related assembly other)
    (tracks : Tracks environment file text expanded)
    (noDollar : StartsWithout ['$'] rest)
    (isRead : record.readMember allowance assembly key text =
      .ok (.ok next, rest))
    (isReadToo : record.readMember allowance other key expanded =
      .ok (.ok last, after)) :
    AssemblyFollows related next last ∧ Tracks environment file rest after := by
  obtain ⟨member, start, update, demands, isMember, _, isColon, isUpdate, rfl⟩ :=
    Record.member_of_readMember follows.closed isRead
  obtain ⟨memberToo, startToo, updateToo, demandsToo, _, _, isColonToo,
    isUpdateToo, rfl⟩ := Record.member_of_readMember follows.closed isReadToo
  rw [demand_of_seen isRelated.seen, demands] at demandsToo
  cases demandsToo
  obtain ⟨_, isColonLast, behind⟩ := tracks.readColon isColon
  cases isColonToo.symm.trans isColonLast
  obtain ⟨preserves, others⟩ := (follows.members member isMember).agrees
    behind noDollar isUpdate isUpdateToo
  exact ⟨⟨preserves _ _ isRelated.value,
    congrArg (key :: ·) isRelated.seen⟩, others⟩

/-- The walks through both objects take the same members. -/
theorem foldMembers_follows
    (follows : RecordFollows environment file record related)
    (plainValues : PlainValues environment file) {allowance bound boundToo : Nat}
    {first : Bool} {assembly other final last : Assembly σ}
    {rest after : List Char} (isRelated : AssemblyFollows related assembly other)
    (tracks : Tracks environment file text expanded)
    (walked : Json.foldMembers (record.readMember allowance) bound first
      assembly text = .ok (.ok final, rest))
    (walkedToo : Json.foldMembers (record.readMember allowance) boundToo first
      other expanded = .ok (.ok last, after)) :
    AssemblyFollows related final last ∧ Tracks environment file rest after := by
  -- on the members that the first text still has
  induction bound generalizing boundToo first assembly other text expanded with
  | zero => cases walked
  | succ less inductionHypothesis =>
      obtain ⟨isEnd, rfl⟩ | ⟨_, start, key, afterKey, next, middle, isLess, isKey,
        isText, taken, walks⟩ := Json.foldMembers_step walked
      · obtain ⟨_, isEndLast, others⟩ := tracks.nextKey isEnd
        obtain ⟨isEndToo, rfl⟩ | ⟨_, _, _, _, _, _, _, isKeyToo, _⟩ :=
          Json.foldMembers_step walkedToo
        · cases isEndToo.symm.trans isEndLast
          exact ⟨isRelated, others⟩
        · cases isKeyToo.symm.trans isEndLast
      · obtain ⟨_, isKeyLast, behind⟩ := tracks.nextKey isKey
        obtain ⟨isEndToo, _⟩ | ⟨_, _, _, _, _, _, _, isKeyToo, isTextToo,
          takenToo, walksToo⟩ := Json.foldMembers_step walkedToo
        · cases isEndToo.symm.trans isKeyLast
        cases isKeyToo.symm.trans isKeyLast
        cases isLess
        obtain ⟨member, _, _, _, isMember, rfl, _⟩ :=
          Record.member_of_readMember follows.closed taken
        obtain ⟨inserted, behindKey⟩ :=
          behind.readLiteral plainValues isText isTextToo
        have sameKey := inserted.eq_of_no_dollar (follows.keys member isMember)
        rw [String.toList_inj.mp sameKey] at takenToo
        obtain ⟨isRelatedToo, others⟩ := readMember_follows follows isRelated
          behindKey (Json.startsWithout_of_foldMembers walks) taken takenToo
        exact inductionHypothesis isRelatedToo others walks walksToo

/-- What goes on with the items of a record, or with the end of its list, starts
with no placeholder. -/
theorem startsWithout_of_readTuple {allowance index : Nat}
    {members : List (Member σ)} {value final : σ} {rest last : List Char}
    (walked : record.readTuple allowance members index false value text =
      .ok (.ok final, rest))
    (closes : Json.closeList rest = .ok last) : StartsWithout ['$'] text := by
  cases members with
  | nil =>
      cases walked
      exact Json.startsWithout_of_closeList closes
  | cons member members =>
      obtain ⟨_, isEnd, _⟩ | ⟨_, _, _, isItem, _⟩ := Record.readTuple_step walked
      · exact Json.startsWithout_of_nextItem isEnd
      · exact Json.startsWithout_of_nextItem isItem

/-- The walks through both lists take the same members. -/
theorem readTuple_follows {members : List (Member σ)}
    (follows : ∀ member ∈ members,
      Follows environment file member.reader (Preserves related))
    {allowance index : Nat} {first : Bool} {value other final finalToo : σ}
    {rest after last : List Char} (isRelated : related value other)
    (tracks : Tracks environment file text expanded)
    (walked : record.readTuple allowance members index first value text =
      .ok (.ok final, rest))
    (closes : Json.closeList rest = .ok last)
    (walkedToo : record.readTuple allowance members index first other expanded =
      .ok (.ok finalToo, after)) :
    related final finalToo ∧ Tracks environment file rest after := by
  induction members generalizing index first value other text expanded with
  | nil =>
      cases walked
      cases walkedToo
      exact ⟨isRelated, tracks⟩
  | cons member members inductionHypothesis =>
      have followsLater := fun member isMember =>
        follows member (List.mem_cons_of_mem _ isMember)
      obtain ⟨behind, isEnd, walks⟩ |
        ⟨start, update, behind, isItem, isUpdate, walks⟩ :=
        Record.readTuple_step walked
      · obtain ⟨_, isEndLast, others⟩ := tracks.nextItem isEnd fun more =>
          absurd more Bool.false_ne_true
        obtain ⟨_, isEndToo, walksToo⟩ | ⟨_, _, _, isItemToo, _⟩ :=
          Record.readTuple_step walkedToo
        · cases isEndToo.symm.trans isEndLast
          exact inductionHypothesis followsLater isRelated others walks walksToo
        · cases isItemToo.symm.trans isEndLast
      · have followsFirst := follows member List.mem_cons_self
        have noDollar := followsFirst.starts isUpdate
        rw [Json.skipBlank_item isItem] at noDollar
        obtain ⟨_, isItemLast, behindItem⟩ :=
          tracks.nextItem isItem fun _ => noDollar
        obtain ⟨_, isEndToo, _⟩ | ⟨_, _, _, isItemToo, isUpdateToo, walksToo⟩ :=
          Record.readTuple_step walkedToo
        · cases isEndToo.symm.trans isItemLast
        cases isItemToo.symm.trans isItemLast
        obtain ⟨preserves, others⟩ := followsFirst.agrees behindItem
          (startsWithout_of_readTuple walks closes) isUpdate isUpdateToo
        exact inductionHypothesis followsLater (preserves _ _ isRelated) others
          walks walksToo

private theorem readObject_follows
    (follows : RecordFollows environment file record related)
    (plainValues : PlainValues environment file) {allowance : Nat}
    {value other : σ} {rest after : List Char}
    (tracks : Tracks environment file text expanded)
    (isRead : record.readObject allowance text = .ok (value, rest))
    (isReadToo : record.readObject allowance expanded = .ok (other, after)) :
    related value other ∧ Tracks environment file rest after := by
  obtain ⟨assembly, middle, walked, finished, closes⟩ :=
    Record.walk_of_readObject isRead
  obtain ⟨assemblyToo, middleToo, walkedToo, finishedToo, closesToo⟩ :=
    Record.walk_of_readObject isReadToo
  obtain ⟨isRelated, others⟩ := foldMembers_follows follows plainValues
    ⟨follows.blank, rfl⟩ tracks walked walkedToo
  obtain ⟨_, closesLast, last⟩ := others.closeObject closes
  cases closesToo.symm.trans closesLast
  rw [Record.value_of_finish finished, Record.value_of_finish finishedToo]
  exact ⟨isRelated.value, last⟩

private theorem readList_follows
    (follows : RecordFollows environment file record related) {allowance : Nat}
    {value other : σ} {rest after : List Char}
    (tracks : Tracks environment file text expanded)
    (isRead : record.readList allowance text = .ok (value, rest))
    (isReadToo : record.readList allowance expanded = .ok (other, after)) :
    related value other ∧ Tracks environment file rest after := by
  obtain ⟨middle, walked, closes⟩ := Record.value_of_settle isRead
  obtain ⟨middleToo, walkedToo, closesToo⟩ := Record.value_of_settle isReadToo
  obtain ⟨isRelated, others⟩ := readTuple_follows follows.members follows.blank
    tracks walked closes walkedToo
  obtain ⟨_, closesLast, last⟩ := others.closeList closes
  cases closesToo.symm.trans closesLast
  exact ⟨isRelated, last⟩

/-- Records whose members follow are read the same in both texts but for their
texts. -/
theorem RecordFollows.reader
    (follows : RecordFollows environment file record related)
    (plainValues : PlainValues environment file) :
    Follows environment file record.codec.toReader related where
  starts isRead := by
    obtain ⟨_, _, _, ⟨isStart, _⟩ | ⟨isStart, _⟩⟩ :=
      Record.container_of_readText isRead
    · rw [isStart]
      exact fun isDollar => absurd isDollar (by decide)
    · rw [isStart]
      exact fun isDollar => absurd isDollar (by decide)
  agrees tracks _ isRead isReadToo := by
    obtain ⟨inner, isInner, start, isContainer⟩ :=
      Record.container_of_readText isRead
    obtain ⟨innerToo, isInnerToo, startToo, isContainerToo⟩ :=
      Record.container_of_readText isReadToo
    obtain rfl := Nat.succ.inj (isInner.symm.trans isInnerToo)
    obtain ⟨isStart, isObject⟩ | ⟨isStart, isList⟩ := isContainer
    · obtain ⟨last, isLast, others⟩ := tracks.start isStart (by decide)
      obtain ⟨isStartToo, isObjectToo⟩ | ⟨isStartToo, _⟩ := isContainerToo
      · rw [isStartToo] at isLast
        cases isLast
        exact readObject_follows follows plainValues others isObject isObjectToo
      · rw [isStartToo] at isLast
        cases isLast
    · obtain ⟨last, isLast, others⟩ := tracks.start isStart (by decide)
      obtain ⟨isStartToo, _⟩ | ⟨isStartToo, isListToo⟩ := isContainerToo
      · rw [isStartToo] at isLast
        cases isLast
      · rw [isStartToo] at isLast
        cases isLast
        exact readList_follows follows others isList isListToo

end Parley.Config
