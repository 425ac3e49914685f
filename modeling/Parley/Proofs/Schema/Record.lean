import Parley.Proofs.Outcome
import Parley.Proofs.Schema.Reader

/-!
Contract: records are read back from the objects that are written for them.

An object whose keys are members of a record, each at most once, is taken member
by member. If no required member is missing, what the members make of the blank
record is the record that the object stands for. What is written for a record is
such an object.

Owns: `Record.Assembles`, `Restored`, the round trip of records, and what is known
of a record that was read.
-/

namespace Parley.Schema

open Parley.Json (ReadsAs Separated Takes Value)

variable {σ α : Type}

namespace Record

variable (record : Record σ)

/-! ## Objects that stand for records -/

/-- The steps by which the members of an object are taken into a record. -/
inductive Assembles (depth : Nat) :
    Assembly σ → List (String × Value) → Assembly σ → Prop where
  | nil {assembly : Assembly σ} : Assembles depth assembly [] assembly
  | cons {assembly last : Assembly σ} {key : String} {json : Value}
      {entries : List (String × Value)} {member : Member σ} {update : σ → σ}
      (known : record.members.find? (·.key == key) = some member)
      (fresh : key ∉ assembly.seen)
      (reads : member.reader.Reads depth json update)
      (others : Assembles depth (assembly.add key update) entries last) :
      Assembles depth assembly ((key, json) :: entries) last

variable {record}

/-- A member that is always written is taken if its codec reads it. -/
theorem Assembles.plain {depth : Nat} {assembly last : Assembly σ}
    {key : String} {json : Value} {entries : List (String × Value)}
    {absence : Absence} {codec : Codec α} {get : σ → α} {set : α → σ → σ}
    {value : α}
    (known : record.members.find? (·.key == key) =
      some (.plain key absence codec get set))
    (fresh : assembly.seen.contains key = false)
    (reads : codec.toReader.Reads depth json value)
    (others : record.Assembles depth (assembly.add key (set value)) entries
      last) :
    record.Assembles depth assembly ((key, json) :: entries) last :=
  .cons known
    (fun seen => by
      rw [List.contains_iff_mem.mpr seen] at fresh
      cases fresh)
    (reads.map set) others

theorem demand_of_fresh {assembly : Assembly σ} {key : String}
    {member : Member σ}
    (known : record.members.find? (·.key == key) = some member)
    (fresh : key ∉ assembly.seen) :
    record.demand assembly key = .member member := by
  have notSeen : ¬ assembly.seen.contains key = true := by
    rwa [List.contains_iff_mem]
  rw [demand, known]
  dsimp only
  rw [if_neg notSeen]

/-- The walk through an object takes its members as they are assembled. -/
theorem Assembles.takes {depth : Nat} {assembly last : Assembly σ}
    {entries : List (String × Value)}
    (assembles : record.Assembles depth assembly entries last)
    {allowance : Nat} (enough : depth ≤ allowance) :
    Takes (record.readMember allowance) assembly entries last := by
  induction assembles with
  | nil => exact .nil
  | cons known fresh reads _ inductionHypothesis =>
      refine .cons (fun rest separated => ?_) inductionHypothesis
      rw [readMember, demand_of_fresh known fresh]
      show Except.map _ (_ : Json.Reading _) = _
      rw [reads allowance enough rest separated]
      rfl

/-- An object is read as the record that its members assemble. -/
theorem reads_object {depth : Nat} {last : Assembly σ}
    {entries : List (String × Value)} {value : σ}
    (assembles : record.Assembles depth record.start entries last)
    (finished : record.finish last = .ok value) :
    record.codec.toReader.Reads (depth + 1) (.object entries) value := by
  intro allowance enough rest separated
  obtain ⟨inner, rfl⟩ := Nat.exists_eq_add_one.mpr
    (Nat.lt_of_lt_of_le (Nat.succ_pos depth) enough)
  have takes := assembles.takes (Nat.le_of_succ_le_succ enough)
  obtain ⟨inside, opened, walked⟩ := Json.foldMembers_object takes rest
  rw [opened]
  show record.readObject inner inside = _
  rw [readObject, walked]
  show settle Json.closeObject (.ok (record.finish last, '\x7d' :: rest)) = _
  rw [finished]
  rfl

end Record

/-! ## Objects that are written for records -/

/-- The steps by which the members of a record are read back from what is written
for them. Members that are not written keep what they were. -/
inductive Restored (depth : Nat) (value : σ) :
    List (Member σ) → σ → σ → Prop where
  | nil {part last : σ} (same : part = last) : Restored depth value [] part last
  | written {member : Member σ} {members : List (Member σ)} {part last : σ}
      {json : Value} {update : σ → σ} (isWritten : member.write value = some json)
      (reads : member.reader.Reads depth json update)
      (others : Restored depth value members (update part) last) :
      Restored depth value (member :: members) part last
  | absent {member : Member σ} {members : List (Member σ)} {part last : σ}
      (notWritten : member.write value = none)
      (notRequired : member.absence ≠ .required)
      (others : Restored depth value members part last) :
      Restored depth value (member :: members) part last

namespace Restored

variable {depth : Nat} {value part last : σ} {members : List (Member σ)}
  {key : String} {absence : Absence} {codec : Codec α}

/-- A member that is always written is restored if its codec round-trips. -/
theorem plain {get : σ → α} {set : α → σ → σ}
    (roundTrips : codec.RoundTrips depth (get value))
    (others : Restored depth value members (set (get value) part) last) :
    Restored depth value (.plain key absence codec get set :: members) part
      last :=
  .written rfl (roundTrips.map set) others

/-- An optional member is restored if its codec round-trips. -/
theorem sparse {get : σ → Option α} {set : Option α → σ → σ}
    (notRequired : absence ≠ .required)
    (roundTrips : ∀ held, get value = some held →
      codec.RoundTrips depth held ∧ Written (codec.write held))
    (others : Restored depth value members
      (if (get value).isSome then set (get value) part else part) last) :
    Restored depth value (.sparse key absence codec get set :: members) part
      last := by
  cases held : get value with
  | none =>
      rw [held] at others
      refine .absent ?_ notRequired others
      show (get value).map codec.write = none
      rw [held]
      rfl
  | some present =>
      rw [held] at others
      obtain ⟨reads, written⟩ := roundTrips present held
      refine .written ?_ ((Reader.Reads.optional reads written).map set) others
      show (get value).map codec.write = _
      rw [held]
      rfl

/-- Every required member is written. -/
theorem required (restored : Restored depth value members part last) :
    ∀ member ∈ members, member.absence = .required →
      (member.write value).isSome := by
  induction restored with
  | nil => exact fun _ absent => absurd absent List.not_mem_nil
  | written isWritten _ _ inductionHypothesis =>
      intro member isMember isRequired
      rcases List.mem_cons.mp isMember with rfl | later
      · rw [isWritten]
        rfl
      · exact inductionHypothesis member later isRequired
  | absent _ notRequired _ inductionHypothesis =>
      intro member isMember isRequired
      rcases List.mem_cons.mp isMember with rfl | later
      · exact absurd isRequired notRequired
      · exact inductionHypothesis member later isRequired

/-- The members that are written assemble the record. -/
theorem assembles {record : Record σ} (assembly : Assembly σ)
    (restored : Restored depth value members assembly.value last)
    (known : ∀ member ∈ members,
      record.members.find? (·.key == member.key) = some member)
    (fresh : ∀ member ∈ members, member.key ∉ assembly.seen)
    (distinct : members.Pairwise fun first second => first.key ≠ second.key) :
    ∃ final : Assembly σ, record.Assembles depth assembly
        (members.filterMap fun member =>
          (member.write value).map (Prod.mk member.key)) final ∧
      final.value = last ∧ (∀ key ∈ assembly.seen, key ∈ final.seen) ∧
      ∀ member ∈ members, (member.write value).isSome →
        member.key ∈ final.seen := by
  generalize isPart : assembly.value = part at restored
  induction restored generalizing assembly with
  | nil same =>
      exact ⟨assembly, .nil, isPart.trans same, fun _ seen => seen,
        fun _ absent => absurd absent List.not_mem_nil⟩
  | @written member members part last json update isWritten reads _
      inductionHypothesis =>
      obtain ⟨differs, distinct⟩ := List.pairwise_cons.mp distinct
      obtain ⟨final, assembles, isLast, kept, all⟩ := inductionHypothesis
        (assembly.add member.key update)
        (fun other isMember => known other (List.mem_cons_of_mem _ isMember))
        (fun other isMember seen => by
          rcases List.mem_cons.mp seen with same | before
          · exact differs other isMember same.symm
          · exact fresh other (List.mem_cons_of_mem _ isMember) before)
        distinct (by rw [← isPart]; rfl)
      refine ⟨final, ?_, isLast,
        fun key seen => kept key (List.mem_cons_of_mem _ seen), ?_⟩
      · rw [List.filterMap_cons, isWritten]
        exact .cons (known member List.mem_cons_self)
          (fresh member List.mem_cons_self) reads assembles
      · intro other isMember isSome
        rcases List.mem_cons.mp isMember with rfl | later
        · exact kept other.key List.mem_cons_self
        · exact all other later isSome
  | @absent member members part last notWritten _ _ inductionHypothesis =>
      obtain ⟨final, assembles, isLast, kept, all⟩ := inductionHypothesis
        assembly
        (fun other isMember => known other (List.mem_cons_of_mem _ isMember))
        (fun other isMember => fresh other (List.mem_cons_of_mem _ isMember))
        (List.pairwise_cons.mp distinct).2 isPart
      refine ⟨final, ?_, isLast, kept, ?_⟩
      · rw [List.filterMap_cons, notWritten]
        exact assembles
      · intro other isMember isSome
        rcases List.mem_cons.mp isMember with rfl | later
        · rw [notWritten] at isSome
          cases isSome
        · exact all other later isSome

end Restored

/-- Members with different keys are found by them. -/
theorem find?_key {members : List (Member σ)}
    (distinct : members.Pairwise fun first second => first.key ≠ second.key)
    {member : Member σ} (isMember : member ∈ members) :
    members.find? (·.key == member.key) = some member := by
  induction members with
  | nil => exact absurd isMember List.not_mem_nil
  | cons first members inductionHypothesis =>
      obtain ⟨differs, distinct⟩ := List.pairwise_cons.mp distinct
      rcases List.mem_cons.mp isMember with rfl | later
      · exact List.find?_cons_of_pos (beq_self_eq_true member.key)
      · rw [List.find?_cons_of_neg, inductionHypothesis distinct later]
        rw [beq_iff_eq]
        exact differs member later

/-- A record is read from the object that is written for one. -/
theorem Record.reads_written {record : Record σ} {depth : Nat}
    {written value : σ} (distinct : (record.members.map Member.key).Nodup)
    (restored : Restored depth written record.members record.blank value) :
    record.codec.toReader.Reads (depth + 1) (record.codec.write written)
      value := by
  have distinct : record.members.Pairwise
      fun first second => first.key ≠ second.key :=
    List.pairwise_map.mp distinct
  obtain ⟨final, assembles, isValue, _, all⟩ :=
    restored.assembles record.start
      (fun member isMember => find?_key distinct isMember)
      (fun _ _ => List.not_mem_nil) distinct
  have finished : record.finish final = .ok value := by
    have noneMissing : record.members.find? (fun member =>
        member.absence == .required && !final.seen.contains member.key) =
        none := by
      rw [List.find?_eq_none]
      intro member isMember missing
      rw [Bool.and_eq_true, beq_iff_eq, Bool.not_eq_true'] at missing
      have seen := all member isMember
        (restored.required member isMember missing.1)
      rw [← List.contains_iff_mem, missing.2] at seen
      cases seen
    rw [finish, noneMissing, isValue]
  exact reads_object assembles finished

/-! ## Records that were read -/

namespace Record

variable {record : Record σ}

theorem value_of_settle
    {close : List Char → Except Json.Fault (List Char)}
    {reading : Json.Reading (Except Refusal σ)} {value : σ} {rest : List Char}
    (settled : settle close reading = .ok (value, rest)) :
    ∃ middle, reading = .ok (.ok value, middle) ∧ close middle = .ok rest := by
  unfold settle at settled
  split at settled
  · cases settled
  · rename_i held middle
    obtain ⟨after, closed, same⟩ := Outcome.map_eq_ok_iff.mp settled
    cases same
    exact ⟨middle, rfl, closed⟩
  · split at settled <;> cases settled

theorem value_of_finish {assembly : Assembly σ} {value : σ}
    (finished : record.finish assembly = .ok value) :
    value = assembly.value := by
  unfold finish at finished
  split at finished
  · cases finished
  · cases finished
    rfl

/-- An object that was read was walked through. -/
theorem walk_of_readObject {allowance : Nat} {text rest : List Char} {value : σ}
    (isRead : record.readObject allowance text = .ok (value, rest)) :
    ∃ assembly middle,
      Json.foldMembers (record.readMember allowance) text.length true
          record.start text = .ok (.ok assembly, middle) ∧
        record.finish assembly = .ok value ∧
        Json.closeObject middle = .ok rest := by
  obtain ⟨middle, isOutcome, closes⟩ := value_of_settle isRead
  obtain ⟨⟨outcome, _⟩, walked, same⟩ := Outcome.map_eq_ok_iff.mp isOutcome
  obtain ⟨finishes, rfl⟩ := Prod.mk.inj same
  obtain ⟨assembly, rfl, finished⟩ := Outcome.bind_eq_ok_iff.mp finishes
  exact ⟨assembly, _, walked, finished, closes⟩

/-- A key that was met before is not asked for again. -/
theorem fresh_of_demand {assembly : Assembly σ} {key : String}
    {member : Member σ} (demands : record.demand assembly key = .member member) :
    key ∉ assembly.seen := by
  unfold demand at demands
  split at demands
  · split at demands
    · cases demands
    · rename_i notSeen
      rwa [List.contains_iff_mem] at notSeen
  · split at demands <;> cases demands

/-- A closed record takes nothing but its members. -/
theorem member_of_readMember {allowance : Nat} {assembly next : Assembly σ}
    {key : String} {text rest : List Char} (closed : record.closed = true)
    (isRead : record.readMember allowance assembly key text =
      .ok (.ok next, rest)) :
    ∃ member start update, record.demand assembly key = .member member ∧
      member ∈ record.members ∧ member.key = key ∧
      Json.readColon text = .ok start ∧
      member.reader.text allowance start = .ok (update, rest) ∧
      next = assembly.add key update := by
  unfold readMember at isRead
  split at isRead
  · cases isRead
  · rename_i skips
    unfold demand at skips
    split at skips
    · split at skips <;> cases skips
    · rw [if_pos closed] at skips
      cases skips
  · rename_i member demands
    have known : record.members.find? (·.key == key) = some member := by
      unfold demand at demands
      split at demands
      · rename_i found isFound
        split at demands
        · cases demands
        · cases demands
          exact isFound
      · split at demands <;> cases demands
    split at isRead
    · cases isRead
    rename_i start isColon
    obtain ⟨⟨update, _⟩, isUpdate, same⟩ := Outcome.map_eq_ok_iff.mp isRead
    cases same
    have isKey : (member.key == key) = true :=
      List.find?_some (p := fun other : Member σ => other.key == key) known
    exact ⟨member, start, update, demands, List.mem_of_find?_eq_some known,
      eq_of_beq isKey, isColon, isUpdate, rfl⟩

/-- A member of a record is read from the next item of a list, or absent at the
end of the list. -/
theorem readTuple_step {allowance index : Nat} {first : Bool} {member : Member σ}
    {members : List (Member σ)} {value final : σ} {text rest : List Char}
    (walked : record.readTuple allowance (member :: members) index first value
      text = .ok (.ok final, rest)) :
    (∃ behind, Json.nextItem first text = .ok (false, behind) ∧
        record.readTuple allowance members (index + 1) first value behind =
          .ok (.ok final, rest)) ∨
      ∃ start update behind, Json.nextItem first text = .ok (true, start) ∧
        member.reader.text allowance start = .ok (update, behind) ∧
        record.readTuple allowance members (index + 1) false (update value)
          behind = .ok (.ok final, rest) := by
  rw [readTuple] at walked
  split at walked
  · cases walked
  · rename_i behind isEnd
    split at walked
    · exact .inl ⟨behind, isEnd, walked⟩
    · cases walked
  · rename_i start isItem
    split at walked
    · cases walked
    · rename_i update behind isUpdate
      exact .inr ⟨start, update, behind, isItem, isUpdate, walked⟩

/-- A record is read from an object or from a list. -/
theorem container_of_readText {allowance : Nat} {text rest : List Char}
    {value : σ} (isRead : record.readText allowance text = .ok (value, rest)) :
    ∃ inner, allowance = inner + 1 ∧ ∃ start,
      (Json.skipBlank text = '\x7b' :: start ∧
          record.readObject inner start = .ok (value, rest)) ∨
        Json.skipBlank text = '[' :: start ∧
          record.readList inner start = .ok (value, rest) := by
  unfold readText at isRead
  split at isRead
  · cases isRead
  · rename_i start isStart
    cases allowance with
    | zero => cases isRead
    | succ inner => exact ⟨inner, rfl, start, .inl ⟨isStart, isRead⟩⟩
  · rename_i start isStart
    cases allowance with
    | zero => cases isRead
    | succ inner => exact ⟨inner, rfl, start, .inr ⟨isStart, isRead⟩⟩
  · unfold Reader.refuseStart ScalarType.readStart at isRead
    split at isRead
    · cases isRead
    · cases isRead
    · split at isRead <;> cases isRead

end Record

end Parley.Schema
