import Parley.Proofs.Yaml.FlowTokens

/-!
Contract: the tokens of a written JSON value in YAML.

The compact text of a JSON value whose texts are printable is one line of YAML: its
objects and lists are flow collections, its strings are quoted scalars and all else
are plain ones.

Owns: `Portable`, `tokenKinds`, and the tokens of portable values.
-/

namespace Parley.Yaml

open Parley.Json (Value writeItems writeMembers writeText)

/-! ## Values -/

/-- The JSON values that YAML reads from what is written for them. -/
inductive Portable : Value → Prop where
  | null : Portable .null
  | boolean (value : Bool) : Portable (.boolean value)
  | number {value : Json.Number} (isWord : IsWord value.write) :
      Portable (.number value)
  | text {value : String} (printable : Printable value.toList) :
      Portable (.text value)
  | sequence {items : List Value} (areItems : ∀ item ∈ items, Portable item) :
      Portable (.sequence items)
  | object {members : List (String × Value)}
      (areKeys : ∀ member ∈ members, IsKey member.1)
      (areValues : ∀ member ∈ members, Portable member.2) :
      Portable (.object members)

mutual

/-- What the tokens of a written value are. -/
def tokenKinds : Value → List TokenKind
  | .null => [.scalar .plain "null"]
  | .boolean true => [.scalar .plain "true"]
  | .boolean false => [.scalar .plain "false"]
  | .number value => [.scalar .plain (String.ofList value.write)]
  | .text value => [.scalar .quoted value]
  | .sequence [] => [.flowSequenceStart, .flowSequenceEnd]
  | .sequence (item :: items) =>
      .flowSequenceStart :: (tokenKinds item ++ itemKinds items)
  | .object [] => [.flowMappingStart, .flowMappingEnd]
  | .object ((key, value) :: members) =>
      .flowMappingStart ::
        (keyKinds key ++ (tokenKinds value ++ memberKinds members))

/-- The tokens of the items after the first. -/
def itemKinds : List Value → List TokenKind
  | [] => [.flowSequenceEnd]
  | item :: items => .flowEntry :: (tokenKinds item ++ itemKinds items)

def memberKinds : List (String × Value) → List TokenKind
  | [] => [.flowMappingEnd]
  | (key, value) :: members =>
      .flowEntry :: (keyKinds key ++ (tokenKinds value ++ memberKinds members))

end

namespace Lexer

/-! ## Tokens -/

/-- Whether a lexer takes the tokens of a value from what is written for it, as
long as no word goes on behind it. -/
def Lexes (value : Value) : Prop :=
  ∀ {lexer : Lexer} {count depth : Nat} {kinds : List TokenKind}
    {rest : List Char}, EndsWord (decide (0 < depth)) rest →
    lexer.Stands count depth kinds (value.write ++ rest) →
    ∃ next, lexer.Reaches next ∧
      next.Stands (count + value.write.length) depth
        (kinds ++ tokenKinds value) rest

section Containers

variable {lexer : Lexer} {count depth : Nat} {kinds : List TokenKind}
  {rest : List Char}

theorem endsWord_items (items : List Value) (rest : List Char) :
    EndsWord (decide (0 < depth + 1)) (writeItems items ++ rest) := by
  rw [decide_eq_true (Nat.succ_pos depth)]
  cases items <;> exact ⟨rfl, rfl⟩

theorem endsWord_members (members : List (String × Value)) (rest : List Char) :
    EndsWord (decide (0 < depth + 1)) (writeMembers members ++ rest) := by
  rw [decide_eq_true (Nat.succ_pos depth)]
  cases members <;> exact ⟨rfl, rfl⟩

theorem Stands.takesItems {items : List Value}
    (areItems : ∀ item ∈ items, Lexes item)
    (stands : lexer.Stands count (depth + 1) kinds (writeItems items ++ rest)) :
    ∃ next, lexer.Reaches next ∧
      next.Stands (count + (writeItems items).length) depth
        (kinds ++ itemKinds items) rest := by
  induction items generalizing lexer count kinds with
  | nil => exact Stands.closes ']' .flowSequenceEnd (by decide) stands
  | cons item items inductionHypothesis =>
      obtain ⟨isItem, areItems⟩ := List.forall_mem_cons.mp areItems
      rw [writeItems, List.cons_append, List.append_assoc] at stands
      obtain ⟨second, comma, atItem, _⟩ := stands.separates
      obtain ⟨third, own, behind⟩ := isItem (endsWord_items items rest) atItem
      obtain ⟨last, others, there⟩ := inductionHypothesis areItems behind
      refine ⟨last, (comma.trans own).trans others, ?_⟩
      rw [List.append_assoc, List.append_assoc] at there
      have place : count + (writeItems (item :: items)).length =
          count + 1 + item.write.length + (writeItems items).length := by
        rw [writeItems, List.length_cons, List.length_append]
        omega
      rw [place, itemKinds]
      exact there

/-- The entry of a collection whose value is known to be taken. -/
theorem Stands.takesEntry {key : String} {value : Value} (isKey : IsKey key)
    (isValue : Lexes value) (allowed : lexer.keyAllowed = true)
    (ends : EndsWord (decide (0 < depth + 1)) rest)
    (stands : lexer.Stands count (depth + 1) kinds
      (writeText key ++ ':' :: (value.write ++ rest))) :
    ∃ next, lexer.Reaches next ∧
      next.Stands
        (count + (writeText key ++ ':' :: value.write).length) (depth + 1)
        (kinds ++ (keyKinds key ++ tokenKinds value)) rest := by
  obtain ⟨second, named, atValue⟩ := stands.takesKey isKey allowed
  obtain ⟨last, own, there⟩ := isValue ends atValue
  refine ⟨last, named.trans own, ?_⟩
  have place : count + (writeText key ++ ':' :: value.write).length =
      count + (writeText key).length + 1 + value.write.length := by
    rw [List.length_append, List.length_cons]
    omega
  rw [place, ← List.append_assoc]
  exact there

theorem Stands.takesMembers {members : List (String × Value)}
    (areKeys : ∀ member ∈ members, IsKey member.1)
    (areValues : ∀ member ∈ members, Lexes member.2)
    (stands : lexer.Stands count (depth + 1) kinds
      (writeMembers members ++ rest)) :
    ∃ next, lexer.Reaches next ∧
      next.Stands (count + (writeMembers members).length) depth
        (kinds ++ memberKinds members) rest := by
  induction members generalizing lexer count kinds with
  | nil => exact Stands.closes '\x7d' .flowMappingEnd (by decide) stands
  | cons member members inductionHypothesis =>
      obtain ⟨key, value⟩ := member
      obtain ⟨isKey, areKeys⟩ := List.forall_mem_cons.mp areKeys
      obtain ⟨isValue, areValues⟩ := List.forall_mem_cons.mp areValues
      rw [writeMembers, List.cons_append, List.append_assoc, List.cons_append,
        List.append_assoc] at stands
      obtain ⟨second, comma, atKey, allowed⟩ := stands.separates
      obtain ⟨third, own, behind⟩ := atKey.takesEntry isKey isValue allowed
        (endsWord_members members rest)
      obtain ⟨last, others, there⟩ :=
        inductionHypothesis areKeys areValues behind
      refine ⟨last, (comma.trans own).trans others, ?_⟩
      have place : count + (writeMembers ((key, value) :: members)).length =
          count + 1 + (writeText key ++ ':' :: value.write).length +
            (writeMembers members).length := by
        simp only [writeMembers, List.length_cons, List.length_append]
        omega
      rw [List.append_assoc, List.append_assoc, List.append_assoc] at there
      rw [place, memberKinds]
      exact there

private theorem lexes_sequence {items : List Value}
    (areItems : ∀ item ∈ items, Lexes item) : Lexes (.sequence items) := by
  intro lexer count depth kinds rest ends stands
  cases items with
  | nil =>
      rw [Value.write] at stands
      obtain ⟨second, opened, inside, _⟩ := Stands.opens
        '[' .flowSequenceStart (by decide) stands
      obtain ⟨last, closed, there⟩ :=
        Stands.takesItems areItems inside
      rw [List.append_assoc] at there
      exact ⟨last, opened.trans closed, there⟩
  | cons item items =>
      obtain ⟨isItem, areItems⟩ := List.forall_mem_cons.mp areItems
      rw [Value.write, List.cons_append, List.append_assoc] at stands
      obtain ⟨second, opened, inside, _⟩ := Stands.opens
        '[' .flowSequenceStart (by decide) stands
      obtain ⟨third, own, behind⟩ := isItem (endsWord_items items rest) inside
      obtain ⟨last, others, there⟩ := behind.takesItems areItems
      refine ⟨last, (opened.trans own).trans others, ?_⟩
      have place : count + (Value.sequence (item :: items)).write.length =
          count + 1 + item.write.length + (writeItems items).length := by
        rw [Value.write, List.length_cons, List.length_append]
        omega
      rw [List.append_assoc, List.append_assoc] at there
      rw [place, tokenKinds]
      exact there

private theorem lexes_object {members : List (String × Value)}
    (areKeys : ∀ member ∈ members, IsKey member.1)
    (areValues : ∀ member ∈ members, Lexes member.2) :
    Lexes (.object members) := by
  intro lexer count depth kinds rest ends stands
  cases members with
  | nil =>
      rw [Value.write] at stands
      obtain ⟨second, opened, inside, _⟩ := Stands.opens
        '\x7b' .flowMappingStart (by decide) stands
      obtain ⟨last, closed, there⟩ :=
        Stands.takesMembers areKeys areValues inside
      rw [List.append_assoc] at there
      exact ⟨last, opened.trans closed, there⟩
  | cons member members =>
      obtain ⟨key, value⟩ := member
      obtain ⟨isKey, areKeys⟩ := List.forall_mem_cons.mp areKeys
      obtain ⟨isValue, areValues⟩ := List.forall_mem_cons.mp areValues
      rw [Value.write, List.cons_append, List.append_assoc, List.cons_append,
        List.append_assoc] at stands
      obtain ⟨second, opened, atKey, allowed⟩ := Stands.opens
        '\x7b' .flowMappingStart (by decide) stands
      obtain ⟨third, own, behind⟩ := atKey.takesEntry isKey isValue allowed
        (endsWord_members members rest)
      obtain ⟨last, others, there⟩ := behind.takesMembers areKeys areValues
      refine ⟨last, (opened.trans own).trans others, ?_⟩
      have place : count + (Value.object ((key, value) :: members)).write.length =
          count + 1 + (writeText key ++ ':' :: value.write).length +
            (writeMembers members).length := by
        simp only [Value.write, List.length_cons, List.length_append]
        omega
      rw [List.append_assoc, List.append_assoc, List.append_assoc] at there
      rw [place, tokenKinds]
      exact there

end Containers

/-- The tokens of a portable value are taken from what is written for it. -/
theorem lexes_portable {value : Value} (portable : Portable value) :
    Lexes value := by
  induction portable with
  | null =>
      intro lexer count depth kinds rest ends stands
      exact stands.takesWord (.name (by decide)) ends
  | boolean value =>
      intro lexer count depth kinds rest ends stands
      cases value
      · have isWord : IsWord ['f', 'a', 'l', 's', 'e'] := .name (by decide)
        exact Stands.takesWord isWord ends stands
      · have isWord : IsWord ['t', 'r', 'u', 'e'] := .name (by decide)
        exact Stands.takesWord isWord ends stands
  | number isWord =>
      intro lexer count depth kinds rest ends stands
      exact stands.takesWord isWord ends
  | text printable =>
      intro lexer count depth kinds rest ends stands
      exact stands.takesText printable
  | sequence _ areItems => exact lexes_sequence areItems
  | object areKeys _ areValues => exact lexes_object areKeys areValues

end Lexer

/-! ## Whole texts -/

private theorem printable_writeItems {items : List Value}
    (areItems : ∀ item ∈ items, Printable item.write) :
    Printable (writeItems items) := by
  induction items with
  | nil => decide
  | cons item items inductionHypothesis =>
      obtain ⟨isItem, areItems⟩ := List.forall_mem_cons.mp areItems
      exact Printable.cons_iff.mpr ⟨by decide, Printable.append_iff.mpr
        ⟨isItem, inductionHypothesis areItems⟩⟩

theorem printable_entry {key : String} {value : Value} (isKey : IsKey key)
    (isValue : Printable value.write) {rest : List Char}
    (isRest : Printable rest) :
    Printable (writeText key ++ ':' :: (value.write ++ rest)) :=
  Printable.append_iff.mpr ⟨printable_writeText isKey.1,
    Printable.cons_iff.mpr ⟨by decide,
      Printable.append_iff.mpr ⟨isValue, isRest⟩⟩⟩

private theorem printable_writeMembers {members : List (String × Value)}
    (areKeys : ∀ member ∈ members, IsKey member.1)
    (areValues : ∀ member ∈ members, Printable member.2.write) :
    Printable (writeMembers members) := by
  induction members with
  | nil => decide
  | cons member members inductionHypothesis =>
      obtain ⟨isKey, areKeys⟩ := List.forall_mem_cons.mp areKeys
      obtain ⟨isValue, areValues⟩ := List.forall_mem_cons.mp areValues
      exact Printable.cons_iff.mpr ⟨by decide, printable_entry isKey isValue
        (inductionHypothesis areKeys areValues)⟩

theorem Portable.printable {value : Value} (portable : Portable value) :
    Printable value.write := by
  induction portable with
  | null => decide
  | boolean value => cases value <;> decide
  | number isWord => exact isWord.printable
  | text printable => exact printable_writeText printable
  | @sequence items _ areItems =>
      cases items with
      | nil => decide
      | cons item items =>
          obtain ⟨isItem, areItems⟩ := List.forall_mem_cons.mp areItems
          exact Printable.cons_iff.mpr ⟨by decide, Printable.append_iff.mpr
            ⟨isItem, printable_writeItems areItems⟩⟩
  | @object members areKeys _ areValues =>
      cases members with
      | nil => decide
      | cons member members =>
          obtain ⟨isKey, areKeys⟩ := List.forall_mem_cons.mp areKeys
          obtain ⟨isValue, areValues⟩ := List.forall_mem_cons.mp areValues
          exact Printable.cons_iff.mpr ⟨by decide, printable_entry isKey isValue
            (printable_writeMembers areKeys areValues)⟩

/-- What is written for a portable value is cut into its tokens. -/
theorem tokenize_portable {value : Value} (portable : Portable value) :
    ∃ tokens, tokenize value.write = ⟨tokens, none⟩ ∧
      tokens.map Token.kind = tokenKinds value ++ [.streamEnd] := by
  have start := Lexer.Stands.start portable.printable
  rw [← List.append_nil value.write] at start
  have ends : EndsWord (decide (0 < 0)) [] := trivial
  obtain ⟨last, reaches, there⟩ := Lexer.lexes_portable portable ends start
  obtain ⟨bound, settled, enough, same⟩ :=
    reaches (value.write.length + 1) 0 (by
      rw [List.append_nil]
      exact Nat.lt_succ_self _)
  obtain ⟨later, rfl⟩ := Nat.exists_eq_add_one.mpr
    (Nat.lt_of_le_of_lt (Nat.zero_le _) enough)
  obtain ⟨tokens, ended, areKinds⟩ := there.run_end later settled
  refine ⟨tokens, ?_, areKinds⟩
  rw [List.append_nil] at same
  rw [tokenize_printable portable.printable, same, ended]

end Parley.Yaml
