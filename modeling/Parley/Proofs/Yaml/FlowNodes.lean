import Parley.Proofs.Yaml.Portable
import Parley.Yaml.Document

/-!
Contract: the document of a written JSON value.

The nodes that are built from the tokens of a portable value are those of the value:
an object is a mapping with the same entries in the same order, and a scalar keeps
its text and whether it was quoted. Nothing comes after the document, and no part
of it is cut.

Owns: `Renders`, and the document of a portable value.
-/

namespace Parley.Yaml

open Parley.Json (Value)

/-! ## Nodes of values -/

mutual

/-- Whether a node is that of a JSON value. -/
inductive Renders : Value → Node → Prop where
  | null {head : Head} (untagged : head.tag = none) :
      Renders .null (.scalar head .plain "null")
  | boolean {value : Bool} {head : Head} (untagged : head.tag = none) :
      Renders (.boolean value)
        (.scalar head .plain (if value then "true" else "false"))
  | number {value : Json.Number} {head : Head} (untagged : head.tag = none) :
      Renders (.number value) (.scalar head .plain (String.ofList value.write))
  | text {value : String} {head : Head} :
      Renders (.text value) (.scalar head .quoted value)
  | sequence {items : List Value} {nodes : List Node} {head : Head}
      (areItems : RendersItems items nodes) :
      Renders (.sequence items) (.sequence head nodes)
  | object {members : List (String × Value)} {entries : List (Node × Node)}
      {head : Head} (areEntries : RendersMembers members entries) :
      Renders (.object members) (.mapping head entries)

/-- Whether nodes are those of the items of a list. -/
inductive RendersItems : List Value → List Node → Prop where
  | nil : RendersItems [] []
  | cons {item : Value} {items : List Value} {node : Node} {nodes : List Node}
      (isItem : Renders item node) (areItems : RendersItems items nodes) :
      RendersItems (item :: items) (node :: nodes)

/-- Whether nodes are those of the members of an object. -/
inductive RendersMembers :
    List (String × Value) → List (Node × Node) → Prop where
  | nil : RendersMembers [] []
  | cons {key : String} {value : Value} {members : List (String × Value)}
      {head : Head} {node : Node} {entries : List (Node × Node)}
      (isValue : Renders value node)
      (areEntries : RendersMembers members entries) :
      RendersMembers ((key, value) :: members)
        ((.scalar head .quoted key, node) :: entries)

end

/-! ## Building -/

section Building

variable {setting : Setting} {block indentless : Bool} {start stop : Mark}
  {tokens : List Token} {anchors : List (String × Nat)}

/-- Whether the content of a node in a flow collection starts with a token. -/
def StartsContent : TokenKind → Prop
  | .scalar _ _ | .flowSequenceStart | .flowMappingStart => True
  | _ => False

/-- A node without an anchor and a tag is its content. -/
theorem buildNode_content (kind : TokenKind) (starts : StartsContent kind)
    (bound : Nat) :
    buildNode setting block indentless (bound + 1)
        ⟨⟨kind, start, stop⟩ :: tokens, anchors⟩ =
      buildContent setting block indentless bound (.bare start) false kind
        ⟨⟨kind, start, stop⟩ :: tokens, anchors⟩ := by
  rw [buildNode]
  cases kind <;> first | rfl | exact starts.elim

theorem buildNode_scalar (bound : Nat) (style : Style) (text : String) :
    buildNode setting block indentless (bound + 2)
        ⟨⟨.scalar style text, start, stop⟩ :: tokens, anchors⟩ =
      (.scalar (.bare start) style text, ⟨tokens, anchors⟩) := by
  rw [buildNode_content (.scalar style text) trivial, buildContent]
  rfl

theorem buildNode_sequence (bound : Nat) :
    buildNode setting block indentless (bound + 2)
        ⟨⟨.flowSequenceStart, start, stop⟩ :: tokens, anchors⟩ =
      (.sequence (.bare start)
          (buildFlowItems setting bound true ⟨tokens, anchors⟩).1,
        (buildFlowItems setting bound true ⟨tokens, anchors⟩).2) := by
  rw [buildNode_content .flowSequenceStart trivial, buildContent]
  rfl

theorem buildNode_mapping (bound : Nat) :
    buildNode setting block indentless (bound + 2)
        ⟨⟨.flowMappingStart, start, stop⟩ :: tokens, anchors⟩ =
      (.mapping (.bare start)
          (buildFlowEntries setting bound true ⟨tokens, anchors⟩).1,
        (buildFlowEntries setting bound true ⟨tokens, anchors⟩).2) := by
  rw [buildNode_content .flowMappingStart trivial, buildContent]
  rfl

theorem buildInFlow_content {kind : TokenKind} (starts : StartsContent kind)
    {ends : List TokenKind} (areEnds : ∀ kind ∈ ends, ¬ StartsContent kind)
    (bound : Nat) :
    buildInFlow setting (bound + 1) ends
        ⟨⟨kind, start, stop⟩ :: tokens, anchors⟩ =
      buildNode setting false false bound
        ⟨⟨kind, start, stop⟩ :: tokens, anchors⟩ := by
  have goesOn : ends.contains kind = false := by
    rw [Bool.eq_false_iff, Ne, List.contains_iff_mem]
    exact fun isEnd => areEnds kind isEnd starts
  rw [buildInFlow, if_pos]
  show (!ends.contains kind) = true
  rw [goesOn]
  rfl

/-- The marks behind a key or a value in a flow mapping start no content. -/
theorem ends_start_nothing :
    ∀ kind ∈ [TokenKind.value, .flowEntry, .flowMappingEnd],
      ¬ StartsContent kind := by
  simp only [List.forall_mem_cons]
  exact ⟨not_false, not_false, not_false, List.forall_mem_nil _⟩

section Entries

variable {bound : Nat}

private theorem buildFlowEntries_key {key value : Node}
    {afterKey after : Remaining}
    (named : buildInFlow setting bound [.value, .flowEntry, .flowMappingEnd]
      ⟨tokens, anchors⟩ = (key, afterKey))
    (valued : buildFlowValue setting bound [.flowEntry, .flowMappingEnd] afterKey =
      (value, after)) :
    buildFlowEntries setting (bound + 1) true
        ⟨⟨.key, start, stop⟩ :: tokens, anchors⟩ =
      ((key, value) :: (buildFlowEntries setting bound false after).1,
        (buildFlowEntries setting bound false after).2) := by
  obtain ⟨rfl, rfl⟩ := Prod.ext_iff.mp named
  obtain ⟨rfl, rfl⟩ := Prod.ext_iff.mp valued
  rw [buildFlowEntries]
  rfl

private theorem buildFlowEntries_separated {first last : Mark} :
    buildFlowEntries setting (bound + 1) false
        ⟨⟨.flowEntry, first, last⟩ :: ⟨.key, start, stop⟩ :: tokens, anchors⟩ =
      buildFlowEntries setting (bound + 1) true
        ⟨⟨.key, start, stop⟩ :: tokens, anchors⟩ := by
  rw [buildFlowEntries, buildFlowEntries]
  rfl

theorem buildFlowEntries_end {first : Bool} :
    buildFlowEntries setting (bound + 1) first
        ⟨⟨.flowMappingEnd, start, stop⟩ :: tokens, anchors⟩ =
      ([], ⟨tokens, anchors⟩) := by
  rw [buildFlowEntries]
  rfl

/-- An entry of a mapping whose value is known to be built. -/
theorem buildFlowEntries_entry {key : String} {kind : TokenKind}
    (starts : StartsContent kind)
    {keyStart keyStop nameStart nameStop valueStart valueStop : Mark}
    {node : Node} {after : Remaining}
    (built : buildNode setting false false (bound + 1)
      ⟨⟨kind, start, stop⟩ :: tokens, anchors⟩ = (node, after)) :
    buildFlowEntries setting (bound + 4) true
        ⟨⟨.key, keyStart, keyStop⟩ :: ⟨.scalar .quoted key, nameStart, nameStop⟩ ::
          ⟨.value, valueStart, valueStop⟩ :: ⟨kind, start, stop⟩ :: tokens,
          anchors⟩ =
      ((.scalar (.bare nameStart) .quoted key, node) ::
          (buildFlowEntries setting (bound + 3) false after).1,
        (buildFlowEntries setting (bound + 3) false after).2) := by
  have isKey : StartsContent (.scalar .quoted key) := trivial
  have named : buildInFlow setting (bound + 3)
      [.value, .flowEntry, .flowMappingEnd]
      ⟨⟨.scalar .quoted key, nameStart, nameStop⟩ ::
        ⟨.value, valueStart, valueStop⟩ :: ⟨kind, start, stop⟩ :: tokens,
        anchors⟩ =
      (.scalar (.bare nameStart) .quoted key,
        ⟨⟨.value, valueStart, valueStop⟩ :: ⟨kind, start, stop⟩ :: tokens,
          anchors⟩) := by
    rw [buildInFlow_content isKey ends_start_nothing, buildNode_scalar]
  refine buildFlowEntries_key named ?_
  rw [buildFlowValue]
  exact (buildInFlow_content starts
    (List.forall_mem_cons.mp ends_start_nothing).2 (bound + 1)).trans built

end Entries

section Items

variable {bound : Nat} {kind : TokenKind}

private theorem buildFlowItems_item (starts : StartsContent kind) {item : Node}
    {after : Remaining}
    (built : buildNode setting false false bound
      ⟨⟨kind, start, stop⟩ :: tokens, anchors⟩ = (item, after)) :
    buildFlowItems setting (bound + 1) true
        ⟨⟨kind, start, stop⟩ :: tokens, anchors⟩ =
      (item :: (buildFlowItems setting bound false after).1,
        (buildFlowItems setting bound false after).2) := by
  obtain ⟨rfl, rfl⟩ := Prod.ext_iff.mp built
  rw [buildFlowItems]
  cases kind <;> first | exact starts.elim | rfl

private theorem buildFlowItems_separated (starts : StartsContent kind)
    {first last : Mark} :
    buildFlowItems setting (bound + 1) false
        ⟨⟨.flowEntry, first, last⟩ :: ⟨kind, start, stop⟩ :: tokens, anchors⟩ =
      buildFlowItems setting (bound + 1) true
        ⟨⟨kind, start, stop⟩ :: tokens, anchors⟩ := by
  rw [buildFlowItems, buildFlowItems]
  cases kind <;> first | exact starts.elim | rfl

theorem buildFlowItems_end {first : Bool} :
    buildFlowItems setting (bound + 1) first
        ⟨⟨.flowSequenceEnd, start, stop⟩ :: tokens, anchors⟩ =
      ([], ⟨tokens, anchors⟩) := by
  rw [buildFlowItems]
  rfl

end Items

end Building

/-! ## Nodes of portable values -/

/-- The first token of a value starts the content of a node. -/
theorem tokenKinds_starts (value : Value) :
    ∃ kind more, tokenKinds value = kind :: more ∧ StartsContent kind := by
  cases value with
  | null => exact ⟨_, _, rfl, trivial⟩
  | boolean value => cases value <;> exact ⟨_, _, rfl, trivial⟩
  | number value => exact ⟨_, _, rfl, trivial⟩
  | text value => exact ⟨_, _, rfl, trivial⟩
  | sequence items => cases items <;> exact ⟨_, _, rfl, trivial⟩
  | object members => cases members <;> exact ⟨_, _, rfl, trivial⟩

/-- Whether the node of a value, whole, is built from the tokens of the value,
whatever comes after them. Three steps for each token are enough: two lead from a node
to its content, and one to what comes next. -/
def Builds (value : Value) : Prop :=
  ∀ (setting : Setting) (block indentless : Bool) {bound : Nat}
    {tokens : List Token} {rest : List TokenKind},
    tokens.map Token.kind = tokenKinds value ++ rest →
    3 * (tokenKinds value).length ≤ bound →
    ∃ node left,
      buildNode setting block indentless bound ⟨tokens, []⟩ = (node, ⟨left, []⟩) ∧
        Renders value node ∧ node.cut? = none ∧ left.map Token.kind = rest

section Builds

variable {tokens : List Token} {rest : List TokenKind}

/-- A value has a token, so there are steps for its node. -/
private theorem exists_steps {value : Value} {bound : Nat}
    (enough : 3 * (tokenKinds value).length ≤ bound) :
    ∃ later, bound = later + 3 := by
  obtain ⟨kind, more, same, _⟩ := tokenKinds_starts value
  rw [same, List.length_cons] at enough
  exact Nat.exists_eq_add_of_le' (by omega)

/-- A value that is one scalar. -/
theorem builds_scalar {value : Value} {style : Style} {text : String}
    (single : tokenKinds value = [.scalar style text])
    (renders : ∀ mark, Renders value (.scalar (.bare mark) style text)) :
    Builds value := by
  intro setting block indentless bound tokens rest areKinds enough
  rw [single] at areKinds enough
  obtain ⟨⟨_, start, stop⟩, left, rfl, rfl, areRest⟩ :=
    List.map_eq_cons_iff.mp areKinds
  obtain ⟨later, rfl⟩ : ∃ later, bound = later + 2 :=
    Nat.exists_eq_add_of_le' (Nat.le_of_succ_le enough)
  exact ⟨_, left, buildNode_scalar later style text, renders start, rfl, areRest⟩

/-- A comma before an item changes nothing. -/
private theorem buildFlowItems_comma (setting : Setting) {bound : Nat}
    {item : Value}
    (areKinds : tokens.map Token.kind = tokenKinds item ++ rest)
    (first last : Mark) :
    buildFlowItems setting (bound + 1) false
        ⟨⟨.flowEntry, first, last⟩ :: tokens, []⟩ =
      buildFlowItems setting (bound + 1) true ⟨tokens, []⟩ := by
  obtain ⟨kind, more, same, starts⟩ := tokenKinds_starts item
  rw [same] at areKinds
  obtain ⟨⟨_, start, stop⟩, others, rfl, rfl, _⟩ :=
    List.map_eq_cons_iff.mp areKinds
  exact buildFlowItems_separated starts

/-- An item is built, and the items after it are those of what is left. -/
private theorem builds_item (setting : Setting) {bound : Nat} {item : Value}
    (isItem : Builds item)
    (areKinds : tokens.map Token.kind = tokenKinds item ++ rest)
    (enough : 3 * (tokenKinds item).length ≤ bound) :
    ∃ node left, Renders item node ∧ node.cut? = none ∧
      left.map Token.kind = rest ∧
      buildFlowItems setting (bound + 1) true ⟨tokens, []⟩ =
        (node :: (buildFlowItems setting bound false ⟨left, []⟩).1,
          (buildFlowItems setting bound false ⟨left, []⟩).2) := by
  obtain ⟨node, left, built, renders, whole, areRest⟩ :=
    isItem setting false false areKinds enough
  obtain ⟨kind, more, same, starts⟩ := tokenKinds_starts item
  rw [same] at areKinds
  obtain ⟨⟨_, start, stop⟩, others, rfl, rfl, _⟩ :=
    List.map_eq_cons_iff.mp areKinds
  exact ⟨node, left, renders, whole, areRest, buildFlowItems_item starts built⟩

/-- The items up to the end of a list are built, where each has a comma before it. The
comma takes one step of its three. -/
private theorem builds_items (setting : Setting) {bound : Nat}
    {items : List Value}
    (areItems : ∀ item ∈ items, Builds item)
    (areKinds : tokens.map Token.kind = itemKinds items ++ rest)
    (enough : 3 * (itemKinds items).length ≤ bound + 2) :
    ∃ nodes left,
      buildFlowItems setting bound false ⟨tokens, []⟩ = (nodes, ⟨left, []⟩) ∧
        RendersItems items nodes ∧ Node.itemCut? nodes = none ∧
        left.map Token.kind = rest := by
  induction items generalizing bound tokens with
  | nil =>
      obtain ⟨⟨_, start, stop⟩, left, rfl, rfl, areRest⟩ :=
        List.map_eq_cons_iff.mp areKinds
      have three : 3 ≤ bound + 2 := enough
      obtain ⟨later, rfl⟩ : ∃ later, bound = later + 1 :=
        Nat.exists_eq_add_of_le' (by omega)
      exact ⟨[], left, buildFlowItems_end, .nil, rfl, areRest⟩
  | cons item items inductionHypothesis =>
      obtain ⟨isItem, areItems⟩ := List.forall_mem_cons.mp areItems
      rw [itemKinds, List.cons_append, List.append_assoc] at areKinds
      rw [itemKinds, List.length_cons, List.length_append] at enough
      obtain ⟨⟨_, first, last⟩, inner, rfl, rfl, areInner⟩ :=
        List.map_eq_cons_iff.mp areKinds
      obtain ⟨later, rfl⟩ : ∃ later, bound = later + 1 :=
        Nat.exists_eq_add_of_le' (by omega)
      obtain ⟨node, others, renders, whole, areOthers, built⟩ :=
        builds_item setting isItem areInner
          (show 3 * (tokenKinds item).length ≤ later by omega)
      obtain ⟨nodes, left, builtOthers, renderOthers, wholeOthers, areRest⟩ :=
        inductionHypothesis areItems areOthers
          (show 3 * (itemKinds items).length ≤ later + 2 by omega)
      refine ⟨node :: nodes, left, ?_, .cons renders renderOthers, ?_, areRest⟩
      · rw [buildFlowItems_comma setting areInner, built, builtOthers]
      · rw [Node.itemCut?, whole, wholeOthers, Option.none_or]

private theorem builds_sequence {items : List Value}
    (areItems : ∀ item ∈ items, Builds item) : Builds (.sequence items) := by
  intro setting block indentless bound tokens rest areKinds enough
  obtain ⟨later, rfl⟩ := exists_steps enough
  cases items with
  | nil =>
      obtain ⟨⟨_, start, stop⟩, inner, rfl, rfl, areInner⟩ :=
        List.map_eq_cons_iff.mp areKinds
      obtain ⟨⟨_, first, last⟩, left, rfl, rfl, areRest⟩ :=
        List.map_eq_cons_iff.mp areInner
      refine ⟨.sequence (.bare start) [], left, ?_, .sequence .nil, rfl, areRest⟩
      rw [buildNode_sequence, buildFlowItems_end]
  | cons item items =>
      rw [tokenKinds, List.cons_append, List.append_assoc] at areKinds
      obtain ⟨⟨_, start, stop⟩, inner, rfl, rfl, areInner⟩ :=
        List.map_eq_cons_iff.mp areKinds
      -- A comma before the first item would change nothing.
      have withComma : (⟨.flowEntry, start, stop⟩ :: inner).map Token.kind =
          itemKinds (item :: items) ++ rest := by
        rw [List.map_cons, areInner, itemKinds, List.cons_append,
          List.append_assoc]
      obtain ⟨nodes, left, built, render, whole, areRest⟩ :=
        builds_items setting areItems withComma
          (show 3 * (itemKinds (item :: items)).length ≤ later + 1 + 2 from enough)
      rw [buildFlowItems_comma setting areInner] at built
      refine ⟨.sequence (.bare start) nodes, left, ?_, .sequence render, whole,
        areRest⟩
      rw [buildNode_sequence, built]

/-- A comma before an entry changes nothing. -/
private theorem buildFlowEntries_comma (setting : Setting) {bound : Nat}
    {key : String}
    (areKinds : tokens.map Token.kind = keyKinds key ++ rest)
    (first last : Mark) :
    buildFlowEntries setting (bound + 1) false
        ⟨⟨.flowEntry, first, last⟩ :: tokens, []⟩ =
      buildFlowEntries setting (bound + 1) true ⟨tokens, []⟩ := by
  obtain ⟨⟨_, start, stop⟩, named, rfl, rfl, _⟩ :=
    List.map_eq_cons_iff.mp areKinds
  exact buildFlowEntries_separated

/-- An entry is built as an item is. -/
private theorem builds_entry (setting : Setting) {bound : Nat} {key : String}
    {value : Value} (isValue : Builds value)
    (areKinds : tokens.map Token.kind =
      keyKinds key ++ (tokenKinds value ++ rest))
    (enough : 3 * (tokenKinds value).length ≤ bound + 1) :
    ∃ head node left, Renders value node ∧ node.cut? = none ∧
      left.map Token.kind = rest ∧
      buildFlowEntries setting (bound + 4) true ⟨tokens, []⟩ =
        ((.scalar head .quoted key, node) ::
            (buildFlowEntries setting (bound + 3) false ⟨left, []⟩).1,
          (buildFlowEntries setting (bound + 3) false ⟨left, []⟩).2) := by
  obtain ⟨⟨_, keyStart, keyStop⟩, named, rfl, rfl, areNamed⟩ :=
    List.map_eq_cons_iff.mp areKinds
  obtain ⟨⟨_, nameStart, nameStop⟩, marked, rfl, rfl, areMarked⟩ :=
    List.map_eq_cons_iff.mp areNamed
  obtain ⟨⟨_, valueStart, valueStop⟩, content, rfl, rfl, atValue⟩ :=
    List.map_eq_cons_iff.mp areMarked
  obtain ⟨node, left, built, renders, whole, areRest⟩ :=
    isValue setting false false atValue enough
  obtain ⟨kind, more, same, starts⟩ := tokenKinds_starts value
  rw [same] at atValue
  obtain ⟨⟨_, start, stop⟩, others, rfl, rfl, _⟩ :=
    List.map_eq_cons_iff.mp atValue
  exact ⟨.bare nameStart, node, left, renders, whole, areRest,
    buildFlowEntries_entry starts built⟩

private theorem builds_members (setting : Setting) {bound : Nat}
    {members : List (String × Value)}
    (areValues : ∀ member ∈ members, Builds member.2)
    (areKinds : tokens.map Token.kind = memberKinds members ++ rest)
    (enough : 3 * (memberKinds members).length ≤ bound + 2) :
    ∃ entries left,
      buildFlowEntries setting bound false ⟨tokens, []⟩ = (entries, ⟨left, []⟩) ∧
        RendersMembers members entries ∧ Node.entryCut? entries = none ∧
        left.map Token.kind = rest := by
  induction members generalizing bound tokens with
  | nil =>
      obtain ⟨⟨_, start, stop⟩, left, rfl, rfl, areRest⟩ :=
        List.map_eq_cons_iff.mp areKinds
      have three : 3 ≤ bound + 2 := enough
      obtain ⟨later, rfl⟩ : ∃ later, bound = later + 1 :=
        Nat.exists_eq_add_of_le' (by omega)
      exact ⟨[], left, buildFlowEntries_end, .nil, rfl, areRest⟩
  | cons member members inductionHypothesis =>
      obtain ⟨key, value⟩ := member
      obtain ⟨isValue, areValues⟩ := List.forall_mem_cons.mp areValues
      rw [memberKinds, List.cons_append, List.append_assoc,
        List.append_assoc] at areKinds
      rw [memberKinds, List.length_cons, List.length_append,
        List.length_append] at enough
      obtain ⟨⟨_, first, last⟩, inner, rfl, rfl, areInner⟩ :=
        List.map_eq_cons_iff.mp areKinds
      have three : (keyKinds key).length = 3 := rfl
      obtain ⟨later, rfl⟩ : ∃ later, bound = later + 4 :=
        Nat.exists_eq_add_of_le' (by omega)
      obtain ⟨head, node, others, renders, whole, areOthers, built⟩ :=
        builds_entry setting isValue areInner
          (show 3 * (tokenKinds value).length ≤ later + 1 by omega)
      obtain ⟨entries, left, builtOthers, renderOthers, wholeOthers, areRest⟩ :=
        inductionHypothesis areValues areOthers
          (show 3 * (memberKinds members).length ≤ later + 3 + 2 by omega)
      refine ⟨(.scalar head .quoted key, node) :: entries, left, ?_,
        .cons renders renderOthers, ?_, areRest⟩
      · rw [buildFlowEntries_comma setting areInner, built, builtOthers]
      · rw [Node.entryCut?, whole, wholeOthers]
        rfl

private theorem builds_object {members : List (String × Value)}
    (areValues : ∀ member ∈ members, Builds member.2) :
    Builds (.object members) := by
  intro setting block indentless bound tokens rest areKinds enough
  obtain ⟨later, rfl⟩ := exists_steps enough
  cases members with
  | nil =>
      obtain ⟨⟨_, start, stop⟩, inner, rfl, rfl, areInner⟩ :=
        List.map_eq_cons_iff.mp areKinds
      obtain ⟨⟨_, first, last⟩, left, rfl, rfl, areRest⟩ :=
        List.map_eq_cons_iff.mp areInner
      refine ⟨.mapping (.bare start) [], left, ?_, .object .nil, rfl, areRest⟩
      rw [buildNode_mapping, buildFlowEntries_end]
  | cons member members =>
      obtain ⟨key, value⟩ := member
      rw [tokenKinds, List.cons_append, List.append_assoc,
        List.append_assoc] at areKinds
      obtain ⟨⟨_, start, stop⟩, inner, rfl, rfl, areInner⟩ :=
        List.map_eq_cons_iff.mp areKinds
      have withComma : (⟨.flowEntry, start, stop⟩ :: inner).map Token.kind =
          memberKinds ((key, value) :: members) ++ rest := by
        rw [List.map_cons, areInner, memberKinds, List.cons_append,
          List.append_assoc, List.append_assoc]
      obtain ⟨entries, left, built, render, whole, areRest⟩ :=
        builds_members setting areValues withComma
          (show 3 * (memberKinds ((key, value) :: members)).length ≤
            later + 1 + 2 from enough)
      rw [buildFlowEntries_comma setting areInner] at built
      refine ⟨.mapping (.bare start) entries, left, ?_, .object render, whole,
        areRest⟩
      rw [buildNode_mapping, built]

end Builds

private theorem builds_portable {value : Value} (portable : Portable value) :
    Builds value := by
  induction portable with
  | null => exact builds_scalar rfl fun mark => .null rfl
  | boolean value =>
      cases value
      · exact builds_scalar rfl fun mark => .boolean rfl
      · exact builds_scalar rfl fun mark => .boolean rfl
  | number isWord => exact builds_scalar rfl fun mark => .number rfl
  | text printable => exact builds_scalar rfl fun mark => .text
  | sequence _ areItems => exact builds_sequence areItems
  | object _ _ areValues => exact builds_object areValues

/-- The document of tokens that start with content has no directives. -/
theorem Document.ofTokens_content {kind : TokenKind} (starts : StartsContent kind)
    {start stop : Mark} {tokens : List Token} :
    Document.ofTokens ⟨⟨kind, start, stop⟩ :: tokens, none⟩ =
      Document.ofRoot ⟨⟨"", .start⟩, [] ++ standardHandles⟩
        (⟨kind, start, stop⟩ :: tokens) := by
  cases kind <;> first | exact starts.elim | exact if_pos rfl

/-- What is written for a portable value is one document, whole, whose root is the
node of the value. -/
theorem Document.parse_portable {value : Value} (portable : Portable value) :
    ∃ root, Document.parse value.toText = ⟨root, .finished⟩ ∧
      Renders value root ∧ root.cut? = none := by
  obtain ⟨tokens, areTokens, areKinds⟩ := tokenize_portable portable
  have enough : 3 * (tokenKinds value).length ≤ 3 * tokens.length + 8 := by
    have count := congrArg List.length areKinds
    rw [List.length_map, List.length_append] at count
    omega
  obtain ⟨root, left, built, renders, whole, areRest⟩ :=
    builds_portable portable ⟨⟨"", .start⟩, [] ++ standardHandles⟩ true false
      areKinds enough
  obtain ⟨⟨_, start, stop⟩, nothing, rfl, rfl, ends⟩ :=
    List.map_eq_cons_iff.mp areRest
  obtain rfl := List.map_eq_nil_iff.mp ends
  obtain ⟨kind, more, same, starts⟩ := tokenKinds_starts value
  rw [same] at areKinds
  obtain ⟨⟨_, first, last⟩, others, rfl, rfl, _⟩ :=
    List.map_eq_cons_iff.mp areKinds
  refine ⟨root, ?_, renders, whole⟩
  rw [Document.parse, Value.toText, String.toList_ofList, areTokens,
    Document.ofTokens_content starts, Document.ofRoot, built]
  rfl

end Parley.Yaml
