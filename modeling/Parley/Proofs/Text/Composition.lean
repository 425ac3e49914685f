import Parley.Proofs.Text.Parts
import Parley.Text.Composition

/-!
Contract: composing a text keeps its spaces and control characters.

No table of characters mentions one of them, so none is taken apart, moved to
other marks or joined with another character.

Owns: `IsControlOrSpace`, `CodePoints.IsVisible`, tables that are read line by
line, and what `compose` keeps.
-/

namespace Parley.Text

/-- Whether a character is a space or a control character before it. -/
def IsControlOrSpace (char : Char) : Prop :=
  char.toNat ≤ 0x20

theorem IsControlOrSpace.not_le {char : Char} (low : IsControlOrSpace char)
    {bound : Char} (beyond : 0x20 < bound.toNat) : ¬ bound ≤ char := by
  have isLow : char.toNat ≤ 0x20 := low
  intro above
  have isAbove : bound.toNat ≤ char.toNat := above
  omega

theorem IsControlOrSpace.ne {char : Char} (low : IsControlOrSpace char)
    {other : Char} (beyond : 0x20 < other.toNat) : other ≠ char := by
  rintro rfl
  exact low.not_le beyond (Nat.le_refl _)

/-- Such a character is a byte. -/
theorem IsControlOrSpace.toNat_byte {char : Char} (low : IsControlOrSpace char) :
    (UInt8.ofNat char.toNat).toNat = char.toNat := by
  have isLow : char.toNat ≤ 0x20 := low
  rw [UInt8.toNat_ofNat']
  exact Nat.mod_eq_of_lt (by omega)

theorem IsControlOrSpace.single {char : Char} (low : IsControlOrSpace char) :
    UInt8.ofNat char.toNat < 0x80 := by
  have isLow : char.toNat ≤ 0x20 := low
  rw [UInt8.lt_iff_toNat_lt, low.toNat_byte]
  exact Nat.lt_of_le_of_lt isLow (by decide)

theorem IsControlOrSpace.utf8EncodeChar {char : Char}
    (low : IsControlOrSpace char) :
    String.utf8EncodeChar char = [UInt8.ofNat char.toNat] := by
  have isLow : char.toNat ≤ 0x7F := Nat.le_trans low (by decide)
  unfold String.utf8EncodeChar
  exact if_pos isLow

/-! ## Tables -/

/-- What holds of every entry of each line holds of every entry of a table. -/
theorem forall_mem_table {α : Type} {lines : List String}
    {read? : List Char → Option α} {holds : α → Bool}
    (each : ∀ line ∈ lines,
      ((splitAt ' ' line.toList).filterMap read?).all holds = true) :
    ∀ entry ∈ lines.flatMap
        (fun line => (splitAt ' ' line.toList).filterMap read?),
      holds entry = true := by
  intro entry member
  obtain ⟨line, isLine, isEntry⟩ := List.mem_flatMap.mp member
  exact List.all_eq_true.mp (each line isLine) entry isEntry

/-- Whether a set holds no space and no control character before it. -/
def CodePoints.IsVisible (set : CodePoints) : Prop :=
  ∀ range ∈ set.ranges, decide (0x20 < range.1) = true

theorem CodePoints.IsVisible.contains {set : CodePoints} (visible : set.IsVisible)
    {char : Char} (low : IsControlOrSpace char) : set.contains char = false := by
  rw [CodePoints.contains, List.any_eq_false]
  intro range member inside
  have beyond : 0x20 < range.1 := of_decide_eq_true (visible range member)
  rw [Bool.and_eq_true, decide_eq_true_eq] at inside
  have isLow : char.toNat ≤ 0x20 := low
  omega

namespace Mark

private theorem classes_visible : ∀ entry ∈ classes, entry.2.IsVisible := by
  refine List.forall_mem_map.mpr ?_
  unfold classRanges
  repeat' first
    | exact List.forall_mem_nil _
    | refine List.forall_mem_cons.mpr ⟨forall_mem_table ?_, ?_⟩
    | refine List.forall_mem_cons.mpr ⟨?_, ?_⟩
  all_goals
    rw [String.toList_ofList]
    decide +kernel

private theorem combiningClass_low {char : Char} (low : IsControlOrSpace char) :
    combiningClass char = 0 := by
  have none : classes.find? (fun entry => entry.2.contains char) = .none :=
    List.find?_eq_none.mpr fun entry member => by
      rw [(classes_visible entry member).contains low]
      exact Bool.false_ne_true
  rw [combiningClass, none]
  rfl

end Mark

namespace Composition

/-- No composite is, or is made of, a space or a control character before it. -/
theorem composites_visible : ∀ entry ∈ composites,
    (decide (0x20 < entry.first.toNat) && decide (0x20 < entry.second.toNat) &&
      decide (0x20 < entry.whole.toNat)) = true := by
  refine forall_mem_table ?_
  unfold pairText
  repeat' first
    | exact List.forall_mem_nil _
    | refine List.forall_mem_cons.mpr ⟨?_, ?_⟩
  all_goals
    rw [String.toList_ofList]
    decide +kernel

theorem visible_of_mem {entry : Composite} (member : entry ∈ composites) :
    0x20 < entry.first.toNat ∧ 0x20 < entry.second.toNat ∧
      0x20 < entry.whole.toNat := by
  have visible := composites_visible entry member
  rw [Bool.and_eq_true, Bool.and_eq_true, decide_eq_true_eq, decide_eq_true_eq,
    decide_eq_true_eq] at visible
  exact ⟨visible.1.1, visible.1.2, visible.2⟩

variable {low : Char} (isLow : IsControlOrSpace low)
include isLow

theorem not_le_low {bound : Nat} (beyond : 0x20 < bound) :
    ¬ bound ≤ low.toNat :=
  Nat.not_le_of_lt (Nat.lt_of_le_of_lt isLow beyond)

private theorem parts?_low : parts? low = none := by
  have none : composites.find? (fun entry => entry.whole == low) = .none :=
    List.find?_eq_none.mpr fun entry member found =>
      isLow.ne (visible_of_mem member).2.2 (beq_iff_eq.mp found)
  have notSyllable : ¬ syllableBase ≤ low.toNat := not_le_low isLow (by decide)
  unfold parts?
  dsimp only
  rw [if_neg fun syllable => notSyllable syllable.1, none]
  rfl

private theorem composite?_low_left (second : Char) :
    composite? low second = none := by
  have none : composites.find?
      (fun entry => entry.first == low && entry.second == second) = .none :=
    List.find?_eq_none.mpr fun entry member found =>
      isLow.ne (visible_of_mem member).1
        (beq_iff_eq.mp (Bool.and_eq_true_iff.mp found).1)
  have notLeading : ¬ leadingBase ≤ low.toNat := not_le_low isLow (by decide)
  have notSyllable : ¬ syllableBase ≤ low.toNat := not_le_low isLow (by decide)
  unfold composite?
  dsimp only
  rw [if_neg fun syllable => notLeading syllable.1,
    if_neg fun syllable => notSyllable syllable.1, none]
  rfl

private theorem composite?_low_right (first : Char) :
    composite? first low = none := by
  have none : composites.find?
      (fun entry => entry.first == first && entry.second == low) = .none :=
    List.find?_eq_none.mpr fun entry member found =>
      isLow.ne (visible_of_mem member).2.1
        (beq_iff_eq.mp (Bool.and_eq_true_iff.mp found).2)
  have notVowel : ¬ vowelBase ≤ low.toNat := not_le_low isLow (by decide)
  have notTrailing : ¬ trailingBase ≤ low.toNat := not_le_low isLow (by decide)
  unfold composite?
  dsimp only
  rw [if_neg fun syllable => notVowel syllable.2.2.1,
    if_neg fun syllable => notTrailing (Nat.le_of_lt syllable.2.2.2.1), none]
  rfl

/-! ## Composing -/

omit isLow in
private theorem mem_placeMark {char other : Char} {text : List Char} :
    char ∈ placeMark other text ↔ char = other ∨ char ∈ text := by
  induction text with
  | nil => exact List.mem_cons
  | cons next rest inductionHypothesis =>
      rw [placeMark]
      split
      · rw [List.mem_cons, inductionHypothesis, List.mem_cons]
        exact or_left_comm
      · exact List.mem_cons

omit isLow in
/-- Putting marks in order keeps all characters. -/
theorem mem_reorder {char : Char} {text : List Char} :
    char ∈ reorder text ↔ char ∈ text := by
  induction text with
  | nil => exact Iff.rfl
  | cons first rest inductionHypothesis =>
      rw [reorder, List.foldr_cons, mem_placeMark, List.mem_cons]
      exact or_congr_right inductionHypothesis

/-- One more character takes none of them away. -/
theorem Joining.mem_step {joining : Joining} (member : low ∈ joining.chars)
    (char : Char) : low ∈ (joining.step char).chars := by
  unfold step
  dsimp only
  split
  · rename_i whole joined
    -- What was joined with the character is not the one that is looked for.
    split at joined
    · cases joined
    · obtain ⟨base, isBase, isWhole⟩ := Option.bind_eq_some_iff.mp joined
      rw [chars, isBase] at member
      rcases List.mem_append.mp member with isMark | other
      · exact List.mem_append_left _ isMark
      · rcases List.mem_cons.mp other with rfl | isSettled
        · rw [composite?_low_left isLow] at isWhole
          cases isWhole
        · exact List.mem_append_right _ (List.mem_cons_of_mem _ isSettled)
  · split
    · exact List.mem_cons_of_mem _ member
    · exact List.mem_cons_of_mem _ member

private theorem Joining.mem_step_self (joining : Joining) :
    low ∈ (joining.step low).chars := by
  have notJoined : (joining.base.bind fun base => composite? base low) = none := by
    cases joining.base with
    | none => rfl
    | some base => exact composite?_low_right isLow base
  unfold step
  dsimp only
  rw [notJoined, ite_self, Mark.combiningClass_low isLow]
  exact List.mem_cons_self

/-- Composing a text keeps its spaces and control characters. -/
theorem mem_compose {text : List Char} (member : low ∈ text) :
    low ∈ compose text := by
  have apart : low ∈ reorder (text.flatMap (decompose depth)) := by
    refine mem_reorder.mpr (List.mem_flatMap.mpr ⟨low, member, ?_⟩)
    rw [depth, decompose, parts?_low isLow]
    exact List.mem_singleton_self low
  have joins (joining : Joining) (rest : List Char)
      (present : low ∈ joining.chars ∨ low ∈ rest) :
      low ∈ (rest.foldl Joining.step joining).chars := by
    induction rest generalizing joining with
    | nil => exact present.resolve_right List.not_mem_nil
    | cons char rest inductionHypothesis =>
        refine inductionHypothesis (joining.step char) ?_
        rcases present with earlier | present
        · exact .inl (Joining.mem_step isLow earlier char)
        · rcases List.mem_cons.mp present with rfl | later
          · exact .inl (Joining.mem_step_self isLow joining)
          · exact .inr later
  rw [compose, List.mem_reverse]
  exact joins _ _ (.inr apart)

end Composition

end Parley.Text
