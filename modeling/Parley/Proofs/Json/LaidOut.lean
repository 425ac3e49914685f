import Mathlib.Data.List.Forall2
import Parley.Proofs.Json.Skipped

/-!
Contract: lists and objects are walked through wherever blanks stand in them.

A reader that reads each of the values alone, with blanks before it, reads them
one after the other. The length of what stands between the brackets is bound
enough for the walk.

Owns: `Parses`, `Walks`, and the walks through laid-out lists and objects.
-/

namespace Parley.Json

variable {α β σ ρ : Type}

/-- Whether a reader reads a text as a value and stops behind it, whatever blanks
stand before it and whatever follows that ends it. -/
def Parses (read : List Char → Reading α) (text : List Char) (value : α) :
    Prop :=
  ∀ before rest, Blanks before → Separated rest →
    read (before ++ (text ++ rest)) = .ok (value, rest)

/-! ## The way to an entry -/

/-- What stands in front of an entry: nothing if it is the first, and otherwise a
comma behind the entry before. -/
def Introduces (first : Bool) (front : List Char) : Prop :=
  if first then front = [] else ∃ blanks, front = blanks ++ [','] ∧ Blanks blanks

theorem introduces_first : Introduces true [] := rfl

theorem introduces_next {blanks : List Char} (areBlanks : Blanks blanks) :
    Introduces false (blanks ++ [',']) :=
  ⟨blanks, rfl, areBlanks⟩

private theorem skipBlank_introduced {front : List Char}
    (introduces : Introduces false front) (rest : List Char) :
    skipBlank (front ++ rest) = ',' :: rest := by
  obtain ⟨blanks, rfl, areBlanks⟩ := introduces
  rw [List.append_assoc]
  exact skipBlank_blanks areBlanks (by decide) rest

/-- An item is found behind what introduces it and the blanks before it. -/
theorem nextItem_introduced {first : Bool} {front before : List Char}
    (introduces : Introduces first front) (areBlanks : Blanks before)
    {char : Char} (starts : StartsValue char) (rest : List Char) :
    nextItem first (front ++ (before ++ char :: rest)) =
      .ok (true, char :: rest) := by
  have found := skipBlank_blanks areBlanks starts.not_blank rest
  have notEnd : char ≠ ']' := starts.ne_closing
  cases first with
  | true =>
      obtain rfl : front = [] := introduces
      simp [nextItem, found]
  | false => simp [nextItem, skipBlank_introduced introduces, found, notEnd]

theorem nextItem_end (first : Bool) {blanks : List Char}
    (areBlanks : Blanks blanks) (rest : List Char) :
    nextItem first (blanks ++ ']' :: rest) = .ok (false, ']' :: rest) := by
  simp [nextItem, skipBlank_blanks areBlanks (show isBlank ']' = false by decide)]

/-- A key is found behind what introduces it and the blanks before it. -/
theorem nextKey_introduced {first : Bool} {front before : List Char}
    (introduces : Introduces first front) (areBlanks : Blanks before)
    (rest : List Char) :
    nextKey first (front ++ (before ++ '"' :: rest)) = .ok (true, rest) := by
  have found := skipBlank_blanks areBlanks (show isBlank '"' = false by decide)
    rest
  cases first with
  | true =>
      obtain rfl : front = [] := introduces
      simp [nextKey, found]
  | false => simp [nextKey, skipBlank_introduced introduces, found]

theorem nextKey_end (first : Bool) {blanks : List Char}
    (areBlanks : Blanks blanks) (rest : List Char) :
    nextKey first (blanks ++ '\x7d' :: rest) = .ok (false, '\x7d' :: rest) := by
  simp [nextKey, skipBlank_blanks areBlanks (show isBlank '\x7d' = false by decide)]

/-! ## The length of entries -/

/-- There are no more parts than characters if every part has one. -/
theorem Listed.length_le {lies : α → List Char → Prop} {parts : List α}
    {text : List Char} (listed : Listed lies parts text)
    (nonempty : ∀ part ∈ parts, ∀ text, lies part text → text ≠ []) :
    parts.length ≤ text.length := by
  induction listed with
  | @last part text isPart =>
      exact List.length_pos_of_ne_nil
        (nonempty part List.mem_cons_self text isPart)
  | @next part text parts rest isPart _ inductionHypothesis =>
      have others := inductionHypothesis fun other member =>
        nonempty other (List.mem_cons_of_mem _ member)
      rw [List.length_cons, List.length_append, List.length_cons]
      omega

theorem Entry.LaidOut.ne_nil {entry : Entry} {text : List Char}
    (laidOut : entry.LaidOut text) : text ≠ [] := by
  obtain ⟨before, behindKey, behindColon, after, rfl, _⟩ := laidOut
  exact List.append_ne_nil_of_right_ne_nil _ (List.cons_ne_nil _ _)

theorem Padded.ne_nil {core text : List Char} (padded : Padded core text)
    (nonempty : core ≠ []) : text ≠ [] := by
  obtain ⟨before, after, rfl, _⟩ := padded
  exact List.append_ne_nil_of_right_ne_nil _
    (List.append_ne_nil_of_left_ne_nil nonempty _)

/-! ## Lists -/

/-- Whether a reader reads the text of an item as a value. -/
structure ItemParses (read : List Char → Reading α) (item : List Char)
    (value : α) : Prop where
  begins : Begins item
  parses : Parses read item value

/-- An item is read, and then what follows the blanks behind it. -/
theorem readItems_padded {read : List Char → Reading α} {item : List Char}
    {value : α} (isItem : ItemParses read item value) {first : Bool}
    {front before rest : List Char} (introduces : Introduces first front)
    (areBlanks : Blanks before) (separated : Separated rest) (bound : Nat) :
    readItems read (bound + 1) first (front ++ (before ++ (item ++ rest))) =
      (readItems read bound false rest).map fun others =>
        (value :: others.1, others.2) := by
  obtain ⟨char, more, split, starts⟩ := isItem.begins
  have isRead := isItem.parses [] rest Blanks.nil separated
  rw [List.nil_append, split, List.cons_append] at isRead
  rw [split, List.cons_append, readItems,
    nextItem_introduced introduces areBlanks starts]
  dsimp only
  rw [isRead]

private theorem readItems_listed {read : List Char → Reading α}
    {items : List (List Char)} {text : List Char}
    (listed : Listed Padded items text) {values : List α}
    (areItems : List.Forall₂ (ItemParses read) items values) {first : Bool}
    {front : List Char} (introduces : Introduces first front) {bound : Nat}
    (enough : items.length < bound) (rest : List Char) :
    readItems read bound first (front ++ (text ++ ']' :: rest)) =
      .ok (values, rest) := by
  induction listed generalizing values first front bound with
  | @last item text padded =>
      obtain ⟨before, after, rfl, areBefore, areAfter⟩ := padded
      cases areItems with
      | @cons _ value _ values isItem noOthers =>
          cases noOthers
          obtain ⟨less, rfl⟩ : ∃ less, bound = less + 2 := ⟨bound - 2, by
            simp only [List.length_singleton] at enough
            omega⟩
          simp only [List.append_assoc]
          rw [readItems_padded isItem introduces areBefore
            ((separated_cons (by decide) rest).behind areAfter), readItems,
            nextItem_end false areAfter]
          rfl
  | @next item text items others padded _ inductionHypothesis =>
      obtain ⟨before, after, rfl, areBefore, areAfter⟩ := padded
      cases areItems with
      | @cons _ value _ values isItem areOthers =>
          obtain ⟨less, rfl⟩ : ∃ less, bound = less + 1 := ⟨bound - 1, by
            omega⟩
          have isRead := inductionHypothesis areOthers (introduces_next areAfter)
            (Nat.lt_of_succ_lt_succ enough)
          simp only [List.append_assoc, List.cons_append, List.nil_append]
            at isRead ⊢
          rw [readItems_padded isItem introduces areBefore
            ((separated_cons (by decide) _).behind areAfter), isRead]
          rfl

theorem ItemParses.ne_nil {read : List Char → Reading α}
    {items : List (List Char)} {values : List α}
    (areItems : List.Forall₂ (ItemParses read) items values) :
    ∀ item ∈ items, item ≠ [] := by
  induction areItems with
  | nil => exact fun _ absent => absurd absent List.not_mem_nil
  | cons isItem _ inductionHypothesis =>
      obtain ⟨first, more, split, _⟩ := isItem.begins
      rw [List.forall_mem_cons]
      exact ⟨split ▸ List.cons_ne_nil _ _, inductionHypothesis⟩

/-- A list is read item by item, from after its bracket, and its length is bound
enough. -/
theorem readItems_enclosed {read : List Char → Reading α}
    {items : List (List Char)} {text : List Char}
    (enclosed : Enclosed '[' ']' Padded items text) {values : List α}
    (areItems : List.Forall₂ (ItemParses read) items values)
    (rest : List Char) :
    ∃ inside, text ++ rest = '[' :: inside ∧
      ∀ bound, inside.length ≤ bound →
        readItems read bound true inside = .ok (values, rest) := by
  cases enclosed with
  | @empty blanks areBlanks =>
      cases areItems
      refine ⟨blanks ++ ']' :: rest, ?_, fun bound enough => ?_⟩
      · rw [List.cons_append, List.append_assoc, List.singleton_append]
      · obtain ⟨less, rfl⟩ : ∃ less, bound = less + 1 := ⟨bound - 1, by
          rw [List.length_append, List.length_cons] at enough
          omega⟩
        rw [readItems, nextItem_end true areBlanks]
        rfl
  | @parts _ text listed =>
      refine ⟨text ++ ']' :: rest, ?_, fun bound enough => ?_⟩
      · rw [List.cons_append, List.append_assoc, List.singleton_append]
      · have length := listed.length_le fun item member _ padded =>
          padded.ne_nil (ItemParses.ne_nil areItems item member)
        rw [List.length_append, List.length_cons] at enough
        exact readItems_listed listed areItems introduces_first (by omega) rest

/-! ## Objects -/

/-- The steps of a walk through the members of an object. Each takes a state to
the next, whatever blanks stand around the colon. -/
inductive Walks (member : σ → String → List Char → Reading (Except ρ σ)) :
    σ → List Entry → σ → Prop where
  | nil {state : σ} : Walks member state [] state
  | cons {state next last : σ} {entry : Entry} {entries : List Entry}
      {key : String} (named : Denotes entry.key key.toList)
      (taken : ∀ behindKey behindColon rest, Blanks behindKey →
        Blanks behindColon → Separated rest →
        member state key (behindKey ++ ':' :: (behindColon ++
          (entry.value ++ rest))) = .ok (.ok next, rest))
      (others : Walks member next entries last) :
      Walks member state (entry :: entries) last

private theorem foldMembers_listed
    {member : σ → String → List Char → Reading (Except ρ σ)}
    {entries : List Entry} {text : List Char}
    (listed : Listed Entry.LaidOut entries text) {state last : σ}
    (walks : Walks member state entries last) {first : Bool}
    {front : List Char} (introduces : Introduces first front) {bound : Nat}
    (enough : entries.length < bound) (rest : List Char) :
    foldMembers member bound first state (front ++ (text ++ '\x7d' :: rest)) =
      .ok (.ok last, '\x7d' :: rest) := by
  induction listed generalizing state first front bound with
  | @last entry text laidOut =>
      obtain ⟨before, behindKey, behindColon, after, rfl, areBefore,
        areBehindKey, areBehindColon, areAfter⟩ := laidOut
      cases walks with
      | cons named taken noOthers =>
          cases noOthers
          obtain ⟨less, rfl⟩ : ∃ less, bound = less + 2 := ⟨bound - 2, by
            simp only [List.length_singleton] at enough
            omega⟩
          simp only [List.append_assoc, List.cons_append]
          rw [foldMembers, nextKey_introduced introduces areBefore]
          dsimp only
          rw [readLiteral_eq_ok_iff.mpr ⟨_, rfl, named⟩]
          dsimp only
          rw [taken _ _ _ areBehindKey areBehindColon
            ((separated_cons (by decide) rest).behind areAfter)]
          dsimp only
          rw [foldMembers, nextKey_end false areAfter]
  | @next entry text entries others laidOut _ inductionHypothesis =>
      obtain ⟨before, behindKey, behindColon, after, rfl, areBefore,
        areBehindKey, areBehindColon, areAfter⟩ := laidOut
      cases walks with
      | cons named taken walksOn =>
          obtain ⟨less, rfl⟩ : ∃ less, bound = less + 1 := ⟨bound - 1, by
            omega⟩
          have walked := inductionHypothesis walksOn (introduces_next areAfter)
            (Nat.lt_of_succ_lt_succ enough)
          simp only [List.append_assoc, List.cons_append, List.nil_append]
            at walked ⊢
          rw [foldMembers, nextKey_introduced introduces areBefore]
          dsimp only
          rw [readLiteral_eq_ok_iff.mpr ⟨_, rfl, named⟩]
          dsimp only
          rw [taken _ _ _ areBehindKey areBehindColon
            ((separated_cons (by decide) _).behind areAfter)]
          exact walked

/-- An object is walked through member by member, from after its brace, and the
length of what stands there is bound enough. -/
theorem foldMembers_enclosed
    {member : σ → String → List Char → Reading (Except ρ σ)}
    {entries : List Entry} {text : List Char}
    (enclosed : Enclosed '\x7b' '\x7d' Entry.LaidOut entries text)
    {state last : σ} (walks : Walks member state entries last)
    (rest : List Char) :
    ∃ inside, text ++ rest = '\x7b' :: inside ∧
      foldMembers member inside.length true state inside =
        .ok (.ok last, '\x7d' :: rest) := by
  cases enclosed with
  | @empty blanks areBlanks =>
      cases walks
      refine ⟨blanks ++ '\x7d' :: rest, ?_, ?_⟩
      · rw [List.cons_append, List.append_assoc, List.singleton_append]
      · rw [List.length_append, List.length_cons, ← Nat.add_assoc, foldMembers,
          nextKey_end true areBlanks]
  | @parts _ text listed =>
      refine ⟨text ++ '\x7d' :: rest, ?_, ?_⟩
      · rw [List.cons_append, List.append_assoc, List.singleton_append]
      · have length := listed.length_le fun _ _ _ laidOut => laidOut.ne_nil
        refine foldMembers_listed listed walks introduces_first ?_ rest
        rw [List.length_append, List.length_cons]
        omega

end Parley.Json
