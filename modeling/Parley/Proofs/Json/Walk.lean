import Parley.Json.Reader
import Parley.Proofs.Json.Integer
import Parley.Proofs.Json.Literal

/-!
Contract: what is written as items or members is walked through in order.

Every written value starts with a character that ends no container, and is
followed by one that continues no value. So a reader that reads each of the
values alone reads them one after the other, and the length of the text is bound
enough for the walk.

Owns: `ReadsAs`, `Takes`, and the walks through written lists and objects.
-/

namespace Parley.Json

variable {α σ ρ : Type}

/-! ## The start of a written value -/

/-- The characters that written values start with. -/
def StartsValue (char : Char) : Prop :=
  char.isDigit = true ∨ char ∈ ['-', 'n', 't', 'f', '"', '[', '\x7b']

theorem StartsValue.not_blank {char : Char} (starts : StartsValue char) :
    isBlank char = false := by
  rw [Bool.eq_false_iff, Ne, isBlank_iff]
  intro blank
  simp only [List.mem_cons, List.not_mem_nil, or_false] at blank
  unfold StartsValue at starts
  rcases blank with rfl | rfl | rfl | rfl <;> revert starts <;> decide

theorem StartsValue.ne_closing {char : Char} (starts : StartsValue char) :
    char ≠ ']' := by
  rintro rfl
  exact absurd starts (by unfold StartsValue; decide)

theorem skipBlank_of_not {char : Char} (notBlank : isBlank char = false)
    (rest : List Char) : skipBlank (char :: rest) = char :: rest :=
  List.dropWhile_cons_of_neg (by rw [notBlank]; exact Bool.false_ne_true)

/-- Behind blanks, the first character that is none is found. -/
theorem skipBlank_blanks {blanks : List Char} (areBlanks : Blanks blanks)
    {char : Char} (notBlank : isBlank char = false) (rest : List Char) :
    skipBlank (blanks ++ char :: rest) = char :: rest :=
  (skipBlank_append areBlanks _).trans (skipBlank_of_not notBlank rest)

theorem skipBlank_value {char : Char} (starts : StartsValue char)
    (rest : List Char) : skipBlank (char :: rest) = char :: rest :=
  skipBlank_of_not starts.not_blank rest

theorem skipBlank_idem (text : List Char) :
    skipBlank (skipBlank text) = skipBlank text := by
  have head := List.head?_dropWhile_not isBlank text
  cases isStart : skipBlank text with
  | nil => rfl
  | cons char rest =>
      rw [show text.dropWhile isBlank = char :: rest from isStart] at head
      exact skipBlank_of_not head rest

/-- Positional text starts with a digit. -/
theorem positional_starts (decimal : Numeric.Decimal) :
    ∃ first rest, decimal.positional = first :: rest ∧
      first.isDigit = true := by
  obtain ⟨first, rest, digits, isDigit⟩ :=
    toDigits_starts decimal.significand
  unfold Numeric.Decimal.positional Numeric.Decimal.digits
  rw [digits]
  dsimp only
  split
  · exact ⟨first, _, rfl, isDigit⟩
  split
  · rename_i fewer
    obtain ⟨whole, isWhole⟩ : ∃ whole, (first :: rest).length -
        (-decimal.exponent).toNat = whole + 1 :=
      ⟨(first :: rest).length - (-decimal.exponent).toNat - 1, by omega⟩
    rw [isWhole]
    exact ⟨first, _, rfl, isDigit⟩
  · exact ⟨'0', _, rfl, rfl⟩

private theorem scientific_starts (plusSign : Bool)
    (decimal : Numeric.Decimal) :
    ∃ first rest, decimal.scientific plusSign = first :: rest ∧
      first.isDigit = true := by
  obtain ⟨first, rest, digits, isDigit⟩ :=
    toDigits_starts decimal.significand
  unfold Numeric.Decimal.scientific Numeric.Decimal.digits
  rw [digits]
  cases rest <;> exact ⟨first, _, rfl, isDigit⟩

/-- A number starts with a digit or a minus, or is written as the empty value. -/
theorem binary_starts {format : Numeric.Format} {layout : Numeric.Layout}
    (nan : layout.nan = "null") (infinity : layout.infinity = "null")
    (negativeInfinity : layout.negativeInfinity = "null")
    (value : Numeric.Binary format) :
    ∃ first rest, (value.write layout).toList = first :: rest ∧
      StartsValue first := by
  have empty : ∃ first rest, "null".toList = first :: rest ∧
      StartsValue first :=
    ⟨'n', ['u', 'l', 'l'], rfl, .inr (by decide)⟩
  unfold Numeric.Binary.write
  split
  · rw [nan]
    exact empty
  split
  · split
    · rw [negativeInfinity]
      exact empty
    · rw [infinity]
      exact empty
  · rename_i negative rank _
    dsimp only
    rw [String.toList_ofList]
    split
    · exact ⟨'-', _, rfl, .inr (by decide)⟩
    split
    · exact ⟨'0', _, rfl, .inl rfl⟩
    unfold Numeric.Decimal.write
    split
    · obtain ⟨first, rest, same, isDigit⟩ := positional_starts
        (format.shortest layout.tie rank.val)
      exact ⟨first, rest, same, .inl isDigit⟩
    · obtain ⟨first, rest, same, isDigit⟩ := scientific_starts layout.plusSign
        (format.shortest layout.tie rank.val)
      exact ⟨first, rest, same, .inl isDigit⟩

theorem Number.write_starts (number : Number) :
    ∃ first rest, number.write = first :: rest ∧ StartsValue first := by
  cases number with
  | integer value =>
      cases value with
      | ofNat natural =>
          obtain ⟨first, rest, digits, isDigit⟩ := toDigits_starts natural
          refine ⟨first, rest, ?_, .inl isDigit⟩
          rw [← digits]
          show (toString natural).toList = _
          rw [Nat.toString_eq_ofList_toDigits, String.toList_ofList]
      | negSucc natural =>
          refine ⟨'-', (toString (natural + 1)).toList, ?_, .inr (by decide)⟩
          show ("-" ++ toString (natural + 1)).toList = _
          rw [String.toList_append]
          rfl
  | single value => exact binary_starts rfl rfl rfl value
  | double value => exact binary_starts rfl rfl rfl value

/-- What is written for a value starts like a value. -/
theorem Value.write_starts (value : Value) :
    ∃ first rest, value.write = first :: rest ∧ StartsValue first := by
  cases value with
  | null => exact ⟨'n', _, rfl, .inr (by decide)⟩
  | boolean held =>
      cases held
      · exact ⟨'f', _, rfl, .inr (by decide)⟩
      · exact ⟨'t', _, rfl, .inr (by decide)⟩
  | number held =>
      rw [write]
      exact held.write_starts
  | text held => exact ⟨'"', _, rfl, .inr (by decide)⟩
  | sequence items =>
      cases items <;> exact ⟨'[', _, rfl, .inr (by decide)⟩
  | object members =>
      cases members <;> exact ⟨'\x7b', _, rfl, .inr (by decide)⟩

/-! ## Lists -/

/-- Whether a reader reads what is written for a JSON value as a value, up to
whatever text follows it. -/
def ReadsAs (read : List Char → Reading α) (json : Value) (value : α) : Prop :=
  ∀ rest, Separated rest → read (json.write ++ rest) = .ok (value, rest)

private theorem separated_writeItems (items : List Value) (rest : List Char) :
    Separated (writeItems items ++ rest) := by
  cases items <;> exact ⟨rfl, by decide, by decide, by decide⟩

private theorem separated_writeMembers (members : List (String × Value))
    (rest : List Char) : Separated (writeMembers members ++ rest) := by
  cases members with
  | nil => exact ⟨rfl, by decide, by decide, by decide⟩
  | cons member members => exact ⟨rfl, by decide, by decide, by decide⟩

/-- An item is found where it starts. -/
theorem skipBlank_item {first : Bool} {text start : List Char}
    (isRead : nextItem first text = .ok (true, start)) :
    skipBlank start = start := by
  unfold nextItem at isRead
  split at isRead
  · cases isRead
  · cases isRead
  rename_i isStart
  split at isRead
  · cases isRead
    rw [← isStart, skipBlank_idem]
  · split at isRead
    · split at isRead
      · cases isRead
      · cases isRead
      · cases isRead
        exact skipBlank_idem _
    · cases isRead

/-- The first item of a list is found where it starts. -/
theorem nextItem_first (json : Value) (rest : List Char) :
    nextItem true (json.write ++ rest) = .ok (true, json.write ++ rest) := by
  obtain ⟨first, more, written, starts⟩ := json.write_starts
  rw [written, List.cons_append, nextItem, skipBlank_value starts]
  split
  · rename_i empty
    cases empty
  · rename_i closing
    exact absurd (List.cons.inj closing).1 starts.ne_closing
  · rename_i same
    rw [if_pos rfl, same]

/-- Another item of a list is found behind its comma. -/
theorem nextItem_comma (json : Value) (rest : List Char) :
    nextItem false (',' :: (json.write ++ rest)) =
      .ok (true, json.write ++ rest) := by
  obtain ⟨first, more, written, starts⟩ := json.write_starts
  rw [written]
  unfold nextItem
  split
  · rename_i empty
    rw [skipBlank_of_not (by decide)] at empty
    cases empty
  · rename_i closing
    rw [skipBlank_of_not (by decide)] at closing
    exact absurd (List.cons.inj closing).1 (by decide)
  rename_i char tail _ same
  rw [skipBlank_of_not (by decide)] at same
  obtain ⟨rfl, rfl⟩ := List.cons.inj same
  rw [if_neg Bool.false_ne_true, if_pos rfl, List.cons_append,
    skipBlank_value starts]
  split
  · rename_i empty
    cases empty
  · rename_i closing
    exact absurd (List.cons.inj closing).1 starts.ne_closing
  · rfl

/-- An item is read, and then those behind it. -/
theorem readItems_item {item : List Char → Reading α} {json : Value} {value : α}
    (reads : ReadsAs item json value) {first : Bool} {text : List Char}
    {items : List Value} {rest : List Char} {values : List α} {bound : Nat}
    (next : nextItem first text =
      .ok (true, json.write ++ (writeItems items ++ rest)))
    (others : readItems item bound false (writeItems items ++ rest) =
      .ok (values, rest)) :
    readItems item (bound + 1) first text = .ok (value :: values, rest) := by
  rw [readItems, next]
  dsimp only
  rw [reads _ (separated_writeItems items rest)]
  dsimp only
  rw [others]
  rfl

private theorem readItems_tail {item : List Char → Reading α}
    {write : α → Value}
    {values : List α}
    (reads : ∀ value ∈ values, ReadsAs item (write value) value) {bound : Nat}
    (enough : values.length < bound) (rest : List Char) :
    readItems item bound false (writeItems (values.map write) ++ rest) =
      .ok (values, rest) := by
  induction values generalizing bound with
  | nil =>
      cases bound with
      | zero => exact absurd enough (Nat.not_lt_zero _)
      | succ bound => rfl
  | cons value values inductionHypothesis =>
      cases bound with
      | zero => exact absurd enough (Nat.not_lt_zero _)
      | succ bound =>
          refine readItems_item (reads value List.mem_cons_self) ?_
            (inductionHypothesis
              (fun other member => reads other (List.mem_cons_of_mem _ member))
              (Nat.lt_of_succ_lt_succ enough))
          rw [List.map_cons, writeItems, List.cons_append, List.append_assoc]
          exact nextItem_comma _ _

/-- A written list is read item by item, from after its bracket. -/
theorem readItems_written {item : List Char → Reading α} {write : α → Value}
    {values : List α}
    (reads : ∀ value ∈ values, ReadsAs item (write value) value) {bound : Nat}
    (enough : values.length < bound) (rest : List Char) :
    ∃ inside, (Value.sequence (values.map write)).write ++ rest =
        '[' :: inside ∧
      readItems item bound true inside = .ok (values, rest) := by
  cases values with
  | nil =>
      refine ⟨']' :: rest, rfl, ?_⟩
      cases bound with
      | zero => exact absurd enough (Nat.not_lt_zero _)
      | succ bound => rfl
  | cons value values =>
      refine ⟨_, rfl, ?_⟩
      cases bound with
      | zero => exact absurd enough (Nat.not_lt_zero _)
      | succ bound =>
          refine readItems_item (reads value List.mem_cons_self) ?_
            (readItems_tail
              (fun other member => reads other (List.mem_cons_of_mem _ member))
              (Nat.lt_of_succ_lt_succ enough) rest)
          exact (congrArg (nextItem true) (List.append_assoc _ _ _)).trans
            (nextItem_first _ _)

/-- A written list has more characters than items. -/
theorem length_writeItems (items : List Value) :
    items.length < (writeItems items).length := by
  induction items with
  | nil => exact Nat.one_pos
  | cons item items inductionHypothesis =>
      rw [writeItems, List.length_cons, List.length_cons, List.length_append]
      omega

theorem length_write_sequence (items : List Value) :
    items.length < (Value.sequence items).write.length := by
  cases items with
  | nil => exact Nat.two_pos
  | cons item items =>
      have others := length_writeItems items
      rw [Value.write, List.length_cons, List.length_cons, List.length_append]
      omega

/-! ## Objects -/

/-- The steps of a walk through members: the text of each member, from after its
key, takes one state to the next. -/
inductive Takes (member : σ → String → List Char → Reading (Except ρ σ)) :
    σ → List (String × Value) → σ → Prop where
  | nil {state : σ} : Takes member state [] state
  | cons {state next last : σ} {key : String} {json : Value}
      {members : List (String × Value)}
      (read : ∀ rest, Separated rest →
        member state key (':' :: (json.write ++ rest)) =
          .ok (.ok next, rest))
      (others : Takes member next members last) :
      Takes member state ((key, json) :: members) last

/-- A walk through an object that is not refused is at its end, or takes a member
and goes on. -/
theorem foldMembers_step
    {member : σ → String → List Char → Reading (Except ρ σ)} {bound : Nat}
    {first : Bool} {state last : σ} {text rest : List Char}
    (walked : foldMembers member bound first state text =
      .ok (.ok last, rest)) :
    (nextKey first text = .ok (false, rest) ∧ last = state) ∨
      ∃ less start key afterKey next middle, bound = less + 1 ∧
        nextKey first text = .ok (true, start) ∧
        readLiteral start = .ok (key, afterKey) ∧
        member state key afterKey = .ok (.ok next, middle) ∧
        foldMembers member less false next middle = .ok (.ok last, rest) := by
  cases bound with
  | zero => cases walked
  | succ less =>
      rw [foldMembers] at walked
      split at walked
      · cases walked
      · rename_i after isEnd
        cases walked
        exact .inl ⟨isEnd, rfl⟩
      rename_i start isKey
      split at walked
      · cases walked
      rename_i key afterKey isRead
      split at walked
      · cases walked
      · cases walked
      · rename_i next middle taken
        exact .inr ⟨less, start, key, afterKey, next, middle, rfl, isKey, isRead,
          taken, walked⟩

theorem readLiteral_written (text : String) (rest : List Char) :
    ∃ inside, writeText text ++ rest = '"' :: inside ∧
      readLiteral inside = .ok (text, rest) := by
  refine ⟨text.toList.flatMap writeChar ++ '"' :: rest, ?_,
    readLiteral_eq_ok_iff.mpr ⟨_, rfl, denotes_written text.toList⟩⟩
  rw [writeText, List.cons_append, List.append_assoc, List.singleton_append]

/-- A member is taken, and then those behind it. -/
theorem foldMembers_member
    {member : σ → String → List Char → Reading (Except ρ σ)}
    {state next last : σ} {key : String} {json : Value}
    (read : ∀ rest, Separated rest →
      member state key (':' :: (json.write ++ rest)) = .ok (.ok next, rest))
    {first : Bool} {text inside rest : List Char}
    {members : List (String × Value)} {bound : Nat}
    (isNext : nextKey first text = .ok (true, inside))
    (isKey : readLiteral inside =
      .ok (key, ':' :: (json.write ++ (writeMembers members ++ rest))))
    (others : foldMembers member bound false next
      (writeMembers members ++ rest) = .ok (.ok last, '}' :: rest)) :
    foldMembers member (bound + 1) first state text =
      .ok (.ok last, '}' :: rest) := by
  rw [foldMembers, isNext]
  dsimp only
  rw [isKey]
  dsimp only
  rw [read _ (separated_writeMembers members rest)]
  exact others

private theorem foldMembers_tail
    {member : σ → String → List Char → Reading (Except ρ σ)} {state last : σ}
    {members : List (String × Value)} (takes : Takes member state members last)
    {bound : Nat} (enough : members.length < bound) (rest : List Char) :
    foldMembers member bound false state (writeMembers members ++ rest) =
      .ok (.ok last, '}' :: rest) := by
  induction takes generalizing bound with
  | nil =>
      cases bound with
      | zero => exact absurd enough (Nat.not_lt_zero _)
      | succ bound => rfl
  | @cons state next last key json members read _ inductionHypothesis =>
      cases bound with
      | zero => exact absurd enough (Nat.not_lt_zero _)
      | succ bound =>
          obtain ⟨inside, opened, isKey⟩ := readLiteral_written key
            (':' :: (json.write ++ (writeMembers members ++ rest)))
          refine foldMembers_member read ?_ isKey
            (inductionHypothesis (Nat.lt_of_succ_lt_succ enough))
          rw [writeMembers, List.cons_append, List.append_assoc,
            List.cons_append, List.append_assoc, opened]
          rfl

/-- A written object is walked through member by member, from after its brace. -/
theorem foldMembers_written
    {member : σ → String → List Char → Reading (Except ρ σ)} {state last : σ}
    {members : List (String × Value)} (takes : Takes member state members last)
    {bound : Nat} (enough : members.length < bound) (rest : List Char) :
    ∃ inside, (Value.object members).write ++ rest = '{' :: inside ∧
      foldMembers member bound true state inside =
        .ok (.ok last, '}' :: rest) := by
  cases takes with
  | nil =>
      refine ⟨'}' :: rest, rfl, ?_⟩
      cases bound with
      | zero => exact absurd enough (Nat.not_lt_zero _)
      | succ bound => rfl
  | @cons _ next _ key json members read others =>
      cases bound with
      | zero => exact absurd enough (Nat.not_lt_zero _)
      | succ bound =>
          obtain ⟨inside, opened, isKey⟩ := readLiteral_written key
            (':' :: (json.write ++ (writeMembers members ++ rest)))
          refine ⟨'"' :: inside, ?_, foldMembers_member read ?_ isKey
            (foldMembers_tail others (Nat.lt_of_succ_lt_succ enough) rest)⟩
          · rw [← opened, Value.write, List.cons_append, List.append_assoc,
              List.cons_append, List.append_assoc]
          · rfl

private theorem length_writeMembers (members : List (String × Value)) :
    members.length < (writeMembers members).length := by
  induction members with
  | nil => exact Nat.one_pos
  | cons member members inductionHypothesis =>
      rw [writeMembers, List.length_cons, List.length_cons, List.length_append,
        List.length_cons, List.length_append]
      omega

private theorem length_write_object (members : List (String × Value)) :
    members.length + 1 < (Value.object members).write.length := by
  cases members with
  | nil => exact Nat.lt_succ_self 1
  | cons member members =>
      have others := length_writeMembers members
      rw [Value.write, List.length_cons, List.length_cons, List.length_append,
        List.length_cons, List.length_append]
      omega

/-- What stands behind the brace of a written object is long enough for the
walk. -/
theorem foldMembers_object
    {member : σ → String → List Char → Reading (Except ρ σ)} {state last : σ}
    {members : List (String × Value)} (takes : Takes member state members last)
    (rest : List Char) :
    ∃ inside, (Value.object members).write ++ rest = '\x7b' :: inside ∧
      foldMembers member inside.length true state inside =
        .ok (.ok last, '\x7d' :: rest) := by
  have length := length_write_object members
  cases written : (Value.object members).write with
  | nil =>
      rw [written] at length
      exact absurd length (Nat.not_lt_zero _)
  | cons brace more =>
      have enough : members.length < (more ++ rest).length := by
        rw [written, List.length_cons] at length
        rw [List.length_append]
        omega
      obtain ⟨inside, opened, walked⟩ := foldMembers_written takes enough rest
      rw [written, List.cons_append, List.cons.injEq] at opened
      rw [opened.2] at walked
      exact ⟨inside, by rw [List.cons_append, opened.1, opened.2], walked⟩

end Parley.Json
