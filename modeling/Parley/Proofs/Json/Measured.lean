import Parley.Proofs.Json.LaidOut
import Parley.Proofs.Outcome

/-!
Contract: what is read as a value is what would be passed over as one.

So a reader of any well-formed value stops at its end or refuses it, and a walk
through a laid-out object that is not refused has taken each of its members.

Owns: `Measures`, `MeasuresMember`, `Walked`, and the walk back through laid-out
objects.
-/

namespace Parley.Json

variable {α σ ρ : Type}

/-- Whether a reader takes of a text what is passed over as a value. -/
def Measures (read : List Char → Reading α) : Prop :=
  ∀ ⦃text : List Char⦄ ⦃value : α⦄ ⦃rest : List Char⦄,
    read text = .ok (value, rest) →
    ∀ frames, skipInside frames text = skipOut frames rest

/-- Whether a reader of members takes a colon and then what is passed over as a
value. -/
def MeasuresMember
    (member : σ → String → List Char → Reading (Except ρ σ)) : Prop :=
  ∀ ⦃state : σ⦄ ⦃key : String⦄ ⦃text : List Char⦄ ⦃next : σ⦄
    ⦃rest : List Char⦄, member state key text = .ok (.ok next, rest) →
    ∃ start, readColon text = .ok start ∧
      ∀ frames, skipInside frames start = skipOut frames rest

/-- A reader stops at the end of a well-formed value if it does not refuse it. -/
theorem WellFormed.ends {text before rest after : List Char}
    (wellFormed : WellFormed text) (areBlanks : Blanks before)
    (separated : Separated rest)
    (passed : ∀ frames, skipInside frames (before ++ (text ++ rest)) =
      skipOut frames after) : after = rest := by
  have passedToo := passed []
  rw [skipInside_blanks areBlanks, wellFormed.skips _ _ separated, skipOut,
    skipOut] at passedToo
  exact (Except.ok.inj passedToo).symm

theorem skipInside_skipBlank (frames : List Frame) (text : List Char) :
    skipInside frames (skipBlank text) = skipInside frames text := by
  obtain ⟨before, split, areBlanks⟩ := skipBlank_split text
  exact (skipInside_blanks areBlanks).symm.trans
    (congrArg (skipInside frames) split.symm)

/-! ## Scalars -/

theorem skipLiteral_of_read {text rest : List Char} {value : String}
    (isRead : readLiteral text = .ok (value, rest)) :
    skipLiteral text = .ok rest := by
  obtain ⟨body, rfl, denotes⟩ := readLiteral_eq_ok_iff.mp isRead
  exact skipLiteral_body denotes.isBody rest

/-- From a known body the same literal is read, whatever follows. -/
theorem readLiteral_body_iff {body tail after : List Char} {value : String}
    (isBody : IsBody body) :
    readLiteral (body ++ '"' :: tail) = .ok (value, after) ↔
      Denotes body value.toList ∧ after = tail := by
  constructor
  · intro isRead
    have skipped := skipLiteral_of_read isRead
    rw [skipLiteral_body isBody] at skipped
    obtain rfl := Except.ok.inj skipped
    obtain ⟨other, same, denotes⟩ := readLiteral_eq_ok_iff.mp isRead
    rw [List.append_cancel_right same]
    exact ⟨denotes, rfl⟩
  · rintro ⟨denotes, rfl⟩
    exact readLiteral_eq_ok_iff.mpr ⟨body, rfl, denotes⟩

theorem skipWord_of_read {letters text rest : List Char} {held value : Value}
    (isRead : some ((readWord letters text).map fun after => (held, after)) =
      some (.ok (value, rest))) : readWord letters text = .ok rest := by
  obtain ⟨after, isWord, same⟩ :=
    Outcome.map_eq_ok_iff.mp (Option.some.inj isRead)
  rw [isWord, (Prod.mk.inj same).2]

/-- A scalar that is read is passed over in the same way. -/
theorem skipScalar_of_read {text rest : List Char} {value : Value}
    (isRead : readScalar? text = some (.ok (value, rest))) :
    skipScalar text = .ok rest ∧
      ∃ first more, text = first :: more ∧ first ≠ '[' ∧ first ≠ '\x7b' := by
  cases text with
  | nil => cases isRead
  | cons first more =>
      unfold readScalar? at isRead
      dsimp only at isRead
      split at isRead
      · rename_i isNull
        subst isNull
        exact ⟨skipWord_of_read isRead, _, _, rfl, by decide, by decide⟩
      split at isRead
      · rename_i isTrue
        subst isTrue
        exact ⟨skipWord_of_read isRead, _, _, rfl, by decide, by decide⟩
      split at isRead
      · rename_i isFalse
        subst isFalse
        exact ⟨skipWord_of_read isRead, _, _, rfl, by decide, by decide⟩
      split at isRead
      · rename_i isQuote
        subst isQuote
        obtain ⟨⟨held, after⟩, isText, same⟩ :=
          Outcome.map_eq_ok_iff.mp (Option.some.inj isRead)
        cases same
        exact ⟨skipLiteral_of_read isText, _, _, rfl, by decide, by decide⟩
      split at isRead
      · rename_i isNumber
        obtain ⟨⟨held, after⟩, isNumeral, same⟩ :=
          Outcome.map_eq_ok_iff.mp (Option.some.inj isRead)
        cases same
        obtain ⟨numeral, split, ends, _⟩ := readNumber_eq_ok_iff.mp isNumeral
        refine ⟨?_, first, more, rfl, ?_, ?_⟩
        · rw [split]
          exact skipScalar_number numeral ends
        · rintro rfl
          revert isNumber
          decide
        · rintro rfl
          revert isNumber
          decide
      · cases isRead

theorem skipInside_of_readScalar {text rest : List Char} {value : Value}
    (isRead : readScalar? (skipBlank text) = some (.ok (value, rest)))
    (frames : List Frame) : skipInside frames text = skipOut frames rest := by
  obtain ⟨skipped, first, more, starts, notList, notObject⟩ :=
    skipScalar_of_read isRead
  rw [starts] at skipped
  rw [skipInside_cons starts, if_neg notList, if_neg notObject, skipped]
  rfl

/-! ## Walks through objects -/

/-- An object or a list ends where its closing bracket stands. -/
theorem next_eq_end
    {next : Bool → List Char → Except Fault (Bool × List Char)} {close : Char}
    (isNext : next = nextKey ∧ close = '\x7d' ∨ next = nextItem ∧ close = ']')
    {first : Bool} {text rest : List Char}
    (isEnd : next first text = .ok (false, rest)) :
    ∃ after, rest = close :: after ∧ skipBlank text = close :: after := by
  rcases isNext with ⟨rfl, rfl⟩ | ⟨rfl, rfl⟩
  all_goals
    simp only [nextKey, nextItem] at isEnd
    split at isEnd
    · cases isEnd
    · rename_i after found
      cases isEnd
      exact ⟨after, rfl, found⟩
    · grind

/-- Where a key is found, so it is when values are passed over. -/
theorem nextKey_eq_key {first : Bool} {text start : List Char}
    (isKey : nextKey first text = .ok (true, start)) :
    if first then skipBlank text = '"' :: start
    else ∃ middle, skipBlank text = ',' :: middle ∧
      skipBlank middle = '"' :: start := by
  unfold nextKey at isKey
  split at isKey
  · cases isKey
  · cases isKey
  rename_i char rest _ found
  split at isKey
  · rename_i isFirst
    rw [isFirst, if_pos rfl]
    split at isKey
    · rename_i isQuote
      cases isKey
      rw [found, isQuote]
    · cases isKey
  · rename_i notFirst
    rw [if_neg notFirst]
    split at isKey
    · rename_i isComma
      split at isKey
      · cases isKey
      · rename_i foundToo
        cases isKey
        exact ⟨rest, by rw [found, isComma], foundToo⟩
      · cases isKey
      · cases isKey
    · cases isKey

/-- The same holds of an item. -/
theorem nextItem_eq_item {first : Bool} {text start : List Char}
    (isItem : nextItem first text = .ok (true, start)) :
    ∃ char more, start = char :: more ∧ char ≠ ']' ∧
      if first then skipBlank text = start
      else ∃ middle, skipBlank text = ',' :: middle ∧
        skipBlank middle = start := by
  unfold nextItem at isItem
  split at isItem
  · cases isItem
  · cases isItem
  rename_i char rest notEnd found
  split at isItem
  · rename_i isFirst
    cases isItem
    refine ⟨char, rest, rfl, notEnd, ?_⟩
    rw [if_pos isFirst, found]
  · rename_i notFirst
    split at isItem
    · rename_i isComma
      split at isItem
      · cases isItem
      · cases isItem
      · rename_i nonempty notClosing
        cases isItem
        cases foundToo : skipBlank rest with
        | nil => exact absurd foundToo nonempty
        | cons next more =>
            refine ⟨next, more, rfl, fun isEnd => ?_, ?_⟩
            · exact notClosing more (by rw [foundToo, isEnd])
            · rw [if_neg notFirst]
              exact ⟨rest, by rw [found, isComma], foundToo⟩
    · cases isItem

theorem closeList_eq_ok {text rest : List Char}
    (closes : closeList text = .ok rest) : skipBlank text = ']' :: rest := by
  unfold closeList at closes
  split at closes
  · rename_i found
    cases closes
    exact found
  · split at closes <;> cases closes
  · cases closes
  · cases closes

/-- At its closing bracket a list is left. -/
theorem skip_listEnd {text after : List Char}
    (found : skipBlank text = ']' :: after) (first : Bool)
    (frames : List Frame) :
    (if first then skipOpened .list frames text
      else skipOut (.list :: frames) text) = skipOut frames after := by
  split
  · rw [skipOpened_cons found]
    exact if_pos rfl
  · rw [skipOut_cons found, if_neg (by decide)]
    exact if_pos rfl

/-- Where an item is found, a value is passed over. -/
theorem skip_listItem {first : Bool} {text start : List Char}
    (isItem : nextItem first text = .ok (true, start)) (frames : List Frame) :
    (if first then skipOpened .list frames text
      else skipOut (.list :: frames) text) =
        skipInside (.list :: frames) start := by
  obtain ⟨char, more, rfl, notEnd, found⟩ := nextItem_eq_item isItem
  cases first with
  | true =>
      rw [if_pos rfl] at found ⊢
      rw [skipOpened_cons found]
      exact if_neg notEnd
  | false =>
      obtain ⟨middle, isComma, found⟩ := found
      rw [if_neg Bool.false_ne_true, skipOut_cons isComma, if_pos rfl, ← found,
        skipInside_skipBlank]
      rfl

/-- A key and the value behind its colon are an entry. -/
theorem skipEntry_member {frames : List Frame} {text start valueStart : List Char}
    (found : skipBlank text = '"' :: start) {key : String}
    {afterKey : List Char} (isRead : readLiteral start = .ok (key, afterKey))
    (isColon : readColon afterKey = .ok valueStart) :
    skipEntry .object frames text =
      skipInside (.object :: frames) valueStart := by
  have entered : skipKey text = .ok valueStart := by
    rw [skipKey, found]
    dsimp only
    rw [if_pos rfl, skipLiteral_of_read isRead]
    exact isColon
  rw [skipEntry]
  show (skipKey text >>= skipInside (.object :: frames)) = _
  rw [entered]
  rfl

/-- What is left of an object is walked through as it is passed over. -/
theorem foldMembers_measured
    {member : σ → String → List Char → Reading (Except ρ σ)}
    (measures : MeasuresMember member) {bound : Nat} {first : Bool}
    {state last : σ} {text rest : List Char}
    (walked : foldMembers member bound first state text =
      .ok (.ok last, rest)) :
    ∃ after, rest = '\x7d' :: after ∧ ∀ frames,
      (if first then skipOpened .object frames text
        else skipOut (.object :: frames) text) = skipOut frames after := by
  induction bound generalizing first state text with
  | zero => cases walked
  | succ bound inductionHypothesis =>
      obtain ⟨isEnd, _⟩ | ⟨less, start, key, afterKey, next, middle, same,
        isKey, isRead, taken, walks⟩ := foldMembers_step walked
      · obtain ⟨after, rfl, found⟩ := next_eq_end (.inl ⟨rfl, rfl⟩) isEnd
        refine ⟨after, rfl, fun frames => ?_⟩
        split
        · rw [skipOpened_cons found]
          exact if_pos rfl
        · rw [skipOut_cons found, if_neg (by decide)]
          exact if_pos rfl
      · obtain rfl := Nat.succ.inj same
        obtain ⟨valueStart, isColon, passed⟩ := measures taken
        obtain ⟨after, isRest, passedOn⟩ := inductionHypothesis walks
        refine ⟨after, isRest, fun frames => ?_⟩
        have found := nextKey_eq_key isKey
        cases first with
        | true =>
            rw [if_pos rfl] at found ⊢
            rw [skipOpened_cons found, if_neg (by decide),
              skipEntry_member (skipBlank_of_not (by decide) start) isRead
                isColon, passed]
            exact passedOn frames
        | false =>
            obtain ⟨between, isComma, found⟩ := found
            rw [if_neg Bool.false_ne_true, skipOut_cons isComma, if_pos rfl,
              skipEntry_member found isRead isColon, passed]
            exact passedOn frames

/-! ## Walks through laid-out objects -/

/-- The steps of a walk that went through some members. Each took a state to the
next with some blanks around the colon and something behind the value. -/
inductive Walked (member : σ → String → List Char → Reading (Except ρ σ)) :
    σ → List Entry → σ → Prop where
  | nil {state : σ} : Walked member state [] state
  | cons {state next last : σ} {entry : Entry} {entries : List Entry}
      {key : String} (named : Denotes entry.key key.toList)
      {behindKey behindColon rest : List Char}
      (areBehindKey : Blanks behindKey) (areBehindColon : Blanks behindColon)
      (separated : Separated rest)
      (taken : member state key (behindKey ++ ':' :: (behindColon ++
        (entry.value ++ rest))) = .ok (.ok next, rest))
      (others : Walked member next entries last) :
      Walked member state (entry :: entries) last

section Walks

variable {member : σ → String → List Char → Reading (Except ρ σ)}
  {first : Bool} {front : List Char} {bound : Nat} {state last : σ}

/-- A walk that is not refused takes the next member up to the end of its
value. -/
theorem foldMembers_entry (measures : MeasuresMember member)
    (introduces : Introduces first front) {entry : Entry}
    (isKey : IsBody entry.key) (wellFormed : WellFormed entry.value)
    {before behindKey behindColon rest after : List Char}
    (areBefore : Blanks before) (areBehindKey : Blanks behindKey)
    (areBehindColon : Blanks behindColon) (separated : Separated rest)
    (walked : foldMembers member bound first state (front ++ (before ++
      '"' :: (entry.key ++ '"' :: (behindKey ++ ':' :: (behindColon ++
        (entry.value ++ rest)))))) = .ok (.ok last, after)) :
    ∃ less key next, Denotes entry.key key.toList ∧
      member state key (behindKey ++ ':' :: (behindColon ++
        (entry.value ++ rest))) = .ok (.ok next, rest) ∧
      foldMembers member less false next rest = .ok (.ok last, after) := by
  obtain ⟨isEnd, _⟩ | ⟨less, start, key, afterKey, next, middle, _, isStart,
    isRead, taken, walks⟩ := foldMembers_step walked
  · rw [nextKey_introduced introduces areBefore] at isEnd
    cases isEnd
  rw [nextKey_introduced introduces areBefore] at isStart
  cases isStart
  obtain ⟨named, rfl⟩ := (readLiteral_body_iff isKey).mp isRead
  obtain ⟨valueStart, isColon, passed⟩ := measures taken
  rw [readColon_blanks areBehindKey] at isColon
  cases isColon
  obtain rfl := wellFormed.ends areBehindColon separated passed
  exact ⟨less, key, next, named, taken, walks⟩

private theorem foldMembers_end {blanks rest after : List Char}
    (areBlanks : Blanks blanks)
    (walked : foldMembers member bound false state (blanks ++ '\x7d' :: rest) =
      .ok (.ok last, after)) : last = state := by
  obtain ⟨_, isLast⟩ | ⟨_, _, _, _, _, _, _, isStart, _⟩ :=
    foldMembers_step walked
  · exact isLast
  · rw [nextKey_end false areBlanks] at isStart
    cases isStart

/-- A walk that is not refused went through all members that are laid out. -/
theorem foldMembers_walked (measures : MeasuresMember member)
    {entries : List Entry} {text : List Char}
    (listed : Listed Entry.LaidOut entries text)
    (areKeys : ∀ entry ∈ entries, IsBody entry.key)
    (areWellFormed : ∀ entry ∈ entries, WellFormed entry.value)
    (introduces : Introduces first front) {rest after : List Char}
    (walked : foldMembers member bound first state
      (front ++ (text ++ '\x7d' :: rest)) = .ok (.ok last, after)) :
    Walked member state entries last := by
  induction listed generalizing first front bound state with
  | @last entry text laidOut =>
      obtain ⟨before, behindKey, behindColon, behind, rfl, areBefore,
        areBehindKey, areBehindColon, areBehind⟩ := laidOut
      have separated : Separated (behind ++ '\x7d' :: rest) :=
        (separated_cons (by decide) rest).behind areBehind
      simp only [List.append_assoc, List.cons_append] at walked
      obtain ⟨less, key, next, named, taken, walks⟩ := foldMembers_entry measures
        introduces (areKeys entry List.mem_cons_self)
        (areWellFormed entry List.mem_cons_self) areBefore areBehindKey
        areBehindColon separated walked
      obtain rfl := foldMembers_end areBehind walks
      exact .cons named areBehindKey areBehindColon separated taken .nil
  | @next entry text entries others laidOut _ inductionHypothesis =>
      obtain ⟨before, behindKey, behindColon, behind, rfl, areBefore,
        areBehindKey, areBehindColon, areBehind⟩ := laidOut
      have separated : Separated
          (behind ++ ',' :: (others ++ '\x7d' :: rest)) :=
        (separated_cons (by decide) _).behind areBehind
      simp only [List.append_assoc, List.cons_append] at walked
      obtain ⟨less, key, next, named, taken, walks⟩ := foldMembers_entry measures
        introduces (areKeys entry List.mem_cons_self)
        (areWellFormed entry List.mem_cons_self) areBefore areBehindKey
        areBehindColon separated walked
      have walksOn : foldMembers member less false next
          ((behind ++ [',']) ++ (others ++ '\x7d' :: rest)) =
            .ok (.ok last, after) := by
        rw [List.append_assoc]
        exact walks
      exact .cons named areBehindKey areBehindColon separated taken
        (inductionHypothesis
          (fun other isOther => areKeys other (List.mem_cons_of_mem _ isOther))
          (fun other isOther =>
            areWellFormed other (List.mem_cons_of_mem _ isOther))
          (introduces_next areBehind) walksOn)

/-- The members of an object that was walked through were all taken. -/
theorem Enclosed.walked (measures : MeasuresMember member)
    {entries : List Entry} {text : List Char}
    (enclosed : Enclosed '\x7b' '\x7d' Entry.LaidOut entries text)
    (areKeys : ∀ entry ∈ entries, IsBody entry.key)
    (areWellFormed : ∀ entry ∈ entries, WellFormed entry.value)
    {inside rest after : List Char} (opened : text ++ rest = '\x7b' :: inside)
    (walked : foldMembers member bound true state inside =
      .ok (.ok last, after)) : Walked member state entries last := by
  cases enclosed with
  | @empty blanks areBlanks =>
      rw [List.cons_append, List.append_assoc] at opened
      obtain rfl := (List.cons.inj opened).2
      obtain ⟨_, rfl⟩ | ⟨_, _, _, _, _, _, _, isStart, _⟩ :=
        foldMembers_step walked
      · exact .nil
      · rw [List.singleton_append, nextKey_end true areBlanks] at isStart
        cases isStart
  | parts listed =>
      rw [List.cons_append, List.append_assoc] at opened
      obtain rfl := (List.cons.inj opened).2
      exact foldMembers_walked measures listed areKeys areWellFormed
        introduces_first walked

end Walks

end Parley.Json
