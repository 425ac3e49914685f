import Parley.Proofs.Yaml.Printable

/-!
Contract: the lexer on the one line of a printable text, outside of all blocks.

Such a lexer is given by how far it is, the kinds of the tokens behind it, how many
flow collections are open and the text before it. Possible keys are forgotten on the
way, which never fails, since none of them is required.

Owns: `Lexer.Stands`, `Lexer.Reaches`, and the step of a lexer that takes a token.
-/

namespace Parley.Yaml.Lexer

/-- Whether nothing but a key may start at none of the places where one could have
started. -/
def Free (lexer : Lexer) : Prop :=
  ∀ possible, some possible ∈ lexer.key :: lexer.outerKeys →
    possible.required = false

/-- Whether a lexer stands on the first line of a text, outside of all blocks. -/
structure Stands (lexer : Lexer) (count depth : Nat) (kinds : List TokenKind)
    (rest : List Char) : Prop where
  isRest : lexer.rest = rest
  whole : lexer.whole = true
  isMark : lexer.mark = .inLine count
  areKinds : lexer.tokens.reverse.map Token.kind = kinds
  noBlock : lexer.indent = -1
  isDepth : lexer.outerKeys.length = depth
  free : lexer.Free
  printable : Printable rest

theorem Stands.start {text : List Char} (printable : Printable text) :
    (start text true).Stands 0 0 [] text where
  isRest := rfl
  whole := rfl
  isMark := rfl
  areKinds := rfl
  noBlock := rfl
  isDepth := rfl
  free := by
    intro _ member
    cases List.mem_singleton.mp member
  printable := printable

/-! ## Possible keys -/

/-- A possible key, unless it can no longer be one. -/
def kept (lexer : Lexer) (key : Option PossibleKey) : Option PossibleKey :=
  if key.any lexer.isStale then none else key

/-- The lexer without the possible keys that can no longer be keys. -/
def refreshed (lexer : Lexer) : Lexer :=
  { lexer with
    key := lexer.kept lexer.key
    outerKeys := lexer.outerKeys.map lexer.kept }

theorem eq_some_of_kept {lexer : Lexer} {key : Option PossibleKey}
    {possible : PossibleKey} (isKept : lexer.kept key = some possible) :
    key = some possible := by
  unfold kept at isKept
  split at isKept
  · cases isKept
  · exact isKept

/-- Nothing is missed where no key is required. -/
theorem Free.dropStale {lexer : Lexer} (free : lexer.Free) :
    lexer.dropStale = .ok lexer.refreshed := by
  have broken (key : Option PossibleKey)
      (member : key ∈ lexer.key :: lexer.outerKeys) :
      key.any (fun possible => possible.required && lexer.isStale possible) =
        false := by
    cases key with
    | none => rfl
    | some possible =>
        show (possible.required && lexer.isStale possible) = false
        rw [free possible member, Bool.false_and]
  refine if_neg fun isBroken => ?_
  rcases Bool.or_eq_true_iff.mp isBroken with own | outer
  · exact Bool.false_ne_true ((broken _ List.mem_cons_self).symm.trans own)
  · obtain ⟨key, isKey, isBroken⟩ := List.any_eq_true.mp outer
    exact Bool.false_ne_true
      ((broken key (List.mem_cons_of_mem _ isKey)).symm.trans isBroken)

theorem Free.dropKey {lexer : Lexer} (free : lexer.Free) :
    lexer.dropKey = .ok { lexer with key := none } := by
  refine if_neg fun isRequired => ?_
  cases own : lexer.key with
  | none =>
      rw [own] at isRequired
      cases isRequired
  | some possible =>
      rw [own] at isRequired
      have notRequired := free possible (own ▸ List.mem_cons_self)
      exact Bool.false_ne_true (notRequired.symm.trans isRequired)

theorem Free.forgotten {lexer : Lexer} (free : lexer.Free) :
    Free { lexer with key := none } := by
  intro possible member
  rcases List.mem_cons.mp member with isNone | isOuter
  · cases isNone
  · exact free possible (List.mem_cons_of_mem _ isOuter)

/-- No block ends where none is open. -/
theorem closeBlocks_of_noBlock {lexer : Lexer} (noBlock : lexer.indent = -1)
    {column : Int} (notOutside : -1 ≤ column) :
    lexer.closeBlocks column = lexer := by
  unfold closeBlocks
  split
  · rfl
  · unfold closeBlocks.close
    rw [if_neg]
    rw [noBlock]
    omega

/-- The lexer that has noted a key, if one may start here. -/
def noted (lexer : Lexer) : Lexer :=
  if lexer.keyAllowed then
    { lexer with key := some ⟨lexer.tokens.length, lexer.mark, false⟩ }
  else lexer

/-- Outside of all blocks no key is required where it is noted. -/
theorem Free.noteKey {lexer : Lexer} (free : lexer.Free)
    (noBlock : lexer.indent = -1) : lexer.noteKey = .ok lexer.noted := by
  have elsewhere : (lexer.indent == (lexer.mark.column : Int)) = false := by
    rw [noBlock]
    exact beq_false_of_ne (by omega)
  unfold Lexer.noteKey noted
  rw [free.dropKey, elsewhere, Bool.and_false]
  split <;> rfl

section Standing

variable {lexer : Lexer} {count depth : Nat} {kinds : List TokenKind}
  {rest : List Char}

theorem Stands.refreshed (stands : lexer.Stands count depth kinds rest) :
    lexer.refreshed.Stands count depth kinds rest where
  isRest := stands.isRest
  whole := stands.whole
  isMark := stands.isMark
  areKinds := stands.areKinds
  noBlock := stands.noBlock
  isDepth := (List.length_map _).trans stands.isDepth
  free := by
    intro possible member
    rcases List.mem_cons.mp member with isOwn | isOuter
    · exact stands.free possible
        (eq_some_of_kept isOwn.symm ▸ List.mem_cons_self)
    · obtain ⟨key, isKey, isKept⟩ := List.mem_map.mp isOuter
      exact stands.free possible
        (List.mem_cons_of_mem _ (eq_some_of_kept isKept ▸ isKey))
  printable := stands.printable

/-- The same place with other possible keys, none of which is required. -/
theorem Stands.withKeys (stands : lexer.Stands count depth kinds rest)
    {key : Option PossibleKey} {outerKeys : List (Option PossibleKey)}
    {allowed : Bool}
    (free : Free { lexer with key, outerKeys, keyAllowed := allowed }) :
    Stands { lexer with key, outerKeys, keyAllowed := allowed } count
      outerKeys.length kinds rest :=
  ⟨stands.isRest, stands.whole, stands.isMark, stands.areKinds,
    stands.noBlock, rfl, free, stands.printable⟩

theorem Stands.noted (stands : lexer.Stands count depth kinds rest) :
    lexer.noted.Stands count depth kinds rest := by
  unfold Lexer.noted
  split
  · rw [← stands.isDepth]
    show Stands { lexer with
      key := some ⟨lexer.tokens.length, lexer.mark, false⟩
      keyAllowed := lexer.keyAllowed } _ _ _ _
    refine stands.withKeys fun possible member => ?_
    rcases List.mem_cons.mp member with isOwn | isOuter
    · cases isOwn
      rfl
    · exact stands.free possible (List.mem_cons_of_mem _ isOuter)
  · exact stands

theorem Stands.inFlow (stands : lexer.Stands count depth kinds rest) :
    lexer.inFlow = decide (0 < depth) := by
  rw [Lexer.inFlow, ← stands.isDepth]
  cases lexer.outerKeys <;> rfl

/-- Moving on over a part of the text. -/
theorem Stands.moveTo (taken : List Char)
    (stands : lexer.Stands count depth kinds (taken ++ rest)) :
    lexer.moveTo rest =
      { lexer with rest, mark := .inLine (count + taken.length) } := by
  have length : (taken ++ rest).length - rest.length = taken.length := by
    rw [List.length_append, Nat.add_sub_cancel]
  rw [Lexer.moveTo, stands.isRest, length, List.take_left, stands.isMark,
    Mark.over_inLine (Printable.append_iff.mp stands.printable).1]

theorem Stands.moved {taken : List Char}
    (stands : lexer.Stands count depth kinds (taken ++ rest)) :
    (lexer.moveTo rest).Stands (count + taken.length) depth kinds rest := by
  rw [stands.moveTo taken]
  exact ⟨rfl, stands.whole, rfl, stands.areKinds, stands.noBlock, stands.isDepth,
    stands.free, (Printable.append_iff.mp stands.printable).2⟩

/-- Taking a token. -/
theorem Stands.take (taken : List Char)
    (stands : lexer.Stands count depth kinds (taken ++ rest))
    (kind : TokenKind) :
    (lexer.take kind rest).Stands (count + taken.length) depth
      (kinds ++ [kind]) rest := by
  have moved := stands.moved
  refine ⟨moved.isRest, moved.whole, moved.isMark, ?_, moved.noBlock, moved.isDepth,
    moved.free, moved.printable⟩
  show (_ :: lexer.tokens).reverse.map Token.kind = _
  rw [List.reverse_cons, List.map_append, stands.areKinds]
  rfl

/-! ## Steps -/

/-- Whether a character starts a token, and is not skipped between two of them. -/
def StartsToken (char : Char) : Prop :=
  IsPrintable char ∧ char ≠ ' ' ∧ char ≠ '#'

instance (char : Char) : Decidable (StartsToken char) :=
  instDecidableAnd

theorem Stands.skipGaps {char : Char}
    (stands : lexer.Stands count depth kinds (char :: rest))
    (starts : StartsToken char) (bound : Nat) :
    lexer.skipGaps (bound + 1) = lexer := by
  obtain ⟨printable, notSpace, notComment⟩ := starts
  have ne (other : Char) (notPrintable : ¬ IsPrintable other) : char ≠ other :=
    fun same => notPrintable (same ▸ printable)
  have noMark : lexer.afterOrderMark = char :: rest := by
    rw [afterOrderMark, stands.isRest]
    split
    · rename_i same
      exact absurd (List.cons.inj same).1 (ne _ (by decide))
    · rfl
  have spaced : (char :: rest).dropWhile (fun char : Char => char == ' ' ||
      (char == '\t' && (lexer.inFlow || !lexer.keyAllowed))) = char :: rest := by
    refine List.dropWhile_cons_of_neg (Bool.eq_false_iff.mp ?_)
    rw [beq_false_of_ne notSpace, beq_false_of_ne (ne '\t' (by decide))]
    rfl
  have noComment : ¬ ((char :: rest).head? == some '#') = true := by
    rw [beq_iff_eq]
    exact fun same => notComment (Option.some.inj same)
  have stays : lexer.moveTo (char :: rest) = _ := Stands.moveTo [] stands
  have noBreak : ¬ (char :: rest).head?.any isBreak = true :=
    Bool.eq_false_iff.mp printable.isBreak
  rw [Lexer.skipGaps, noMark]
  dsimp only
  rw [spaced, if_neg noComment, if_neg noBreak, stays]
  show { lexer with rest := char :: rest, mark := Mark.inLine count } = lexer
  rw [← stands.isMark, ← stands.isRest]

theorem not_atUnreadable (whole : lexer.whole = true) (count : Nat) :
    ¬ lexer.atUnreadable count = true := by
  rw [atUnreadable, whole]
  exact Bool.false_ne_true

/-- The step of a lexer that takes a token. -/
theorem Stands.step_of_take {char : Char}
    (stands : lexer.Stands count depth kinds (char :: rest)) {next : Lexer}
    (taken : lexer.refreshed.takeToken char rest = .ok next)
    (whole : next.whole = true) : lexer.step = .ok next := by
  have fresh := stands.refreshed
  have column : (-1 : Int) ≤ (lexer.refreshed.mark.column : Int) := by omega
  rw [Lexer.step, stands.free.dropStale]
  dsimp only
  rw [closeBlocks_of_noBlock fresh.noBlock column,
    if_neg (not_atUnreadable fresh.whole 4), fresh.isRest]
  dsimp only
  rw [taken]
  exact if_neg (not_atUnreadable whole 1)

/-- Whether the run of a lexer goes on as that of another one, each with more steps left
than characters. -/
def Reaches (first last : Lexer) : Prop :=
  ∀ bound settled, first.rest.length < bound → ∃ later done,
    last.rest.length < later ∧ run bound settled first = run later done last

theorem Reaches.trans {first second third : Lexer}
    (front : first.Reaches second) (back : second.Reaches third) :
    first.Reaches third := by
  intro bound settled enough
  obtain ⟨middle, done, enough, same⟩ := front bound settled enough
  obtain ⟨later, last, enough, goesOn⟩ := back middle done enough
  exact ⟨later, last, enough, same.trans goesOn⟩

/-- A lexer that takes a token goes on behind it. -/
theorem Stands.reaches {char : Char}
    (stands : lexer.Stands count depth kinds (char :: rest))
    (starts : StartsToken char) {next : Lexer}
    (taken : lexer.refreshed.refreshed.takeToken char rest = .ok next)
    {place inside : Nat} {known : List TokenKind} {left : List Char}
    (there : next.Stands place inside known left)
    (shorter : left.length ≤ rest.length) : lexer.Reaches next := by
  intro bound settled enough
  have fresh := stands.refreshed
  rw [stands.isRest, List.length_cons] at enough
  obtain ⟨later, rfl⟩ := Nat.exists_eq_add_one.mpr
    (Nat.lt_of_le_of_lt (Nat.zero_le _) enough)
  refine ⟨later, lexer.refreshed.settledCount, ?_, ?_⟩
  · rw [there.isRest]
    omega
  rw [run, stands.free.dropStale]
  dsimp only
  rw [fresh.skipGaps starts, fresh.step_of_take taken there.whole]
  dsimp only
  rw [fresh.isRest]
  rfl

/-! ## The end -/

private theorem Stands.skipGaps_end (stands : lexer.Stands count depth kinds [])
    (bound : Nat) : lexer.skipGaps (bound + 1) = lexer := by
  have stays : lexer.moveTo [] = _ := Stands.moveTo [] stands
  have noMark : lexer.afterOrderMark = [] := by
    rw [afterOrderMark, stands.isRest]
  rw [Lexer.skipGaps, noMark]
  show lexer.moveTo [] = lexer
  rw [stays]
  show { lexer with rest := [], mark := Mark.inLine count } = lexer
  rw [← stands.isMark, ← stands.isRest]

theorem Free.takeEnd (free : lexer.Free) (noBlock : lexer.indent = -1) :
    ∃ next, lexer.takeEnd = .ok next ∧ next.Free ∧
      next.tokens.reverse.map Token.kind =
        lexer.tokens.reverse.map Token.kind ++ [.streamEnd] := by
  unfold Lexer.takeEnd
  generalize (if lexer.mark.column = 0 then lexer.mark
    else lexer.mark.afterBreak 0) = mark
  have moved : Free { lexer with mark } := free
  dsimp only
  rw [closeBlocks_of_noBlock (show ({ lexer with mark } : Lexer).indent = -1
    from noBlock) (by decide), moved.dropKey]
  refine ⟨_, rfl, moved.forgotten, ?_⟩
  show (_ :: lexer.tokens).reverse.map Token.kind = _
  rw [List.reverse_cons, List.map_append]
  rfl

theorem Free.finish (free : lexer.Free) (settled : Nat) :
    lexer.finish settled = ⟨lexer.tokens.reverse, none⟩ := by
  rw [Lexer.finish, free.dropStale]

/-- At the end of the text the tokens are complete. -/
theorem Stands.run_end (stands : lexer.Stands count depth kinds [])
    (bound settled : Nat) :
    ∃ tokens, run (bound + 1) settled lexer = ⟨tokens, none⟩ ∧
      tokens.map Token.kind = kinds ++ [.streamEnd] := by
  have fresh := stands.refreshed
  have again := fresh.refreshed
  obtain ⟨next, taken, free, areKinds⟩ := again.free.takeEnd again.noBlock
  have stepped : lexer.refreshed.step = .ok next := by
    have column : (-1 : Int) ≤ (lexer.refreshed.refreshed.mark.column : Int) := by
      omega
    rw [step, fresh.free.dropStale]
    dsimp only
    rw [closeBlocks_of_noBlock again.noBlock column,
      if_neg (not_atUnreadable again.whole 4), again.isRest]
    exact taken
  refine ⟨next.tokens.reverse, ?_, areKinds.trans ?_⟩
  · rw [run, stands.free.dropStale]
    dsimp only
    rw [fresh.skipGaps_end, stepped, fresh.isRest]
    exact free.finish _
  · rw [again.areKinds]

end Standing

end Parley.Yaml.Lexer
