import Parley.Proofs.Yaml.Scalars
import Parley.Proofs.Yaml.Standing

/-!
Contract: the tokens of flow collections on one line.

Brackets, commas and colons are tokens of their own, a written string is a quoted
scalar and a word is a plain one. A key is recognised by the colon behind it if it is
not too long.

Owns: `IsKey`, and the tokens that a lexer on one line takes.
-/

namespace Parley.Yaml

open Parley.Json (writeText)

/-- Whether a text may be a key: its characters are printable, and it is short enough
to be recognised. -/
def IsKey (key : String) : Prop :=
  Printable key.toList ∧ (writeText key).length ≤ 1024

instance (key : String) : Decidable (IsKey key) :=
  inferInstanceAs (Decidable (Printable key.toList ∧ (writeText key).length ≤ 1024))

/-- The tokens of an entry before its value. -/
def keyKinds (key : String) : List TokenKind :=
  [.key, .scalar .quoted key, .value]

/-! ## Which token is taken -/

/-- The brackets that open a flow collection, with their tokens. -/
def openings : List (Char × TokenKind) :=
  [('[', .flowSequenceStart), ('\x7b', .flowMappingStart)]

/-- The brackets that close one. -/
def closings : List (Char × TokenKind) :=
  [(']', .flowSequenceEnd), ('\x7d', .flowMappingEnd)]

theorem IsWord.head {first : Char} {word : List Char}
    (isWord : IsWord (first :: word)) :
    (first.isDigit = true ∨ first ∈ ['n', 't', 'f']) ∨
      first = '-' ∧ ∃ next more, word = next :: more := by
  obtain ⟨char, more, isFirst, same | same⟩ := isWord.starts
  · obtain ⟨rfl, rfl⟩ := List.cons.inj same
    exact .inl isFirst
  · obtain ⟨rfl, rfl⟩ := List.cons.inj same
    exact .inr ⟨rfl, char, more, rfl⟩

theorem atTriple_of_head {char mark : Char} (differs : char ≠ mark)
    (rest : List Char) : atTriple mark (char :: rest) = false :=
  atTriple_of_ne [] (by decide) differs rest

namespace Lexer

variable {lexer : Lexer} {rest : List Char}

theorem startsToken_bracket {mark : Char} {kind : TokenKind}
    (isMark : (mark, kind) ∈ openings ++ closings) : StartsToken mark := by
  simp only [openings, closings, List.cons_append, List.nil_append,
    List.mem_cons, Prod.mk.injEq, List.not_mem_nil, or_false] at isMark
  rcases isMark with ⟨rfl, _⟩ | ⟨rfl, _⟩ | ⟨rfl, _⟩ | ⟨rfl, _⟩ <;> decide

/-- The brackets of a flow collection are taken as its start and its end. -/
theorem takeToken_bracket {mark : Char} {kind : TokenKind}
    {take : Lexer → TokenKind → Except Malformation Lexer}
    (isMark : (mark, kind) ∈ openings ∧ take = takeFlowStart ∨
      (mark, kind) ∈ closings ∧ take = takeFlowEnd) :
    lexer.takeToken mark rest = take lexer kind := by
  simp only [openings, closings, List.mem_cons, Prod.mk.injEq,
    List.not_mem_nil, or_false] at isMark
  rcases isMark with ⟨⟨rfl, rfl⟩ | ⟨rfl, rfl⟩, rfl⟩ |
    ⟨⟨rfl, rfl⟩ | ⟨rfl, rfl⟩, rfl⟩ <;>
    simp [takeToken, atTriple_of_head]

private theorem takeToken_comma : lexer.takeToken ',' rest = lexer.takeFlowEntry
    := by
  simp [takeToken, atTriple_of_head]

private theorem takeToken_colon (inFlow : lexer.inFlow = true) :
    lexer.takeToken ':' rest = lexer.takeValue := by
  simp [takeToken, atTriple_of_head, inFlow]

private theorem takeToken_quote :
    lexer.takeToken '"' rest =
      lexer.takeContent (scanQuoted '"' lexer.mark.column ('"' :: rest))
        fun content => .scalar .quoted (String.ofList content) := by
  simp [takeToken, atTriple_of_head]

private theorem startsPlain_word (inFlow : Bool) {first : Char}
    {word : List Char}
    (rest : List Char) (isWord : IsWord (first :: word)) :
    startsPlain inFlow first (word ++ rest) = true ∧
      ¬ (first = '-' ∧ atGap (word ++ rest) = true) := by
  have inWord := isWord.inWord
  obtain isFirst | ⟨rfl, next, more, rfl⟩ := isWord.head
  · have isChar := inWord first List.mem_cons_self
    have ne (other : Char) (notInWord : ¬ InWord other) : first ≠ other :=
      isChar.ne notInWord
    have notDash : first ≠ '-' := by
      rintro rfl
      exact absurd isFirst (by decide)
    refine ⟨?_, fun isDash => notDash isDash.1⟩
    simp (disch := decide) [startsPlain, isChar.notGap, ne, notDash]
  · have notGap :=
      (inWord next (List.mem_cons_of_mem _ List.mem_cons_self)).notGap
    have notSpace := (Bool.or_eq_false_iff.mp notGap).1
    refine ⟨?_, fun isDash => Bool.false_ne_true (notGap.symm.trans isDash.2)⟩
    simp [startsPlain, notSpace]

private theorem takeToken_word {first : Char} {word : List Char}
    (isWord : IsWord (first :: word)) :
    lexer.takeToken first (word ++ rest) = lexer.takePlain := by
  have noDash := isWord.not_atTriple (.inl rfl) rest
  have noPoint := isWord.not_atTriple (.inr rfl) rest
  rw [List.cons_append] at noDash noPoint
  obtain ⟨startsPlain, notItem⟩ :=
    startsPlain_word lexer.inFlow rest isWord
  have ne (other : Char) (notInWord : ¬ InWord other) : first ≠ other :=
    (isWord.inWord first List.mem_cons_self).ne notInWord
  simp (disch := decide) [takeToken, noDash, noPoint, notItem, startsPlain, ne]

/-! ## Tokens -/

section Tokens

variable {count depth : Nat} {kinds : List TokenKind}

theorem Stands.takeChars {mark : Char}
    (stands : lexer.Stands count depth kinds (mark :: rest))
    (kind : TokenKind) :
    (lexer.takeChars kind 1).Stands (count + 1) depth (kinds ++ [kind]) rest := by
  rw [Lexer.takeChars, stands.isRest]
  exact Stands.take [mark] stands kind

/-- A bracket opens a collection, in which a key may start. -/
theorem Stands.opens (mark : Char) (kind : TokenKind)
    (isMark : (mark, kind) ∈ openings)
    (stands : lexer.Stands count depth kinds (mark :: rest)) :
    ∃ next, lexer.Reaches next ∧
      next.Stands (count + 1) (depth + 1) (kinds ++ [kind]) rest ∧
      next.keyAllowed = true := by
  have fresh := stands.refreshed.refreshed
  have noted := fresh.noted
  have starts := startsToken_bracket (List.mem_append_left _ isMark)
  have opened : Stands
      { lexer.refreshed.refreshed.noted with
        key := none
        outerKeys := lexer.refreshed.refreshed.noted.key ::
          lexer.refreshed.refreshed.noted.outerKeys
        keyAllowed := true } count (depth + 1) kinds (mark :: rest) := by
    rw [← noted.isDepth]
    refine noted.withKeys fun possible member => ?_
    rcases List.mem_cons.mp member with isOwn | isOuter
    · cases isOwn
    · exact noted.free possible isOuter
  have there := opened.takeChars kind
  refine ⟨_, stands.reaches starts ?_ there (Nat.le_refl _), there, rfl⟩
  rw [takeToken_bracket (.inl ⟨isMark, rfl⟩), takeFlowStart,
    fresh.free.noteKey fresh.noBlock]
  rfl

/-- A bracket closes the innermost collection. -/
theorem Stands.closes (mark : Char) (kind : TokenKind)
    (isMark : (mark, kind) ∈ closings)
    (stands : lexer.Stands count (depth + 1) kinds (mark :: rest)) :
    ∃ next, lexer.Reaches next ∧
      next.Stands (count + 1) depth (kinds ++ [kind]) rest := by
  have fresh := stands.refreshed.refreshed
  have starts := startsToken_bracket (List.mem_append_right _ isMark)
  obtain ⟨key, outerKeys, areKeys⟩ : ∃ key outerKeys,
      lexer.refreshed.refreshed.outerKeys = key :: outerKeys :=
    List.exists_cons_of_length_eq_add_one fresh.isDepth
  have closed : Stands
      { lexer.refreshed.refreshed with key, outerKeys, keyAllowed := false }
      count depth kinds (mark :: rest) := by
    have isDepth := fresh.isDepth
    rw [areKeys, List.length_cons] at isDepth
    rw [← Nat.succ.inj isDepth]
    refine fresh.withKeys fun possible member => ?_
    exact fresh.free possible (List.mem_cons_of_mem _ (areKeys ▸ member))
  have there := closed.takeChars kind
  refine ⟨_, stands.reaches starts ?_ there (Nat.le_refl _), there⟩
  simp only [takeToken_bracket (.inr ⟨isMark, rfl⟩), takeFlowEnd,
    fresh.free.dropKey, Except.map, areKeys]
  rfl

/-- Behind a comma a key may start. -/
theorem Stands.separates
    (stands : lexer.Stands count (depth + 1) kinds (',' :: rest)) :
    ∃ next, lexer.Reaches next ∧
      next.Stands (count + 1) (depth + 1) (kinds ++ [.flowEntry]) rest ∧
      next.keyAllowed = true := by
  have fresh := stands.refreshed.refreshed
  have cleared : Stands
      { lexer.refreshed.refreshed with key := none, keyAllowed := true }
      count (depth + 1) kinds (',' :: rest) := by
    rw [← fresh.isDepth]
    exact fresh.withKeys fresh.free.forgotten
  have there := cleared.takeChars .flowEntry
  refine ⟨_, stands.reaches (by decide) ?_ there (Nat.le_refl _), there, rfl⟩
  rw [takeToken_comma, takeFlowEntry, fresh.free.dropKey]
  rfl

/-- A token with content, where a key may start or not. -/
theorem Stands.takeContent {α : Type} {taken : List Char}
    (stands : lexer.Stands count depth kinds (taken ++ rest)) (content : α)
    (kind : α → TokenKind) :
    lexer.takeContent (.ok (content, rest)) kind =
        .ok ((lexer.noted.allowKey false).take (kind content) rest) ∧
      ((lexer.noted.allowKey false).take (kind content) rest).Stands
        (count + taken.length) depth (kinds ++ [kind content]) rest := by
  constructor
  · rw [Lexer.takeContent, stands.free.noteKey stands.noBlock]
    rfl
  · have noted := stands.noted
    have closed : Stands (lexer.noted.allowKey false) count depth kinds
        (taken ++ rest) := by
      rw [← noted.isDepth]
      exact noted.withKeys noted.free
    exact closed.take taken (kind content)

/-- A word is a plain scalar. -/
theorem Stands.takesWord {word : List Char} (isWord : IsWord word)
    (ends : EndsWord (decide (0 < depth)) rest)
    (stands : lexer.Stands count depth kinds (word ++ rest)) :
    ∃ next, lexer.Reaches next ∧
      next.Stands (count + word.length) depth
        (kinds ++ [.scalar .plain (String.ofList word)]) rest := by
  have fresh := stands.refreshed.refreshed
  obtain ⟨taken, there⟩ := fresh.takeContent ⟨word, false⟩
    fun plain : PlainText => .scalar .plain (String.ofList plain.text)
  obtain ⟨first, more, rfl⟩ : ∃ first more, word = first :: more := by
    obtain ⟨first, more, _, rfl | rfl⟩ := isWord.starts <;> exact ⟨_, _, rfl⟩
  have printable := isWord.printable first List.mem_cons_self
  have inWord := isWord.inWord first List.mem_cons_self
  have atFirst : lexer.Stands count depth kinds (first :: (more ++ rest)) := stands
  refine ⟨_, atFirst.reaches
    ⟨printable, inWord.ne (by decide), inWord.ne (by decide)⟩ ?_ there ?_, there⟩
  · rw [takeToken_word isWord, takePlain, fresh.isRest, fresh.inFlow,
      isWord.scanPlain ends]
    dsimp only
    rw [taken]
    rfl
  · rw [List.length_append]
    omega

/-- A written string is a quoted scalar. -/
theorem Stands.takeText {text : String} (printable : Printable text.toList)
    (stands : lexer.Stands count depth kinds (writeText text ++ rest)) :
    lexer.refreshed.refreshed.takeToken '"'
          (text.toList.flatMap Json.writeChar ++ ['"'] ++ rest) =
        .ok ((lexer.refreshed.refreshed.noted.allowKey false).take
          (.scalar .quoted text) rest) ∧
      ((lexer.refreshed.refreshed.noted.allowKey false).take
          (.scalar .quoted text) rest).Stands
        (count + (writeText text).length) depth
        (kinds ++ [.scalar .quoted text]) rest := by
  have fresh := stands.refreshed.refreshed
  have isRest := (Printable.append_iff.mp stands.printable).2
  obtain ⟨taken, there⟩ := fresh.takeContent text.toList
    fun content => .scalar .quoted (String.ofList content)
  rw [String.ofList_toList] at taken there
  refine ⟨?_, there⟩
  have scanned := scanQuoted_written printable isRest
    lexer.refreshed.refreshed.mark.column
  rw [takeToken_quote]
  show lexer.refreshed.refreshed.takeContent
    (scanQuoted '"' _ (writeText text ++ rest)) _ = _
  rw [scanned, taken]

theorem Stands.takesText {text : String} (printable : Printable text.toList)
    (stands : lexer.Stands count depth kinds (writeText text ++ rest)) :
    ∃ next, lexer.Reaches next ∧
      next.Stands (count + (writeText text).length) depth
        (kinds ++ [.scalar .quoted text]) rest := by
  obtain ⟨taken, there⟩ := stands.takeText printable
  have atQuote : lexer.Stands count depth kinds
      ('"' :: (text.toList.flatMap Json.writeChar ++ ['"'] ++ rest)) := stands
  exact ⟨_, atQuote.reaches (by decide) taken there
    (List.suffix_append _ rest).length_le, there⟩

theorem kept_of_not_stale {possible : PossibleKey}
    (notStale : lexer.isStale possible = false) :
    lexer.kept (some possible) = some possible :=
  if_neg (Bool.eq_false_iff.mp notStale)

/-- A colon makes a key of the token before it, if a key was noted there. -/
theorem Stands.takesColon (before : List Token) {token : Token} {mark : Mark}
    (areTokens : lexer.tokens = token :: before)
    (isKey : lexer.key = some ⟨before.length, mark, false⟩)
    (notStale : lexer.isStale ⟨before.length, mark, false⟩ = false)
    (stands : lexer.Stands count (depth + 1) (kinds ++ [token.kind])
      (':' :: rest)) :
    ∃ next, lexer.Reaches next ∧
      next.Stands (count + 1) (depth + 1) (kinds ++ [.key, token.kind, .value])
        rest := by
  have fresh := stands.refreshed.refreshed
  have inFlow : lexer.refreshed.refreshed.inFlow = true :=
    fresh.inFlow.trans (decide_eq_true (Nat.succ_pos depth))
  have ownKey : lexer.refreshed.refreshed.key =
      some ⟨before.length, mark, false⟩ := by
    show lexer.kept (lexer.kept lexer.key) = _
    rw [isKey, kept_of_not_stale notStale, kept_of_not_stale notStale]
  have inserted : (lexer.refreshed.refreshed.insert before.length .key
      mark).tokens = token :: ⟨.key, mark, mark⟩ :: before := by
    show lexer.tokens.take (lexer.tokens.length - before.length) ++
      ⟨.key, mark, mark⟩ ::
        lexer.tokens.drop (lexer.tokens.length - before.length) = _
    rw [areTokens, List.length_cons, Nat.add_sub_cancel_left]
    rfl
  have keyed : Stands
      { lexer.refreshed.refreshed.insert before.length .key mark with
        key := none
        keyAllowed := false } count (depth + 1)
      (kinds ++ [.key, token.kind]) (':' :: rest) := by
    refine ⟨fresh.isRest, fresh.whole, fresh.isMark, ?_, fresh.noBlock,
      fresh.isDepth, fresh.free.forgotten, fresh.printable⟩
    have areKinds := stands.areKinds
    rw [areTokens, List.reverse_cons, List.map_append] at areKinds
    have front := (List.append_inj' areKinds rfl).1
    show (Lexer.insert _ _ _ _).tokens.reverse.map Token.kind = _
    rw [inserted, List.reverse_cons, List.reverse_cons, List.append_assoc,
      List.map_append, front]
    rfl
  have there := keyed.takeChars .value
  rw [List.append_assoc] at there
  refine ⟨_, stands.reaches (by decide) ?_ there (Nat.le_refl _), there⟩
  have notBlock : Lexer.openBlock
      (lexer.refreshed.refreshed.insert before.length .key mark)
      mark.column before.length .blockMappingStart mark =
        lexer.refreshed.refreshed.insert before.length .key mark :=
    if_pos (Bool.or_eq_true_iff.mpr (.inl inFlow))
  rw [takeToken_colon inFlow, takeValue, ownKey]
  dsimp only
  rw [notBlock]
  rfl

/-- A key with the colon behind it. -/
theorem Stands.takesKey {key : String} (isKey : IsKey key)
    (allowed : lexer.keyAllowed = true)
    (stands : lexer.Stands count (depth + 1) kinds
      (writeText key ++ ':' :: rest)) :
    ∃ next, lexer.Reaches next ∧
      next.Stands (count + (writeText key).length + 1) (depth + 1)
        (kinds ++ keyKinds key) rest := by
  have fresh := stands.refreshed.refreshed
  obtain ⟨taken, there⟩ := stands.takeText isKey.1
  have atQuote : lexer.Stands count (depth + 1) kinds
      ('"' :: (key.toList.flatMap Json.writeChar ++ ['"'] ++ ':' :: rest)) := stands
  have named := atQuote.reaches (by decide) taken there
    (List.suffix_append _ _).length_le
  have noted : lexer.refreshed.refreshed.noted =
      { lexer.refreshed.refreshed with
        key := some ⟨lexer.refreshed.refreshed.tokens.length,
          lexer.refreshed.refreshed.mark, false⟩ } :=
    if_pos allowed
  have notStale : Lexer.isStale
      ((lexer.refreshed.refreshed.noted.allowKey false).take
        (.scalar .quoted key) (':' :: rest))
      ⟨lexer.refreshed.refreshed.tokens.length,
        lexer.refreshed.refreshed.mark, false⟩ = false := by
    rw [isStale, there.isMark, fresh.isMark]
    refine Bool.or_eq_false_iff.mpr
      ⟨decide_eq_false (Nat.lt_irrefl 0), decide_eq_false ?_⟩
    exact Nat.not_lt.mpr (Nat.add_le_add_left isKey.2 count)
  obtain ⟨next, colon, behind⟩ := Stands.takesColon
    lexer.refreshed.refreshed.tokens (by rw [noted]; rfl)
    (by rw [noted]; rfl) notStale there
  exact ⟨next, named.trans colon, behind⟩

end Tokens

end Lexer

end Parley.Yaml
