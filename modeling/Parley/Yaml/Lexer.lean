import Parley.Yaml.Token

/-!
Contract: the sequence of tokens of a YAML text.

A key is only recognised by the colon behind it, so the lexer remembers where a
key could have started and inserts the tokens for it later. Such a key must be on
one line and no longer than 1024 bytes.

A text is taken in blocks of bytes. A character that YAML does not allow makes
all of its block unreadable, and the tokens before that block are all there are.

Owns: `Tokens`, `readable`, `tokenize`.
-/

namespace Parley.Yaml

/-- Where a key may have started: how many tokens stand before it, its place, and
whether nothing but a key may start there. -/
structure PossibleKey where
  position : Nat
  mark : Mark
  required : Bool
deriving DecidableEq, Repr

/-- A text as far as it was cut into tokens. The tokens are held last first.
`whole` says whether the text ends where `rest` does, and is not unreadable from
there on. `indent` is the column of the innermost open block and `outer` those of the
blocks around it; `key` is the possible key of the innermost flow collection and
`outerKeys` those of the collections around it. -/
structure Lexer where
  rest : List Char
  whole : Bool
  mark : Mark
  tokens : List Token
  indent : Int
  outer : List Int
  keyAllowed : Bool
  key : Option PossibleKey
  outerKeys : List (Option PossibleKey)

/-- What a text was cut into: its tokens, and the reason why there are no more of
them if the text is malformed. -/
structure Tokens where
  tokens : List Token
  malformation : Option Malformation

namespace Lexer

def start (text : List Char) (whole : Bool) : Lexer where
  rest := text
  whole := whole
  mark := .start
  tokens := []
  indent := -1
  outer := []
  keyAllowed := true
  key := none
  outerKeys := []

def inFlow (lexer : Lexer) : Bool :=
  !lexer.outerKeys.isEmpty

def fail {α : Type} (lexer : Lexer) (reason : String) :
    Except Malformation α :=
  .error ⟨reason, lexer.mark⟩

def moveTo (lexer : Lexer) (rest : List Char) : Lexer :=
  let count := lexer.rest.length - rest.length
  { lexer with rest, mark := lexer.mark.over (lexer.rest.take count) }

/-- Adds a token that ends at a later place of the text. -/
def take (lexer : Lexer) (kind : TokenKind) (rest : List Char) : Lexer :=
  let moved := lexer.moveTo rest
  { moved with tokens := ⟨kind, lexer.mark, moved.mark⟩ :: lexer.tokens }

def takeChars (lexer : Lexer) (kind : TokenKind) (count : Nat) : Lexer :=
  lexer.take kind (lexer.rest.drop count)

/-- Adds a token without text. -/
def mention (lexer : Lexer) (kind : TokenKind) : Lexer :=
  { lexer with tokens := ⟨kind, lexer.mark, lexer.mark⟩ :: lexer.tokens }

def insert (lexer : Lexer) (position : Nat) (kind : TokenKind) (mark : Mark) :
    Lexer :=
  let later := lexer.tokens.length - position
  { lexer with
    tokens := lexer.tokens.take later ++ ⟨kind, mark, mark⟩ ::
      lexer.tokens.drop later }

/-- The text after a byte order mark, which may start any line. -/
def afterOrderMark (lexer : Lexer) : List Char :=
  match lexer.rest with
  | '\uFEFF' :: rest =>
      if lexer.mark.column = 0 then rest else '\uFEFF' :: rest
  | rest => rest

/-- Skips spaces, comments and line breaks up to the next token. A tab counts as
a space only where no key could start. -/
def skipGaps : Nat → Lexer → Lexer
  | 0, lexer => lexer
  | bound + 1, lexer =>
      let isFiller (char : Char) : Bool :=
        char == ' ' || (char == '\t' && (lexer.inFlow || !lexer.keyAllowed))
      let spaced := lexer.afterOrderMark.dropWhile isFiller
      let rest :=
        if spaced.head? == some '#' then spaced.dropWhile (!isBreak ·)
        else spaced
      let moved := lexer.moveTo rest
      if rest.head?.any isBreak then
        let next := moved.moveTo (dropBreak rest)
        skipGaps bound
          { next with keyAllowed := lexer.keyAllowed || !lexer.inFlow }
      else moved

/-- The fault of a key that is followed by no colon. -/
def missingColon {α : Type} (lexer : Lexer) : Except Malformation α :=
  lexer.fail "could not find expected ':'"

/-- Whether a possible key can no longer be one. -/
def isStale (lexer : Lexer) (key : PossibleKey) : Bool :=
  key.mark.line < lexer.mark.line || key.mark.index + 1024 < lexer.mark.index

def dropStale (lexer : Lexer) : Except Malformation Lexer :=
  let stale (key : Option PossibleKey) : Bool := key.any lexer.isStale
  let broken (key : Option PossibleKey) : Bool :=
    key.any fun possible => possible.required && lexer.isStale possible
  if broken lexer.key || lexer.outerKeys.any broken then lexer.missingColon
  else
    let kept (key : Option PossibleKey) : Option PossibleKey :=
      if stale key then none else key
    .ok { lexer with
      key := kept lexer.key, outerKeys := lexer.outerKeys.map kept }

/-- Ends the blocks that are indented more than a column. -/
def closeBlocks (lexer : Lexer) (column : Int) : Lexer :=
  if lexer.inFlow then lexer
  else
    let rec close (indent : Int) (outer : List Int) (lexer : Lexer) : Lexer :=
      if column < indent then
        match outer with
        | [] => { lexer with indent := -1, outer := [] }
        | next :: more => close next more (lexer.mention .blockEnd)
      else { lexer with indent, outer }
    close lexer.indent lexer.outer lexer

/-- Opens a block at a column, unless one is open there. The token that opens it
goes behind the first `position` tokens. -/
def openBlock (lexer : Lexer) (column : Int) (position : Nat)
    (kind : TokenKind) (mark : Mark) : Lexer :=
  if lexer.inFlow || column ≤ lexer.indent then lexer
  else
    { lexer.insert position kind mark with
      indent := column, outer := lexer.indent :: lexer.outer }

def openBlockHere (lexer : Lexer) (kind : TokenKind) : Lexer :=
  lexer.openBlock lexer.mark.column lexer.tokens.length kind lexer.mark

/-- Gives up the possible key of the innermost flow collection. -/
def dropKey (lexer : Lexer) : Except Malformation Lexer :=
  if lexer.key.any (·.required) then lexer.missingColon
  else .ok { lexer with key := none }

def noteKey (lexer : Lexer) : Except Malformation Lexer :=
  if lexer.keyAllowed then
    lexer.dropKey.map fun (cleared : Lexer) =>
      { cleared with
        key := some ⟨lexer.tokens.length, lexer.mark,
          !lexer.inFlow && lexer.indent == lexer.mark.column⟩ }
  else .ok lexer

def allowKey (lexer : Lexer) (allowed : Bool) : Lexer :=
  { lexer with keyAllowed := allowed }

/-- Takes a token that ends the document or stands before one. -/
def takeMarker (lexer : Lexer) (kind : TokenKind) (rest : List Char) :
    Except Malformation Lexer :=
  (lexer.closeBlocks (-1)).dropKey.map fun (cleared : Lexer) =>
    (cleared.allowKey false).take kind rest

def takeFlowStart (lexer : Lexer) (kind : TokenKind) :
    Except Malformation Lexer :=
  lexer.noteKey.map fun (noted : Lexer) =>
    let opened :=
      { noted with key := none, outerKeys := noted.key :: noted.outerKeys }
    (opened.allowKey true).takeChars kind 1

def takeFlowEnd (lexer : Lexer) (kind : TokenKind) :
    Except Malformation Lexer :=
  lexer.dropKey.map fun (cleared : Lexer) =>
    let closed :=
      match cleared.outerKeys with
      | [] => cleared
      | key :: outerKeys => { cleared with key, outerKeys }
    (closed.allowKey false).takeChars kind 1

def takeFlowEntry (lexer : Lexer) : Except Malformation Lexer :=
  lexer.dropKey.map fun (cleared : Lexer) =>
    (cleared.allowKey true).takeChars .flowEntry 1

/-- Takes the mark of an item or of a key of a block, which may only stand where
a key may start. -/
def takeBlockMark (lexer : Lexer) (block kind : TokenKind) (reason : String)
    (allowed : Bool) : Except Malformation Lexer :=
  if !lexer.inFlow && !lexer.keyAllowed then lexer.fail reason
  else
    (lexer.openBlockHere block).dropKey.map fun (cleared : Lexer) =>
      (cleared.allowKey allowed).takeChars kind 1

/-- Takes the colon before a value. If a key may have started before it, the
token for that key is inserted. -/
def takeValue (lexer : Lexer) : Except Malformation Lexer :=
  match lexer.key with
  | some key =>
      let keyed := lexer.insert key.position .key key.mark
      let opened :=
        keyed.openBlock key.mark.column key.position .blockMappingStart
          key.mark
      .ok (({ opened with key := none }.allowKey false).takeChars .value 1)
  | none =>
      if !lexer.inFlow && !lexer.keyAllowed then
        lexer.fail "mapping values are not allowed in this context"
      else
        .ok (((lexer.openBlockHere .blockMappingStart).allowKey
          (!lexer.inFlow)).takeChars .value 1)

def takeScanned (lexer : Lexer) {α : Type} (scanned : Scan α)
    (kind : α → TokenKind) : Except Malformation Lexer :=
  match scanned with
  | .error reason => lexer.fail reason
  | .ok (content, rest) => .ok (lexer.take (kind content) rest)

/-- Takes a token that may start a key. -/
def takeContent (lexer : Lexer) {α : Type} (scanned : Scan α)
    (kind : α → TokenKind) : Except Malformation Lexer :=
  match lexer.noteKey with
  | .error malformation => .error malformation
  | .ok noted => (noted.allowKey false).takeScanned scanned kind

def takeBlockScalar (lexer : Lexer) (style : Style) :
    Except Malformation Lexer :=
  match lexer.dropKey with
  | .error malformation => .error malformation
  | .ok cleared =>
      (cleared.allowKey true).takeScanned
        (scanBlock (style == .literal) lexer.indent lexer.rest)
        fun text => .scalar style (String.ofList text)

/-- Takes a plain scalar. If it ends on a later line, a key may start there. -/
def takePlain (lexer : Lexer) : Except Malformation Lexer :=
  match scanPlain lexer.inFlow (lexer.indent + 1) lexer.mark.column
      lexer.rest with
  | .error reason => lexer.fail reason
  | .ok (plain, rest) =>
      (lexer.takeContent (.ok (plain, rest)) fun plain =>
        .scalar .plain (String.ofList plain.text)).map fun (next : Lexer) =>
          if plain.broken then next.allowKey true else next

/-- Whether a plain scalar may start with a character, given the text after
it. -/
def startsPlain (inFlow : Bool) (char : Char) (rest : List Char) : Bool :=
  let marks := ['-', '?', ':', ',', '[', ']', '\x7b', '\x7d', '#', '&', '*',
    '!', '|', '>', '\'', '"', '%', '@', '\u0060']
  !(isGap char || marks.contains char) ||
    (char == '-' && !rest.head?.any isSpace) ||
    (!inFlow && (char == '?' || char == ':') && !atGap rest)

def takeToken (lexer : Lexer) (char : Char) (rest : List Char) :
    Except Malformation Lexer :=
  let text := char :: rest
  let atLineStart := lexer.mark.column == 0
  if atLineStart && char == '%' then
    match scanDirective text with
    | .error reason => lexer.fail reason
    | .ok (kind, after) => lexer.takeMarker kind after
  else if atLineStart && atTriple '-' text then
    lexer.takeMarker .documentStart (text.drop 3)
  else if atLineStart && atTriple '.' text then
    lexer.takeMarker .documentEnd (text.drop 3)
  else if char = '[' then lexer.takeFlowStart .flowSequenceStart
  else if char = '\x7b' then lexer.takeFlowStart .flowMappingStart
  else if char = ']' then lexer.takeFlowEnd .flowSequenceEnd
  else if char = '\x7d' then lexer.takeFlowEnd .flowMappingEnd
  else if char = ',' then lexer.takeFlowEntry
  else if char = '-' ∧ atGap rest then
    lexer.takeBlockMark .blockSequenceStart .blockEntry
      "block sequence entries are not allowed in this context" true
  else if char = '?' ∧ (lexer.inFlow || atGap rest) then
    lexer.takeBlockMark .blockMappingStart .key
      "mapping keys are not allowed in this context" (!lexer.inFlow)
  else if char = ':' ∧ (lexer.inFlow || atGap rest) then lexer.takeValue
  else if char = '*' then lexer.takeContent (scanName rest) .alias
  else if char = '&' then lexer.takeContent (scanName rest) .anchor
  else if char = '!' then
    lexer.takeContent (scanTag lexer.inFlow text) fun (handle, suffix) =>
      .tag handle suffix
  else if char = '|' ∧ !lexer.inFlow then lexer.takeBlockScalar .literal
  else if char = '>' ∧ !lexer.inFlow then lexer.takeBlockScalar .folded
  else if char = '\'' ∨ char = '"' then
    lexer.takeContent (scanQuoted char lexer.mark.column text) fun content =>
      .scalar .quoted (String.ofList content)
  else if startsPlain lexer.inFlow char rest then lexer.takePlain
  else lexer.fail "found character that cannot start any token"

/-- Takes the end of the text, which ends on a new line. -/
def takeEnd (lexer : Lexer) : Except Malformation Lexer :=
  let mark :=
    if lexer.mark.column = 0 then lexer.mark else lexer.mark.afterBreak 0
  (({ lexer with mark }).closeBlocks (-1)).dropKey.map fun (cleared : Lexer) =>
    (cleared.allowKey false).mention .streamEnd

/-- How many tokens stand before every possible key. Those after it are not
settled when the text turns out to be malformed. -/
def settledCount (lexer : Lexer) : Nat :=
  let positions := (lexer.key :: lexer.outerKeys).filterMap
    (·.map PossibleKey.position)
  positions.foldl min lexer.tokens.length

def stopAfter (lexer : Lexer) (count : Nat) (malformation : Malformation) :
    Tokens :=
  ⟨lexer.tokens.reverse.take count, some malformation⟩

/-- Whether the lexer has come to the unreadable part of a text, of which it
looks a number of characters ahead. -/
def atUnreadable (lexer : Lexer) (count : Nat) : Bool :=
  !lexer.whole && lexer.rest.length < count

def unreadable (lexer : Lexer) : Malformation :=
  ⟨"control characters are not allowed", lexer.mark⟩

/-- Takes the next token, which starts after some gaps. There is none if the end
of the text was taken. -/
def step (lexer : Lexer) : Except Malformation Lexer :=
  match lexer.dropStale with
  | .error malformation => .error malformation
  | .ok fresh =>
      let placed := fresh.closeBlocks fresh.mark.column
      if placed.atUnreadable 4 then .error placed.unreadable
      else
        match placed.rest with
        | [] => placed.takeEnd
        | char :: rest =>
            match placed.takeToken char rest with
            | .error malformation => .error malformation
            | .ok next =>
                if next.atUnreadable 1 then .error placed.unreadable
                else .ok next

/-- The tokens of a text whose end was taken, unless a key was left open. -/
def finish (lexer : Lexer) (settled : Nat) : Tokens :=
  match lexer.dropStale with
  | .error malformation => lexer.stopAfter settled malformation
  | .ok _ => ⟨lexer.tokens.reverse, none⟩

/-- Cuts a text into tokens, of which some are settled already. The count
bounds the number of tokens taken. -/
def run : Nat → Nat → Lexer → Tokens
  | 0, settled, lexer =>
      lexer.stopAfter settled ⟨"too many tokens", lexer.mark⟩
  | bound + 1, settled, lexer =>
      match lexer.dropStale with
      | .error malformation => lexer.stopAfter settled malformation
      | .ok fresh =>
          let spaced := fresh.skipGaps (fresh.rest.length + 1)
          match spaced.step with
          | .error malformation =>
              lexer.stopAfter fresh.settledCount malformation
          | .ok next =>
              if spaced.rest.isEmpty then next.finish fresh.settledCount
              else run bound fresh.settledCount next

end Lexer

/-- How many bytes of a text are taken at once. A character that does not fit
any more is taken with the next block. -/
def blockSize : Nat :=
  16384

/-- The characters before the block in which a character stands that is not
allowed, and whether there is no such character. `block` holds the characters
taken from the block so far, last first, and `room` is what is left of it. -/
def readable (block : List Char) (room : Nat) :
    List Char → List Char × Bool
  | [] => (block.reverse, true)
  | char :: rest =>
      if !isAllowed char then ([], false)
      else if char.utf8Size ≤ room then
        readable (char :: block) (room - char.utf8Size) rest
      else
        let (more, whole) := readable [char] (blockSize - char.utf8Size) rest
        (block.reverse ++ more, whole)

def tokenize (text : List Char) : Tokens :=
  let (content, whole) := readable [] blockSize text
  Lexer.run (content.length + 1) 0 (.start content whole)

end Parley.Yaml
