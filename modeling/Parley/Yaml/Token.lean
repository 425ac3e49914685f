import Parley.Text.Numeral
import Parley.Yaml.Node

/-!
Contract: the tokens of YAML text, and the scanning of those that carry content.

The structure of a block is given by its indentation: tokens mark where a block
begins and ends. All scanning functions take the text from where the token
starts and give what the token holds with the text after it.

Owns: `Token`, the character classes of YAML, and the scanning of scalars,
anchors, tags and directives.
Does not own: where each kind of token may stand, see `Yaml.Lexer`.
-/

namespace Parley.Yaml

open Parley.Text (Bytes)

inductive TokenKind where
  | versionDirective (major minor : Nat)
  | tagDirective (handle : String) (leading : Bytes)
  | documentStart
  | documentEnd
  | streamEnd
  | blockSequenceStart
  | blockMappingStart
  | blockEnd
  | flowSequenceStart
  | flowSequenceEnd
  | flowMappingStart
  | flowMappingEnd
  | blockEntry
  | flowEntry
  | key
  | value
  | alias (name : String)
  | anchor (name : String)
  | tag (handle : String) (suffix : Bytes)
  | scalar (style : Style) (text : String)
deriving DecidableEq, Repr

structure Token where
  kind : TokenKind
  start : Mark
  stop : Mark
deriving DecidableEq, Repr

/-- The result of scanning, or the reason why the text is malformed. -/
abbrev Scan (α : Type) :=
  Except String (α × List Char)

/-- Whether a character may occur in YAML text at all. -/
def isAllowed (char : Char) : Bool :=
  let code := char.toNat
  code == 9 || code == 10 || code == 13 || (0x20 ≤ code && code ≤ 0x7E) ||
    code == 0x85 || (0xA0 ≤ code && code ≤ 0xD7FF) ||
    (0xE000 ≤ code && code ≤ 0xFFFD) || 0x10000 ≤ code

def isSpace (char : Char) : Bool :=
  char == ' ' || char == '\t'

def isBreak (char : Char) : Bool :=
  char == '\n' || char == '\r' || char == '\u0085' || char == '\u2028' ||
    char == '\u2029'

/-- Whether a character is a space or ends a line. -/
def isGap (char : Char) : Bool :=
  isSpace char || isBreak char

/-- Whether a text is at its end or at a gap. -/
def atGap : List Char → Bool
  | [] => true
  | char :: _ => isGap char

def isNameChar (char : Char) : Bool :=
  char.isAlphanum || char == '_' || char == '-'

/-- Whether a character delimits flow collections. -/
def isFlowMark (char : Char) : Bool :=
  char == ',' || char == '[' || char == ']' || char == '\x7b' || char == '\x7d'

/-- Whether a text starts with three of a character and then a gap. -/
def atTriple (mark : Char) (text : List Char) : Bool :=
  text.take 3 == [mark, mark, mark] && atGap (text.drop 3)

def atDocumentMarker (text : List Char) : Bool :=
  atTriple '-' text || atTriple '.' text

/-- The place after some characters. A carriage return and the line feed after
it are one break. -/
def Mark.over (mark : Mark) : List Char → Mark
  | [] => mark
  | '\r' :: '\n' :: rest => (mark.afterBreak 2).over rest
  | char :: rest =>
      if isBreak char then (mark.afterBreak char.utf8Size).over rest
      else (mark.afterChar char).over rest

/-- The breaks among some characters, each as it is kept in a scalar. -/
def keptBreaks : List Char → List Char
  | [] => []
  | '\r' :: '\n' :: rest => '\n' :: keptBreaks rest
  | char :: rest =>
      if char == '\n' || char == '\r' || char == '\u0085' then
        '\n' :: keptBreaks rest
      else if isBreak char then char :: keptBreaks rest
      else keptBreaks rest

/-- Breaks folded into one line: a single line feed becomes a space, and of
several the first is dropped. -/
def foldBreaks : List Char → List Char
  | [] => []
  | ['\n'] => [' ']
  | '\n' :: more => more
  | breaks => breaks

/-- What a gap inside a scalar stands for: itself within a line, its folded
breaks otherwise. -/
def foldGap (gap : List Char) : List Char :=
  if gap.any isBreak then foldBreaks (keptBreaks gap) else gap

/-- Whether a gap that goes over lines indents one of them less than `indent`
with a tab. -/
def tabbedBelow (indent : Int) : Bool → Int → List Char → Bool
  | _, _, [] => false
  | broken, column, char :: rest =>
      if isBreak char then tabbedBelow indent true 0 rest
      else if broken && column < indent && char == '\t' then true
      else tabbedBelow indent broken (column + 1) rest

def columnAfter (column : Nat) (gap : List Char) : Nat :=
  (Mark.over ⟨0, 0, column⟩ gap).column

/-- The characters of a plain scalar up to the next gap or the end of the
scalar. -/
def plainRun (inFlow : Bool) : List Char → Scan (List Char)
  | [] => .ok ([], [])
  | char :: rest =>
      if isGap char then .ok ([], char :: rest)
      else if inFlow && char == ':' &&
          (rest.head?.any fun next => isFlowMark next || next == '?') then
        .error "found unexpected ':'"
      else if (char == ':' && atGap rest) || (inFlow && isFlowMark char) then
        .ok ([], char :: rest)
      else
        (plainRun inFlow rest).map fun (run, after) => (char :: run, after)

/-- A plain scalar as far as it was scanned: its text, and whether the text
after it is on a later line. -/
structure PlainText where
  text : List Char
  broken : Bool

theorem plainRun_length {inFlow : Bool} {text run rest : List Char}
    (scanned : plainRun inFlow text = .ok (run, rest)) :
    rest.length + run.length = text.length := by
  induction text generalizing run rest with
  | nil =>
      cases scanned
      rfl
  | cons char more inductionHypothesis =>
      simp only [plainRun] at scanned
      split at scanned
      · cases scanned; simp
      · split at scanned
        · cases scanned
        · split at scanned
          · cases scanned; simp
          · cases tail : plainRun inFlow more with
            | error reason => simp [tail, Except.map] at scanned
            | ok result =>
                simp only [tail, Except.map, Except.ok.injEq,
                  Prod.mk.injEq] at scanned
                have : result.2.length + result.1.length = more.length :=
                  inductionHypothesis tail
                rw [← scanned.1, ← scanned.2]
                simp only [List.length_cons]
                omega

theorem span_gap_length (text : List Char) :
    (text.dropWhile isGap).length ≤ text.length :=
  (List.dropWhile_suffix isGap).length_le

/-- Scans a plain scalar, whose later lines must be indented to `indent`. `taken`
is its text so far and `gap` what stood between that and the rest. -/
def scanPlainOnto (inFlow : Bool) (indent : Int) (taken gap : List Char)
    (column : Nat) (text : List Char) : Scan PlainText :=
  let stop : Scan PlainText := .ok (⟨taken, gap.any isBreak⟩, text)
  if (column = 0 && atDocumentMarker text) || text.head? == some '#' then stop
  else
    match scanned : plainRun inFlow text with
    | .error reason => .error reason
    | .ok ([], _) => stop
    | .ok (char :: run, rest) =>
        let longer := taken ++ foldGap gap ++ char :: run
        let next := rest.takeWhile isGap
        let after := rest.dropWhile isGap
        let endColumn := column + run.length + 1
        have : (rest.dropWhile isGap).length < text.length := by
          have lengths := plainRun_length scanned
          have := span_gap_length rest
          simp only [List.length_cons] at lengths
          omega
        if next.isEmpty then .ok (⟨longer, false⟩, rest)
        else if tabbedBelow indent false endColumn next then
          .error "found a tab character that violates indentation"
        else if !inFlow && (columnAfter endColumn next : Int) < indent then
          .ok (⟨longer, next.any isBreak⟩, after)
        else
          scanPlainOnto inFlow indent longer next (columnAfter endColumn next)
            after
termination_by text.length

def scanPlain (inFlow : Bool) (indent : Int) (column : Nat)
    (text : List Char) : Scan PlainText :=
  scanPlainOnto inFlow indent [] [] column text

def escapeChar? (letter : Char) : Option Char :=
  [('0', '\x00'), ('a', '\x07'), ('b', '\x08'), ('t', '\t'), ('\t', '\t'),
    ('n', '\n'), ('v', '\x0b'), ('f', '\x0c'), ('r', '\r'), ('e', '\x1b'),
    (' ', ' '), ('"', '"'), ('/', '/'), ('\\', '\\'), ('N', '\u0085'),
    ('_', '\u00a0'), ('L', '\u2028'), ('P', '\u2029')].lookup letter

/-- How many hexadecimal digits follow the letter of an escape by code. -/
def escapeWidth? (letter : Char) : Option Nat :=
  [('x', 2), ('u', 4), ('U', 8)].lookup letter

def codeChar? (digits : List Char) : Option Char :=
  (Text.numberIn? 16 digits).bind fun code =>
    if code < 0xD800 ∨ (0xDFFF < code ∧ code ≤ 0x10FFFF) then
      some (Char.ofNat code)
    else none

/-- Scans an escape in a double-quoted scalar, from after the reverse solidus. -/
def scanEscape : List Char → Scan Char
  | [] => .error "found unknown escape character"
  | letter :: rest =>
      match escapeChar? letter with
      | some char => .ok (char, rest)
      | none =>
          match escapeWidth? letter with
          | none => .error "found unknown escape character"
          | some width =>
              let digits := rest.take width
              if digits.length < width then
                .error "did not find expected hexdecimal number"
              else
                match codeChar? digits with
                | none =>
                    .error "found invalid Unicode character escape code"
                | some char => .ok (char, rest.drop width)

theorem scanEscape_length {text rest : List Char} {char : Char}
    (scanned : scanEscape text = .ok (char, rest)) :
    rest.length < text.length := by
  unfold scanEscape at scanned
  split at scanned
  · cases scanned
  · rename_i letter more
    split at scanned
    · cases scanned; simp
    · split at scanned
      · cases scanned
      · rename_i width found
        dsimp only at scanned
        split at scanned
        · cases scanned
        · split at scanned <;> cases scanned
          simp only [List.length_cons, List.length_drop]
          omega

def dropBreak : List Char → List Char
  | '\r' :: '\n' :: rest => rest
  | text => text.drop 1

/-- Scans a quoted scalar from after its opening quote. `taken` is its text so
far, last character first. -/
def scanQuotedOnto (quote : Char) (taken : List Char) (column : Nat) :
    List Char → Scan (List Char)
  | [] => .error "found unexpected end of stream"
  | char :: rest =>
      if column = 0 && atDocumentMarker (char :: rest) then
        .error "found unexpected document indicator"
      else if char = quote then
        if quote = '\'' ∧ rest.head? = some '\'' then
          scanQuotedOnto quote ('\'' :: taken) (column + 2) rest.tail
        else .ok (taken.reverse, rest)
      else if quote = '"' ∧ char = '\\' then
        if rest.head?.any isBreak then
          let after := dropBreak rest
          let gap := after.takeWhile isGap
          scanQuotedOnto quote ((keptBreaks gap).reverse ++ taken)
            (columnAfter 0 gap) (after.dropWhile isGap)
        else
          match scanned : scanEscape rest with
          | .error reason => .error reason
          | .ok (escaped, next) =>
              have := scanEscape_length scanned
              scanQuotedOnto quote (escaped :: taken)
                (column + 1 + (rest.length - next.length)) next
      else if isGap char then
        let gap := char :: rest.takeWhile isGap
        scanQuotedOnto quote ((foldGap gap).reverse ++ taken)
          (columnAfter column gap) (rest.dropWhile isGap)
      else scanQuotedOnto quote (char :: taken) (column + 1) rest
termination_by text => text.length
decreasing_by
  · simp only [List.length_cons, List.length_tail]
    omega
  · have dropped : (dropBreak rest).length ≤ rest.length := by
      unfold dropBreak
      split <;> grind
    have := span_gap_length (dropBreak rest)
    simp only [List.length_cons]
    omega
  · simp only [List.length_cons]
    omega
  · have := span_gap_length rest
    simp only [List.length_cons]
    omega
  · simp

def scanQuoted (quote : Char) (column : Nat) (text : List Char) :
    Scan (List Char) :=
  scanQuotedOnto quote [] (column + 1) text.tail

/-- What becomes of the line breaks at the end of a block scalar. -/
inductive Chomping where
  | strip
  | clip
  | keep
deriving DecidableEq, Repr

/-- The header of a block scalar: what becomes of its end, and its indentation
relative to the block around it if that is given. -/
structure BlockHeader where
  chomping : Chomping
  increment : Option Nat

def chomping? : Char → Option Chomping
  | '+' => some .keep
  | '-' => some .strip
  | _ => none

def scanIncrement : List Char → Scan (Option Nat)
  | [] => .ok (none, [])
  | char :: rest =>
      if char = '0' then .error "found an indentation indicator equal to 0"
      else if char.isDigit then .ok (some (char.toNat - '0'.toNat), rest)
      else .ok (none, char :: rest)

/-- Scans the two indicators of a block scalar, in either order. -/
def scanIndicators (text : List Char) : Scan BlockHeader :=
  match text.head?.bind chomping? with
  | some chomping =>
      (scanIncrement text.tail).map fun (increment, rest) =>
        (⟨chomping, increment⟩, rest)
  | none =>
      (scanIncrement text).map fun (increment, rest) =>
        match increment, rest.head?.bind chomping? with
        | some _, some chomping => (⟨chomping, increment⟩, rest.tail)
        | _, _ => (⟨.clip, increment⟩, rest)

/-- The rest of a line that holds only spaces and a comment, or the reason why
it does not. -/
def endLine (reason : String) (text : List Char) :
    Except String (List Char) :=
  let start := text.dropWhile isSpace
  let rest :=
    if start.head? == some '#' then start.dropWhile (!isBreak ·) else start
  if rest.head?.all isBreak then .ok (dropBreak rest) else .error reason

/-- The spaces and breaks before a line of a block scalar: the breaks, the
column that was reached, the largest column on the way, and the text after
them. Spaces are taken up to `limit`, if there is one. -/
structure BlockGap where
  breaks : List Char
  column : Nat
  widest : Nat
  rest : List Char

theorem dropBreak_length {char : Char} {rest : List Char} :
    (dropBreak (char :: rest)).length < (char :: rest).length := by
  unfold dropBreak
  split
  · rename_i same
    cases same
    simp only [List.length_cons]
    omega
  · simp

def scanBlockGap (limit : Option Nat) (breaks : List Char)
    (column widest : Nat) : List Char → Except String BlockGap
  | [] => .ok ⟨breaks, column, max column widest, []⟩
  | char :: rest =>
      let short := limit.all (column < ·)
      if short && char == ' ' then
        scanBlockGap limit breaks (column + 1) widest rest
      else if short && char == '\t' then
        .error "found a tab character where an indentation space is expected"
      else if isBreak char then
        scanBlockGap limit (breaks ++ keptBreaks [char]) 0 (max column widest)
          (dropBreak (char :: rest))
      else .ok ⟨breaks, column, max column widest, char :: rest⟩
termination_by text => text.length
decreasing_by
  · simp
  · exact dropBreak_length

/-- A block scalar as far as it was scanned: its text, the break after its last
line and the breaks after that, and whether its last line starts with a space. -/
structure BlockText where
  text : List Char
  lastBreak : List Char
  breaks : List Char
  spaced : Bool

/-- What stands between two lines of a block scalar. A literal scalar keeps all
breaks; a folded one joins lines that do not start with a space. -/
def joinLines (literal : Bool) (block : BlockText) (spaced : Bool) :
    List Char :=
  if !literal && block.lastBreak == ['\n'] && !block.spaced && !spaced then
    (if block.breaks.isEmpty then [' '] else []) ++ block.breaks
  else block.lastBreak ++ block.breaks

/-- Scans the lines of a block scalar that are indented to `indent`. The count
bounds their number. -/
def scanBlockLines (literal : Bool) (indent : Nat) :
    Nat → BlockText → Nat → List Char → Scan BlockText
  | 0, block, _, text => .ok (block, text)
  | _, block, _, [] => .ok (block, [])
  | bound + 1, block, column, char :: rest =>
      if column ≠ indent then .ok (block, char :: rest)
      else
        let spaced := isSpace char
        let line := (char :: rest).takeWhile (!isBreak ·)
        let after := (char :: rest).dropWhile (!isBreak ·)
        match scanBlockGap (some indent) [] 0 0 (dropBreak after) with
        | .error reason => .error reason
        | .ok gap =>
            scanBlockLines literal indent bound
              ⟨block.text ++ joinLines literal block spaced ++ line,
                keptBreaks (after.take 1), gap.breaks, spaced⟩
              gap.column gap.rest

def BlockText.chomp (block : BlockText) : Chomping → List Char
  | .strip => block.text
  | .clip => block.text ++ block.lastBreak
  | .keep => block.text ++ block.lastBreak ++ block.breaks

/-- Scans a block scalar from its indicator on, inside a block of the given
indentation. -/
def scanBlock (literal : Bool) (indent : Int) (text : List Char) :
    Scan (List Char) :=
  match scanIndicators text.tail with
  | .error reason => .error reason
  | .ok (header, afterHeader) =>
      match endLine "did not find expected comment or line break"
          afterHeader with
      | .error reason => .error reason
      | .ok body =>
          let given := header.increment.map fun increment =>
            (max indent 0).toNat + increment
          match scanBlockGap given [] 0 0 body with
          | .error reason => .error reason
          | .ok gap =>
              let own := given.getD (max gap.widest (max (indent + 1) 1).toNat)
              (scanBlockLines literal own text.length
                  ⟨[], [], gap.breaks, false⟩ gap.column gap.rest).map
                fun (block, rest) => (block.chomp header.chomping, rest)

/-- Scans the name of an anchor or an alias, from after its mark. -/
def scanName (text : List Char) : Scan String :=
  let name := text.takeWhile isNameChar
  let rest := text.dropWhile isNameChar
  let ended := rest.head?.all fun char =>
    isGap char || ['?', ':', ',', ']', '\x7d', '%', '@', '\u0060'].contains char
  if name.isEmpty || !ended then
    .error "did not find expected alphabetic or numeric character"
  else .ok (String.ofList name, rest)

def isTagChar (verbatim : Bool) (char : Char) : Bool :=
  isNameChar char ||
    [';', '/', '?', ':', '@', '&', '=', '+', '$', '.', '!', '~', '*', '\'',
      '(', ')'].contains char ||
    (verbatim && [',', '[', ']'].contains char)

/-- The value of an octet that is escaped by a percent sign, and the text after
it. -/
def scanOctet : List Char → Scan UInt8
  | '%' :: first :: second :: rest =>
      match Text.numberIn? 16 [first, second] with
      | some octet => .ok (octet.toUInt8, rest)
      | none => .error "did not find URI escaped octet"
  | _ => .error "did not find URI escaped octet"

/-- How many octets the first one of an escaped character announces. -/
def octetCount? (octet : UInt8) : Option Nat :=
  if octet < 0x80 then some 1
  else if octet < 0xC0 then none
  else if octet < 0xE0 then some 2
  else if octet < 0xF0 then some 3
  else if octet < 0xF8 then some 4
  else none

/-- Scans a number of escaped octets that continue a character. -/
def scanContinuation : Nat → List Char → Scan Bytes
  | 0, text => .ok ([], text)
  | count + 1, text =>
      match scanOctet text with
      | .error reason => .error reason
      | .ok (octet, rest) =>
          if octet &&& 0xC0 ≠ 0x80 then
            .error "found an incorrect trailing UTF-8 octet"
          else
            (scanContinuation count rest).map fun (more, after) =>
              (octet :: more, after)

def scanEscapedChar (text : List Char) : Scan Bytes :=
  match scanOctet text with
  | .error reason => .error reason
  | .ok (octet, rest) =>
      match octetCount? octet with
      | none => .error "found an incorrect leading UTF-8 octet"
      | some count =>
          (scanContinuation (count - 1) rest).map fun (more, after) =>
            (octet :: more, after)

/-- Scans the characters of a tag, at most `bound` of them. Those escaped by
percent signs stand for the octets that they spell. -/
def scanTagChars (verbatim : Bool) : Nat → List Char → Scan Bytes
  | 0, text => .ok ([], text)
  | _, [] => .ok ([], [])
  | bound + 1, char :: rest =>
      let scanned : Option (Scan Bytes) :=
        if char = '%' then some (scanEscapedChar (char :: rest))
        else if isTagChar verbatim char then some (.ok ([char.toUInt8], rest))
        else none
      match scanned with
      | none => .ok ([], char :: rest)
      | some (.error reason) => .error reason
      | some (.ok (bytes, after)) =>
          (scanTagChars verbatim bound after).map fun (more, last) =>
            (bytes ++ more, last)

def scanTagPart (verbatim : Bool) (text : List Char) : Scan Bytes :=
  match scanTagChars verbatim text.length text with
  | .error reason => .error reason
  | .ok ([], _) => .error "did not find expected tag URI"
  | .ok (bytes, after) => .ok (bytes, after)

/-- The bytes before the first one that is zero, where a tag or a part of it
ends. -/
def untilZero (bytes : Bytes) : Bytes :=
  bytes.takeWhile (· ≠ 0)

/-- The handle and the suffix of a tag that starts with an exclamation mark. The
suffix of a lone exclamation mark is that mark, and its handle is empty. -/
def scanShortTag (text : List Char) : Scan (String × Bytes) :=
  let name := text.tail.takeWhile isNameChar
  let rest := text.tail.dropWhile isNameChar
  if rest.head? == some '!' then
    (scanTagPart false rest.tail).map fun (suffix, after) =>
      ((String.ofList ('!' :: name ++ ['!']), untilZero suffix), after)
  else
    (scanTagChars false rest.length rest).map fun (more, after) =>
      let suffix := untilZero (name.map Char.toUInt8 ++ more)
      if suffix.isEmpty then (("", ['!'.toUInt8]), after)
      else (("!", suffix), after)

/-- Scans a tag between angle brackets, from after the first of them. -/
def scanVerbatimTag (text : List Char) : Scan (String × Bytes) :=
  match scanTagPart true text with
  | .error reason => .error reason
  | .ok (bytes, '>' :: after) => .ok (("", untilZero bytes), after)
  | .ok _ => .error "did not find the expected '>'"

/-- Scans a tag from its exclamation mark on: its handle, which is empty if the
suffix is the whole tag, and its suffix. -/
def scanTag (inFlow : Bool) (text : List Char) : Scan (String × Bytes) :=
  let scanned :=
    if text.tail.head? == some '<' then scanVerbatimTag (text.drop 2)
    else scanShortTag text
  match scanned with
  | .error reason => .error reason
  | .ok (tag, rest) =>
      if atGap rest || (inFlow && rest.head? == some ',') then .ok (tag, rest)
      else .error "did not find expected whitespace or line break"

def scanVersionPart (text : List Char) : Scan Nat :=
  let digits := text.takeWhile Char.isDigit
  if digits.isEmpty then .error "did not find expected version number"
  else if 9 < digits.length then .error "found extremely long version number"
  else
    .ok (digits.foldl (fun total digit =>
      total * 10 + (digit.toNat - '0'.toNat)) 0, text.dropWhile Char.isDigit)

def scanVersion (text : List Char) : Scan TokenKind :=
  match scanVersionPart (text.dropWhile isSpace) with
  | .error reason => .error reason
  | .ok (major, '.' :: rest) =>
      (scanVersionPart rest).map fun (minor, after) =>
        (.versionDirective major minor, after)
  | .ok _ => .error "did not find expected digit or '.' character"

/-- Scans the handle and the expansion that a directive names. -/
def scanTagDirective (text : List Char) : Scan TokenKind :=
  match text.dropWhile isSpace with
  | '!' :: rest =>
      let name := rest.takeWhile isNameChar
      let after := rest.dropWhile isNameChar
      let handle? : Option (List Char × List Char) :=
        if after.head? == some '!' then some ('!' :: name ++ ['!'], after.tail)
        else if name.isEmpty then some (['!'], after)
        else none
      match handle? with
      | none => .error "did not find expected '!'"
      | some (handle, spaced) =>
          if !spaced.head?.any isSpace then
            .error "did not find expected whitespace"
          else
            match scanTagPart true (spaced.dropWhile isSpace) with
            | .error reason => .error reason
            | .ok (leading, rest) =>
                if atGap rest then
                  .ok (.tagDirective (String.ofList handle)
                    (untilZero leading), rest)
                else .error "did not find expected whitespace or line break"
  | _ => .error "did not find expected '!'"

def scanDirective (text : List Char) : Scan TokenKind :=
  let name := text.tail.takeWhile isNameChar
  let rest := text.tail.dropWhile isNameChar
  if name.isEmpty then .error "could not find expected directive name"
  else if !atGap rest then .error "found unexpected non-alphabetical character"
  else
    let scanned : Scan TokenKind :=
      if name = ['Y', 'A', 'M', 'L'] then scanVersion rest
      else if name = ['T', 'A', 'G'] then scanTagDirective rest
      else .error "found unknown directive name"
    match scanned with
    | .error reason => .error reason
    | .ok (directive, after) =>
        (endLine "did not find expected comment or line break" after).map
          fun rest => (directive, rest)

end Parley.Yaml
