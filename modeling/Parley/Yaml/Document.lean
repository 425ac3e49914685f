import Parley.Yaml.Fault
import Parley.Yaml.Lexer

/-!
Contract: the one document of a YAML text.

The nodes are built from the tokens in one pass. Where the tokens end early, or
one stands where it may not, the node there is a cut and nothing after it is
read.

Owns: `Document.parse`.
-/

namespace Parley.Yaml

open Parley.Text (Bytes Utf8.encode)

/-- What comes after the first document of a text. -/
inductive Ending where
  | finished
  | several
  | malformed (malformation : Malformation)

/-- A document with what comes after it. -/
structure Document where
  root : Node
  ending : Ending

/-- What does not change while the nodes of a document are built: why the tokens
end where they do, and what the handles of tags stand for. -/
structure Setting where
  malformation : Malformation
  handles : List (String × Bytes)

/-- What is left of the tokens of a document, with the slots of the anchors that
were set, one for each name. -/
structure Remaining where
  tokens : List Token
  anchors : List (String × Nat)

namespace Remaining

def skip (remaining : Remaining) : Remaining :=
  { remaining with tokens := remaining.tokens.tail }

/-- Nothing is left after a cut. -/
def stop (remaining : Remaining) : Remaining :=
  { remaining with tokens := [] }

def kind? (remaining : Remaining) : Option TokenKind :=
  remaining.tokens.head?.map Token.kind

/-- Whether there is a next token, and of none of the given kinds. -/
def isNone (remaining : Remaining) (kinds : List TokenKind) : Bool :=
  match remaining.kind? with
  | some kind => !kinds.contains kind
  | none => true

/-- Sets an anchor. Its slot is the number of names that were set before, so a
name that is set again may take over the slot of another one. -/
def setAnchor (remaining : Remaining) (name : String) : Remaining :=
  { remaining with
    anchors := (name, remaining.anchors.length) ::
      remaining.anchors.filter (·.1 ≠ name) }

end Remaining

abbrev Built (α : Type) := α × Remaining

/-- The properties before the content of a node: where they start and stop, the
anchor, and the tag. -/
structure Properties where
  start : Option Mark
  stop : Mark
  anchor : Option String
  tag : Option (String × Bytes)

/-- Takes the properties of a node: at most one anchor and one tag. -/
def takeProperties (properties : Properties) :
    List Token → Properties × List Token
  | token :: rest =>
      let next : Option Properties :=
        match token.kind, properties.anchor, properties.tag with
        | .anchor name, none, _ => some { properties with anchor := name }
        | .tag handle suffix, _, none =>
            some { properties with tag := (handle, suffix) }
        | _, _, _ => none
      match next with
      | some taken =>
          takeProperties
            { taken with
              start := properties.start.or (some token.start)
              stop := token.stop }
            rest
      | none => (properties, token :: rest)
  | [] => (properties, [])

def Setting.tag? (setting : Setting) (handle : String) (suffix : Bytes) :
    Option Tag :=
  if handle.isEmpty then some ⟨suffix⟩
  else (setting.handles.lookup handle).map fun leading => ⟨leading ++ suffix⟩

/-- The tag among the properties of a node, if there is one, or nothing if its
handle is unknown. -/
def Setting.tagOf? (setting : Setting) (properties : Properties) :
    Option (Option Tag) :=
  match properties.tag with
  | some (handle, suffix) => (setting.tag? handle suffix).map some
  | none => some none

def emptyScalar (head : Head) : Node :=
  .scalar head .plain ""

def emptyAt (mark : Mark) : Node :=
  emptyScalar (.bare mark)

/-- The cut at the next token, or at the end of the tokens. -/
def cutAt (setting : Setting) (reason : String) (remaining : Remaining) :
    Node :=
  match remaining.tokens with
  | [] => .cut setting.malformation
  | token :: _ => .cut ⟨reason, token.start⟩

/-- The entries of a mapping that has one entry and no marks of its own. The
token after it shows that it ends there. -/
def closeEntry (setting : Setting) (entry : Node × Node)
    (remaining : Remaining) : List (Node × Node) :=
  let cut := Node.cut setting.malformation
  if remaining.tokens.isEmpty then [entry, (cut, cut)] else [entry]

/-- Where a token stops, or the start of the text. -/
def stopOf (remaining : Remaining) : Mark :=
  (remaining.tokens.head?.map Token.stop).getD .start

def startOf (remaining : Remaining) : Mark :=
  (remaining.tokens.head?.map Token.start).getD .start

mutual

/-- Builds a node. Blocks may only start where `block` holds, and items of a
sequence that is not indented only where `indentless` holds. The count bounds the
number of steps. -/
def buildNode (setting : Setting) (block indentless : Bool) :
    Nat → Remaining → Built Node
  | 0, remaining => (.cut setting.malformation, remaining.stop)
  | bound + 1, remaining =>
      match remaining.tokens with
      | [] => (.cut setting.malformation, remaining)
      | ⟨.alias name, start, _⟩ :: rest =>
          match remaining.anchors.lookup name with
          | some anchor =>
              (.alias start anchor, { remaining with tokens := rest })
          | none => (.cut ⟨"unknown anchor", start⟩, remaining.stop)
      | first :: _ =>
          let (properties, tokens) :=
            takeProperties ⟨none, first.start, none, none⟩ remaining.tokens
          let start := properties.start.getD first.start
          let here : Remaining := { remaining with tokens }
          let anchored :=
            match properties.anchor with
            | some name => here.setAnchor name
            | none => here
          match setting.tagOf? properties with
          | none => (.cut ⟨"found undefined tag handle", start⟩, here.stop)
          | some tag =>
              match tokens with
              | [] => (.cut setting.malformation, here)
              | token :: _ =>
                  buildContent setting block indentless bound
                    ⟨start, properties.anchor.bind (anchored.anchors.lookup ·), tag⟩
                    properties.start.isSome token.kind anchored

def buildContent (setting : Setting) (block indentless : Bool) :
    Nat → Head → Bool → TokenKind → Remaining → Built Node
  | 0, _, _, _, remaining => (.cut setting.malformation, remaining.stop)
  | bound + 1, head, marked, kind, remaining =>
      let sequence (built : Built (List Node)) : Built Node :=
        (.sequence head built.1, built.2)
      let mapping (built : Built (List (Node × Node))) : Built Node :=
        (.mapping head built.1, built.2)
      match kind, block, indentless with
      | .scalar style text, _, _ => (.scalar head style text, remaining.skip)
      | .flowSequenceStart, _, _ =>
          sequence (buildFlowItems setting bound true remaining.skip)
      | .flowMappingStart, _, _ =>
          mapping (buildFlowEntries setting bound true remaining.skip)
      | .blockEntry, _, true =>
          sequence (buildLooseItems setting bound remaining)
      | .blockSequenceStart, true, _ =>
          sequence (buildBlockItems setting bound remaining.skip)
      | .blockMappingStart, true, _ =>
          mapping (buildBlockEntries setting bound remaining.skip)
      | _, _, _ =>
          if marked then (emptyScalar head, remaining)
          else
            (cutAt setting "did not find expected node content" remaining,
              remaining.stop)

/-- Builds the key or the value after its mark in a block mapping; it is empty
if the next token is of one of the given kinds. -/
def buildAfterMark (setting : Setting) :
    Nat → List TokenKind → Remaining → Built Node
  | 0, _, remaining => (.cut setting.malformation, remaining.stop)
  | bound + 1, ends, remaining =>
      let next := remaining.skip
      if next.isNone ends then buildNode setting true true bound next
      else (emptyAt (stopOf remaining), next)

def buildBlockItems (setting : Setting) :
    Nat → Remaining → Built (List Node)
  | 0, remaining => ([.cut setting.malformation], remaining.stop)
  | bound + 1, remaining =>
      match remaining.kind? with
      | some .blockEntry =>
          let next := remaining.skip
          let (item, after) :=
            if next.isNone [.blockEntry, .blockEnd] then
              buildNode setting true false bound next
            else (emptyAt (stopOf remaining), next)
          let (items, rest) := buildBlockItems setting bound after
          (item :: items, rest)
      | some .blockEnd => ([], remaining.skip)
      | _ =>
          ([cutAt setting "did not find expected '-' indicator" remaining],
            remaining.stop)

def buildLooseItems (setting : Setting) :
    Nat → Remaining → Built (List Node)
  | 0, remaining => ([.cut setting.malformation], remaining.stop)
  | bound + 1, remaining =>
      match remaining.kind? with
      | some .blockEntry =>
          let next := remaining.skip
          let (item, after) :=
            if next.isNone [.blockEntry, .key, .value, .blockEnd] then
              buildNode setting true false bound next
            else (emptyAt (stopOf remaining), next)
          let (items, rest) := buildLooseItems setting bound after
          (item :: items, rest)
      | some _ => ([], remaining)
      | none => ([.cut setting.malformation], remaining)

def buildBlockEntries (setting : Setting) :
    Nat → Remaining → Built (List (Node × Node))
  | 0, remaining =>
      ([(.cut setting.malformation, .cut setting.malformation)],
        remaining.stop)
  | bound + 1, remaining =>
      let ends := [TokenKind.key, .value, .blockEnd]
      match remaining.kind? with
      | some .key =>
          let (key, afterKey) :=
            buildAfterMark setting bound ends remaining
          let (value, after) :=
            match afterKey.kind? with
            | some .value => buildAfterMark setting bound ends afterKey
            | some _ => (emptyAt (startOf afterKey), afterKey)
            | none => (.cut setting.malformation, afterKey)
          let (entries, rest) := buildBlockEntries setting bound after
          ((key, value) :: entries, rest)
      | some .blockEnd => ([], remaining.skip)
      | _ =>
          let cut := cutAt setting "did not find expected key" remaining
          ([(cut, cut)], remaining.stop)

/-- Builds a key or a value of a flow collection; it is empty if the next token
is of one of the given kinds. -/
def buildInFlow (setting : Setting) :
    Nat → List TokenKind → Remaining → Built Node
  | 0, _, remaining => (.cut setting.malformation, remaining.stop)
  | bound + 1, ends, remaining =>
      if remaining.isNone ends then
        buildNode setting false false bound remaining
      else (emptyAt (startOf remaining), remaining)

/-- Builds the value of an entry of a flow collection; it is empty if there is no
colon. -/
def buildFlowValue (setting : Setting) :
    Nat → List TokenKind → Remaining → Built Node
  | 0, _, remaining => (.cut setting.malformation, remaining.stop)
  | bound + 1, ends, remaining =>
      match remaining.kind? with
      | some .value => buildInFlow setting bound ends remaining.skip
      | some _ => (emptyAt (startOf remaining), remaining)
      | none => (.cut setting.malformation, remaining)

/-- Builds the key of an item of a flow sequence, from after its mark. The token
that shows the key to be empty is passed over. -/
def buildItemKey (setting : Setting) :
    Nat → Remaining → Built Node
  | 0, remaining => (.cut setting.malformation, remaining.stop)
  | bound + 1, remaining =>
      if remaining.isNone [.value, .flowEntry, .flowSequenceEnd] then
        buildNode setting false false bound remaining
      else (emptyAt (stopOf remaining), remaining.skip)

/-- Builds the items of a flow sequence. An item with a colon is a mapping of one
entry. -/
def buildFlowItems (setting : Setting) :
    Nat → Bool → Remaining → Built (List Node)
  | 0, _, remaining => ([.cut setting.malformation], remaining.stop)
  | bound + 1, first, remaining =>
      let separated := first || remaining.kind? == some .flowEntry
      let start :=
        if first || remaining.kind? != some .flowEntry then remaining
        else remaining.skip
      match remaining.kind?, separated, start.kind? with
      | some .flowSequenceEnd, _, _ => ([], remaining.skip)
      | some _, true, some .flowSequenceEnd => ([], start.skip)
      | some _, true, some .key =>
          let (key, afterKey) := buildItemKey setting bound start.skip
          let (value, after) :=
            buildFlowValue setting bound [.flowEntry, .flowSequenceEnd]
              afterKey
          let (items, rest) := buildFlowItems setting bound false after
          (.mapping (.bare (startOf start))
              (closeEntry setting (key, value) after) :: items, rest)
      | some _, true, _ =>
          let (item, after) := buildNode setting false false bound start
          let (items, rest) := buildFlowItems setting bound false after
          (item :: items, rest)
      | _, _, _ =>
          ([cutAt setting "did not find expected ',' or ']'" remaining],
            remaining.stop)

/-- Builds the entries of a flow mapping. An entry without a colon has an empty
value. -/
def buildFlowEntries (setting : Setting) :
    Nat → Bool → Remaining → Built (List (Node × Node))
  | 0, _, remaining =>
      ([(.cut setting.malformation, .cut setting.malformation)],
        remaining.stop)
  | bound + 1, first, remaining =>
      let separated := first || remaining.kind? == some .flowEntry
      let start :=
        if first || remaining.kind? != some .flowEntry then remaining
        else remaining.skip
      match remaining.kind?, separated, start.kind? with
      | some .flowMappingEnd, _, _ => ([], remaining.skip)
      | some _, true, some .flowMappingEnd => ([], start.skip)
      | some _, true, some .key =>
          let (key, afterKey) :=
            buildInFlow setting bound
              [.value, .flowEntry, .flowMappingEnd] start.skip
          let (value, after) :=
            buildFlowValue setting bound [.flowEntry, .flowMappingEnd] afterKey
          let (entries, rest) := buildFlowEntries setting bound false after
          ((key, value) :: entries, rest)
      | some _, true, _ =>
          let (key, afterKey) := buildNode setting false false bound start
          let value :=
            match afterKey.kind? with
            | some _ => emptyAt (startOf afterKey)
            | none => .cut setting.malformation
          let (entries, rest) := buildFlowEntries setting bound false afterKey
          ((key, value) :: entries, rest)
      | _, _, _ =>
          let cut :=
            cutAt setting "did not find expected ',' or '\x7d'" remaining
          ([(cut, cut)], remaining.stop)

end

/-- What the handles of tags stand for without directives. -/
def standardHandles : List (String × Bytes) :=
  [("!", Utf8.encode "!"), ("!!", Utf8.encode "tag:yaml.org,2002:")]

/-- The directives before a document: what handles stand for, and whether a
version was named. -/
structure Directives where
  handles : List (String × Bytes)
  versioned : Bool

def takeDirectives (directives : Directives) :
    List Token → Except Malformation (Directives × List Token)
  | ⟨.versionDirective major minor, start, _⟩ :: rest =>
      if directives.versioned then
        .error ⟨"found duplicate %YAML directive", start⟩
      else if major = 1 ∧ (minor = 1 ∨ minor = 2) then
        takeDirectives { directives with versioned := true } rest
      else .error ⟨"found incompatible YAML document", start⟩
  | ⟨.tagDirective handle leading, start, _⟩ :: rest =>
      if (directives.handles.lookup handle).isSome then
        .error ⟨"found duplicate %TAG directive", start⟩
      else
        takeDirectives
          { directives with
            handles := directives.handles ++ [(handle, leading)] } rest
  | tokens => .ok (directives, tokens)

def endingOf (malformation : Malformation) : List Token → Ending
  | [] => .malformed malformation
  | ⟨.documentEnd, _, _⟩ :: rest =>
      match rest.dropWhile (·.kind == .documentEnd) with
      | [⟨.streamEnd, _, _⟩] => .finished
      | _ => .several
  | [⟨.streamEnd, _, _⟩] => .finished
  | _ => .several

def Document.ofRoot (setting : Setting) (tokens : List Token) : Document :=
  let (root, rest) :=
    buildNode setting true false (3 * tokens.length + 8) ⟨tokens, []⟩
  ⟨root, endingOf setting.malformation rest.tokens⟩

/-- The document after an explicit start. -/
def Document.ofContent (setting : Setting) (tokens : List Token) :
    Document :=
  match tokens.head?.map Token.kind with
  | some (.versionDirective _ _) | some (.tagDirective _ _)
  | some .documentStart | some .documentEnd | some .streamEnd =>
      ⟨emptyAt (startOf ⟨tokens, []⟩),
        endingOf setting.malformation tokens⟩
  | _ => Document.ofRoot setting tokens

def Document.ofTokens (source : Tokens) : Document :=
  let malformation := source.malformation.getD ⟨"", .start⟩
  match source.tokens with
  | [] => ⟨.cut malformation, .malformed malformation⟩
  | ⟨.streamEnd, start, _⟩ :: _ => ⟨.absent start, .finished⟩
  | first :: rest =>
      match takeDirectives ⟨[], false⟩ (first :: rest) with
      | .error fault => ⟨.cut fault, .malformed fault⟩
      | .ok (directives, tokens) =>
          let setting : Setting :=
            ⟨malformation, directives.handles ++ standardHandles⟩
          match tokens with
          | [] => ⟨.cut malformation, .malformed malformation⟩
          | ⟨.documentStart, _, _⟩ :: content => .ofContent setting content
          | token :: _ =>
              if tokens.length = (first :: rest).length then
                .ofRoot setting tokens
              else
                let fault : Malformation :=
                  ⟨"did not find expected <document start>", token.start⟩
                ⟨.cut fault, .malformed fault⟩

def Document.parse (text : String) : Document :=
  .ofTokens (tokenize text.toList)

end Parley.Yaml
