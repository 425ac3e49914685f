import Parley.Url.Host

/-!
Contract: absolute addresses of resources.

Some schemes are *special*: their addresses always have a host and a path, and a
reverse solidus separates like a solidus. The parser removes blanks around the
address and tabs and line breaks inside it, resolves dots in the path, and drops
a port that is the scheme's own.

A *drive* is a letter with a colon or a bar behind it. Dots never lead out of a
segment that is one. At the start of the path of a file it stands without a host,
and its bar becomes a colon.

Owns: `Address`, its parser and its text.
-/

namespace Parley.Url

/-- The path of an address: segments behind solidi, or text that no solidus
starts. -/
inductive Path where
  | segments (parts : List (List Char))
  | rootless (text : List Char)
deriving DecidableEq, Repr

structure Credentials where
  name : List Char
  password : Option (List Char)
deriving DecidableEq, Repr

structure Address where
  scheme : String
  credentials : Option Credentials
  host : Option Host
  port : Option Nat
  path : Path
  query : Option (List Char)
  fragment : Option (List Char)
deriving DecidableEq, Repr

namespace Address

def ownPort? (scheme : String) : Option Nat :=
  [("http", 80), ("https", 443), ("ws", 80), ("wss", 443),
    ("ftp", 21)].lookup scheme

def isSpecial (scheme : String) : Bool :=
  scheme == "file" || (ownPort? scheme).isSome

/-- The text without control characters and spaces around it. -/
def trimControls (text : List Char) : List Char :=
  let isOuter (char : Char) : Bool := char.toNat ≤ 0x20
  ((text.dropWhile isOuter).reverse.dropWhile isOuter).reverse

/-- Whether a character is a tab or ends a line. Such characters are ignored. -/
def isIgnored (char : Char) : Bool :=
  char == '\t' || char == '\n' || char == '\r'

def dropIgnored (text : List Char) : List Char :=
  text.filter (!isIgnored ·)

def dropVisible : Nat → List Char → List Char
  | _, [] => []
  | 0, text => text
  | count + 1, char :: rest =>
      if isIgnored char then dropVisible (count + 1) rest
      else dropVisible count rest

def takeScheme (text : List Char) : Option (String × List Char) :=
  let isNameChar (char : Char) : Bool :=
    char.isAlphanum || ['+', '-', '.'].contains char || isIgnored char
  let name := dropIgnored (text.takeWhile isNameChar)
  match text.dropWhile isNameChar with
  | ':' :: rest =>
      if name.head?.any Char.isAlpha then
        some (String.ofList (name.map Char.toLower), rest)
      else none
  | _ => none

def isSeparator (special : Bool) (char : Char) : Bool :=
  char == '/' || (special && char == '\\')

def endsAuthority (special : Bool) (char : Char) : Bool :=
  isSeparator special char || char == '?' || char == '#'

/-- The text before the last commercial at, if there is one, and the text after
it. -/
def splitCredentials (authority : List Char) :
    Option (List Char) × List Char :=
  let rest := (authority.reverse.takeWhile (· ≠ '@')).reverse
  if authority.contains '@' then
    (some (authority.take (authority.length - rest.length - 1)), rest)
  else (none, authority)

/-- The credentials before a commercial at, of which one part at least is not
empty. What stands behind their first colon is the password. -/
def readCredentials (text : List Char) : Option Credentials :=
  let name := text.takeWhile (· ≠ ':')
  let password := text.drop (name.length + 1)
  if name.isEmpty && password.isEmpty then none
  else
    some
      { name := Percent.encode Percent.inCredentials name
        password := if password.isEmpty then none
          else some (Percent.encode Percent.inCredentials password) }

/-- Whether credentials allow a host to be empty: they have neither a name nor a
password, and if not even a colon stands there, nothing follows either. -/
def allowsNoHost (credentials : Option (List Char)) (rest : List Char) : Bool :=
  match credentials with
  | none => true
  | some [] => rest.isEmpty
  | some text => text == [':']

/-- The host of an authority and the text after it: a colon and a port, or
nothing. Colons in brackets belong to the host. -/
def splitPort (bracketed : Bool) : List Char → List Char × List Char
  | [] => ([], [])
  | char :: rest =>
      if char = ':' ∧ !bracketed then ([], char :: rest)
      else
        let inside :=
          if char = '[' then true else if char = ']' then false else bracketed
        let (host, port) := splitPort inside rest
        (char :: host, port)

/-- The port that is written behind a host; a scheme's own port is none. A
reverse solidus ends it, and the text from there on belongs to the path. -/
def parsePort (scheme : String) (text : List Char) :
    Except Fault (Option Nat × List Char) :=
  let digits := (text.drop 1).takeWhile (· ≠ '\\')
  let rest := (text.drop 1).dropWhile (· ≠ '\\')
  if !digits.all Char.isDigit then .error .invalidPort
  else
    match Text.numberIn? 10 digits with
    | none => .error .invalidPort
    | some port =>
        if 65535 < port then .error .invalidPort
        else if digits.isEmpty || ownPort? scheme == some port then
          .ok (none, rest)
        else .ok (some port, rest)

/-- What the text between two solidi and a path spells: credentials, a host, a
port, and the start of the path if that is no solidus. -/
structure Authority where
  credentials : Option Credentials
  host : Host
  port : Option Nat
  rest : List Char

/-- Parses an authority, given the text after it. -/
def parseAuthority (scheme : String) (authority rest : List Char) :
    Except Fault Authority :=
  let (credentials, named) := splitCredentials authority
  let (host, port) := splitPort false named
  if host.isEmpty then
    if isSpecial scheme || !port.isEmpty || !allowsNoHost credentials rest then
      .error .emptyHost
    else .ok ⟨none, .domain [], none, []⟩
  else do
    let parsed ←
      if isSpecial scheme then Host.parse host else Host.parseOther host
    let (number, start) ← parsePort scheme port
    pure ⟨credentials.bind readCredentials, parsed, number, start⟩

/-- Whether a segment is a number of dots, where each may be written as an
escape. -/
def isDots : Nat → List Char → Bool
  | 0, segment => segment.isEmpty
  | count + 1, '.' :: rest => isDots count rest
  | count + 1, '%' :: '2' :: digit :: rest =>
      (digit == 'e' || digit == 'E') && isDots count rest
  | _, _ => false

def splitSegments (special : Bool) : List Char → List (List Char)
  | [] => [[]]
  | char :: rest =>
      if isSeparator special char then [] :: splitSegments special rest
      else
        match splitSegments special rest with
        | [] => [[char]]
        | part :: parts => (char :: part) :: parts

/-- Whether a segment is a drive, or a drive with a reverse solidus behind it. -/
def isDrive : List Char → Bool
  | letter :: mark :: rest =>
      letter.isAlpha && (mark == ':' || mark == '|') &&
        rest.head?.all (· == '\\')
  | _ => false

/-- A drive with a colon in place of its bar. Other segments stay. -/
def normalizeDrive : List Char → List Char
  | [letter, '|'] => if letter.isAlpha then [letter, ':'] else [letter, '|']
  | segment => segment

/-- A drive with a colon, and the text after it in its segment, if characters
that are ignored stand between the two. -/
def brokenDrive? (segment : List Char) : Option (List Char × List Char) :=
  let drive := (dropIgnored segment).take 2
  let rest := dropVisible 2 segment
  let more := dropIgnored rest
  if isDrive drive && drive.contains ':' && rest.head?.any isIgnored &&
      !more.isEmpty then
    some (drive, more)
  else none

/-- A path as far as it was resolved: its segments, last first, and whether it
started from a drive at some time. -/
structure Trail where
  segments : List (List Char)
  fromDrive : Bool

namespace Trail

def start : Trail :=
  ⟨[], false⟩

/-- The trail with one more segment. At the start of the path of a file a drive
is noticed, and written with a colon. -/
def add (trail : Trail) (isFile : Bool) (segment : List Char) : Trail :=
  if isFile && trail.segments.isEmpty && isDrive segment then
    ⟨[normalizeDrive segment], true⟩
  else ⟨segment :: trail.segments, trail.fromDrive⟩

/-- The trail after two dots, which lead out of the last segment unless it is a
drive. -/
def leave (trail : Trail) : Trail :=
  if trail.segments.head?.any isDrive then trail
  else ⟨trail.segments.tail, trail.fromDrive⟩

/-- The trail after a segment of dots, which stands for an empty one if it is the
last. -/
def close (trail : Trail) (isLast : Bool) : Trail :=
  if isLast then ⟨[] :: trail.segments, trail.fromDrive⟩ else trail

/-- The trail after one more segment, which may be dots. What follows a broken
drive at the start of the path of a file is a segment of its own, even if it is
dots. -/
def step (trail : Trail) (isFile isLast : Bool) (segment : List Char) : Trail :=
  let plain := Percent.encode Percent.inPath (dropIgnored segment)
  match
    if isFile && trail.segments.isEmpty then brokenDrive? segment else none with
  | some (drive, more) =>
      ⟨[Percent.encode Percent.inPath more, drive], trail.fromDrive⟩
  | none =>
      if isDots 2 plain then trail.leave.close isLast
      else if isDots 1 plain then trail.close isLast
      else trail.add isFile plain

def follow (isFile : Bool) (trail : Trail) : List (List Char) → Trail
  | [] => trail
  | segment :: rest => follow isFile (trail.step isFile rest.isEmpty segment) rest

end Trail

/-- The trail of a path whose first separator was taken, or stood for itself. -/
def resolve (scheme : String) (text : List Char) : Trail :=
  Trail.follow (scheme == "file") .start
    (splitSegments (isSpecial scheme) text)

def dropSeparator (special : Bool) (text : List Char) : List Char :=
  if (dropIgnored text).head?.any (isSeparator special) then dropVisible 1 text
  else text

def parseSegments (scheme : String) (text : List Char) : Path :=
  .segments
    (resolve scheme (dropSeparator (isSpecial scheme) text)).segments.reverse

/-- The parts of a text before the first question mark or number sign, between
these, and after the number sign. -/
def splitTail (text : List Char) :
    List Char × Option (List Char) × Option (List Char) :=
  let path := text.takeWhile fun char => char != '?' && char != '#'
  let ofFragment : List Char → Option (List Char)
    | '#' :: fragment => some fragment
    | _ => none
  match text.drop path.length with
  | '?' :: rest =>
      let query := rest.takeWhile (· ≠ '#')
      (path, some query, ofFragment (rest.drop query.length))
  | rest => (path, none, ofFragment rest)

def complete (scheme : String) (host : Option Host) (port : Option Nat)
    (path : List Char → Path) (text : List Char) : Address :=
  let (pathText, query, fragment) := splitTail text
  let inQuery :=
    if isSpecial scheme then Percent.inSpecialQuery else Percent.inQuery
  { scheme, host, port
    credentials := none
    path := path pathText
    query := query.map fun text => Percent.encode inQuery (dropIgnored text)
    fragment := fragment.map fun text =>
      Percent.encode Percent.inFragment (dropIgnored text) }

def Authority.complete (authority : Authority) (scheme : String)
    (path : List Char → Path) (text : List Char) : Address :=
  { Address.complete scheme (some authority.host) authority.port path text with
    credentials := authority.credentials }

/-- The address after a scheme and the two solidi of its authority. -/
def parseHosted (scheme : String) (text : List Char) :
    Except Fault Address := do
  let special := isSpecial scheme
  let written := text.takeWhile (!endsAuthority special ·)
  let after := text.drop written.length
  let authority ← parseAuthority scheme written after
  let path (pathText : List Char) : Path :=
    if special || !pathText.isEmpty then parseSegments scheme pathText
    else .segments []
  pure (authority.complete scheme path (authority.rest ++ after))

/-- The address of a file with a host, given its path before empty segments at
the start are dropped. A path that starts from a drive has no host. -/
def completeFile (host : Option Host)
    (trail : List Char → Trail) (text : List Char) : Address :=
  let path := trail (splitTail text).1
  let parts := path.segments.reverse
  let kept :=
    if parts.all List.isEmpty then [[]] else parts.dropWhile List.isEmpty
  complete "file" (if path.fromDrive then none else host) none
    (fun _ => .segments kept) text

/-- The address of a file after two separators. Its host may be empty; a drive is
no host. -/
def parseFileHost (text : List Char) : Except Fault Address :=
  let written := text.takeWhile (!endsAuthority true ·)
  let after := text.drop written.length
  let name := dropIgnored written
  if name.length = 2 ∧ isDrive name then
    .ok (completeFile none (resolve "file") text)
  else if name.isEmpty then .ok (completeFile none (resolve "file") after)
  else
    (Host.parse name).map fun host =>
      if host = .domain "localhost".toList then
        completeFile none (resolve "file") after
      else
        completeFile (some host)
          (fun path => resolve "file" (dropSeparator true path)) after

def parseFile (text : List Char) : Except Fault Address :=
  let apart := (dropIgnored text).takeWhile (isSeparator true)
  if 1 < apart.length then parseFileHost (dropVisible 2 text)
  else
    .ok (completeFile none
      (fun path => resolve "file" (dropSeparator true path)) text)

def parse (text : String) : Except Fault Address :=
  match takeScheme (trimControls text.toList) with
  | none => .error .relative
  | some ("file", rest) => parseFile rest
  | some (scheme, rest) =>
      let visible := dropIgnored rest
      if isSpecial scheme then
        parseHosted scheme (visible.dropWhile (isSeparator true))
      else
        match visible with
        | '/' :: '/' :: hosted => parseHosted scheme hosted
        | '/' :: _ =>
            .ok (complete scheme none none (parseSegments scheme) visible)
        | _ =>
            .ok (complete scheme none none
              (fun path => .rootless (Percent.encode Percent.isControl path))
              visible)

def writePath : Path → List Char
  | .segments parts => parts.flatMap ('/' :: ·)
  | .rootless text => text

/-- What a client asks a host for: the path and the query. -/
def target (address : Address) : List Char :=
  writePath address.path ++
    match address.query with
    | none => []
    | some query => '?' :: query

def authority (address : Address) : List Char :=
  match address.host with
  | none => []
  | some host =>
      host.write ++
        match address.port with
        | none => []
        | some port => ':' :: Nat.toDigits 10 port

/-- The text between the colon of the scheme and the authority. Without a host, a dot
segment keeps a path that two solidi start from being read as one. -/
def opening (address : Address) : List Char :=
  if address.host.isSome || address.scheme == "file" then ['/', '/']
  else if ['/', '/'].isPrefixOf (writePath address.path) then ['/', '.']
  else []

def writeCredentials : Option Credentials → List Char
  | none => []
  | some credentials =>
      credentials.name ++
        match credentials.password with
        | none => ['@']
        | some password => ':' :: password ++ ['@']

def write (address : Address) : String :=
  String.ofList (address.scheme.toList ++ ':' ::
    (address.opening ++ writeCredentials address.credentials ++
      address.authority ++ address.target ++
      match address.fragment with
      | none => []
      | some fragment => '#' :: fragment))

end Address

end Parley.Url
