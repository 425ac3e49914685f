/-!
Contract: the parameters of a media type.

A media type has a type and a subtype with a solidus between them, and after each
semicolon a parameter. The value of a parameter is a token, or any text between
double quotes. A text that strays from this form is no media type at all.

Owns: `MediaType.parameters?` and the search for a parameter.
-/

namespace Parley.Http.MediaType

abbrev Parameter := List Char × List Char

def isToken (char : Char) : Bool :=
  char.isAlphanum ||
    ['!', '#', '$', '%', '&', '\'', '*', '+', '-', '.', '^', '_', '\u0060', '|',
      '~'].contains char

/-- Whether a character can be seen or is a blank, as all of a media type. -/
def isVisible (char : Char) : Bool :=
  (' ' ≤ char && char ≤ '~') || char == '\t'

/-- The text after the semicolon that ends a parameter, or the end of the
text. -/
def afterParameter? : List Char → Option (List Char)
  | [] => some []
  | ';' :: rest => some rest
  | _ => none

/-- Takes a value from after its opening quote. It ends at the next quote, but is
not empty: a quote that is its first character belongs to it. -/
def takeQuoted? : List Char → Option (List Char × List Char)
  | [] => none
  | first :: rest =>
      let value := first :: rest.takeWhile (· ≠ '"')
      match rest.dropWhile (· ≠ '"') with
      | [] => none
      | _ :: after =>
          if value.contains '\t' then none
          else
            (afterParameter? (after.dropWhile (· = ' '))).map fun next =>
              (value, next)

/-- Takes a value that is a token, which may be empty at the end of the text. -/
def takeToken? (text : List Char) : Option (List Char × List Char) :=
  let value := text.takeWhile isToken
  let rest := text.dropWhile isToken
  if value.isEmpty && !rest.isEmpty then none
  else (afterParameter? rest).map fun next => (value, next)

def takeValue? : List Char → Option (List Char × List Char)
  | '"' :: rest => takeQuoted? rest
  | text => takeToken? text

/-- Takes parameters up to the end of the text. The count bounds their number. -/
def takeParameters? : Nat → List Char → Option (List Parameter)
  | 0, _ => none
  | bound + 1, text =>
      let start := text.dropWhile (· = ' ')
      let name := start.takeWhile isToken
      if start.isEmpty then some []
      else if name.isEmpty then none
      else
        match start.dropWhile isToken with
        | '=' :: after =>
            match takeValue? after with
            | none => none
            | some (value, rest) =>
                (takeParameters? bound rest).map ((name, value) :: ·)
        | _ => none

def parameters? (text : List Char) : Option (List Parameter) :=
  if !text.all isVisible || text.head? == some '/' then none
  else
    match text.dropWhile isToken with
    | '/' :: rest =>
        match rest.dropWhile isToken with
        | [] => some []
        | ';' :: more =>
            if rest.head? == some ';' then none
            else takeParameters? (more.length + 1) more
        | _ => none
    | _ => none

/-- The value of the first parameter with a name in lower case. -/
def parameter? (name : String) (text : String) : Option (List Char) :=
  (parameters? text.toList).bind fun parameters =>
    (parameters.find? fun parameter =>
      parameter.1.map Char.toLower == name.toList).map Prod.snd

end Parley.Http.MediaType
