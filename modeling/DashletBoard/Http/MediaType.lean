/-
Module: DashletBoard.Http.MediaType
Purpose: Media types of bodies, and which of them announce JSON.
Main exports: isTokenChar, MediaType, MediaType.parse?, MediaType.isJson, announcesJson
-/

namespace DashletBoard.Http

/-- The characters of a token: letters, digits and some punctuation of ASCII. -/
def isTokenChar (c : Char) : Bool :=
  c.isAlpha || c.isDigit || "!#$%&'*+-.^_\x60|~".toList.contains c

/-- A media type: the top-level type, and the subtype up to its last plus sign with the suffix after
it.  All are in lower case. -/
structure MediaType where
  type : List Char
  subtype : List Char
  suffix : Option (List Char)
deriving Repr, DecidableEq

namespace MediaType

/-!
### Parameters

The names and values of parameters do not matter, but they must be well-formed.  Blanks are allowed
only in front of a name and after a quoted value.
-/

/-- The part of a parameter that is read next. -/
inductive Place where
  | nameStart
  | name
  | valueStart
  | value
  | quotedStart
  | quoted
  | afterQuoted
deriving Repr, DecidableEq

/-- Whether the text of parameters after the first semicolon is well-formed, read from a place on.  A
quoted value has at least one character, so a quote at its start does not end it. -/
def parametersAreFine : Place → List Char → Bool
  | .nameStart, [] => true
  | .nameStart, c :: rest =>
    if c == ' ' then parametersAreFine .nameStart rest
    else isTokenChar c && parametersAreFine .name rest
  | .name, [] => false
  | .name, c :: rest =>
    if isTokenChar c then parametersAreFine .name rest
    else c == '=' && parametersAreFine .valueStart rest
  | .valueStart, [] => true
  | .valueStart, c :: rest =>
    if c == '"' then parametersAreFine .quotedStart rest
    else isTokenChar c && parametersAreFine .value rest
  | .value, [] => true
  | .value, c :: rest =>
    if isTokenChar c then parametersAreFine .value rest
    else c == ';' && parametersAreFine .nameStart rest
  | .quotedStart, [] => false
  | .quotedStart, c :: rest =>
    31 < c.toNat && c.toNat != 127 && parametersAreFine .quoted rest
  | .quoted, [] => false
  | .quoted, c :: rest =>
    if c == '"' then parametersAreFine .afterQuoted rest
    else 31 < c.toNat && c.toNat != 127 && parametersAreFine .quoted rest
  | .afterQuoted, [] => true
  | .afterQuoted, c :: rest =>
    if c == ' ' then parametersAreFine .afterQuoted rest
    else c == ';' && parametersAreFine .nameStart rest

/-- Subtype and suffix of a token: the last plus sign that is not at the front divides them. -/
def divide (token : List Char) : List Char × Option (List Char) :=
  let suffix := (token.reverse.takeWhile (· != '+')).reverse
  let front := token.take (token.length - suffix.length)
  match front.length with
  | 0 => (token, none)
  | 1 => (token, none)
  | _ => (front.dropLast, some suffix)

/-- Reads a media type. -/
def parse? (text : List Char) : Option MediaType :=
  let (type, rest) := (text.map Char.toLower).span isTokenChar
  match rest with
  | '/' :: rest =>
    let (token, rest) := rest.span isTokenChar
    let fine := match rest with
      | [] => true
      | c :: rest => c == ';' && !token.isEmpty && parametersAreFine .nameStart rest
    if type.isEmpty || !fine then none
    else
      let (subtype, suffix) := divide token
      some ⟨type, subtype, suffix⟩
  | _ => none

/-- Whether a media type stands for JSON: `application/json`, or an application type with the suffix
`json`. -/
def isJson (media : MediaType) : Bool :=
  media.type == "application".toList
    && (media.subtype == "json".toList || media.suffix == some "json".toList)

end MediaType

/-- Whether a content type announces JSON.  A header with anything but visible characters of ASCII,
spaces and tabs has no readable value. -/
def announcesJson (contentType : String) : Bool :=
  let text := contentType.toList
  (text.all fun c => (32 ≤ c.toNat && c.toNat < 127) || c == '\t')
    && match MediaType.parse? text with
      | some media => media.isJson
      | none => false

end DashletBoard.Http
