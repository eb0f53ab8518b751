/-!
# Media types

A media type is `type/subtype`, with `+suffix` and parameters where they apply.
`MediaType.parse?` reads one; `MediaType.isJson` says whether it announces JSON: by
being `application/json` or by its suffix. Names are compared letter by letter.
-/

namespace TypedClient.Api

/-- A media type without its parameters. -/
structure MediaType where
  /-- The type, as `application`. -/
  type : String
  /-- The subtype without its suffix. -/
  subtype : String
  /-- What follows the last plus sign of the subtype, if there is one. -/
  suffix : Option String
  deriving DecidableEq, Repr

namespace MediaType

/-- The length up to which a name is one. -/
def maxNameLength : Nat := 127

/-- Whether a character may start a name. -/
def startsName (c : Char) : Bool :=
  c.isAlphanum || c == '*'

/-- Whether a character may stand in a name. -/
def inName (c : Char) : Bool :=
  startsName c || "!#$&-^_.+%'".toList.contains c

/-- Whether a text is a name. -/
def isName (text : List Char) : Bool :=
  text.length ≤ maxNameLength && text.all inName && (text.head?.map startsName).getD false

/-- Whether a text is allowed as a suffix: one character and a name after it. -/
def isSuffix (text : List Char) : Bool :=
  isName (text.drop 1)

/-- Whether a character is a blank between the parts of a media type. -/
def isSpace (c : Char) : Bool :=
  c == ' ' || c == '\t'

/-- What is left after the quoted value of a parameter, given what follows its opening quote. A line
feed may stand there only after a backslash. -/
def afterQuote? : List Char → Option (List Char)
  | [] => none
  | '\\' :: _ :: rest => afterQuote? rest
  | c :: rest => if c = '"' then some rest else if c = '\n' then none else afterQuote? rest

/-- What is left after one parameter, from the semicolon before it on; none if none stands there. -/
def afterParameter? (text : List Char) : Option (List Char) :=
  match text.dropWhile isSpace with
  | ';' :: rest =>
    let named := rest.dropWhile isSpace
    if isName (named.takeWhile inName) then
      match named.dropWhile inName with
      | '=' :: '"' :: value => afterQuote? value
      | '=' :: value => some (value.dropWhile inName)
      | _ => none
    else none
  | _ => none

/-- Whether nothing but blanks is left, around at most one semicolon. -/
def isBlankEnd (text : List Char) : Bool :=
  match text.dropWhile isSpace with
  | [] => true
  | ';' :: rest => rest.all isSpace
  | _ => false

/-- Whether a text is a run of parameters, of which there are at most `count`. -/
def areParameters : Nat → List Char → Bool
  | 0, text => isBlankEnd text
  | count + 1, text =>
    isBlankEnd text ||
      match afterParameter? text with
      | some rest => areParameters count rest
      | none => false

/-- The parts of a subtype around its last plus sign. -/
def splitSuffix (text : List Char) : List Char × Option (List Char) :=
  let back := text.reverse
  if text.contains '+' then
    ((back.dropWhile (· != '+')).tail.reverse, some (back.takeWhile (· != '+')).reverse)
  else (text, none)

/-- Reads a media type with its parameters. -/
def parse? (text : List Char) : Option MediaType :=
  let type := text.takeWhile (· != '/')
  match text.dropWhile (· != '/') with
  | [] => none
  | _ :: rest =>
    let (subtype, suffix) := splitSuffix (rest.takeWhile inName)
    if isName type && isName subtype && (suffix.map isSuffix).getD true &&
        areParameters text.length (rest.dropWhile inName) then
      some ⟨String.ofList type, String.ofList subtype, suffix.map String.ofList⟩
    else none

/-- Whether a media type announces JSON. -/
def isJson (m : MediaType) : Bool :=
  (m.type == "application" && m.subtype == "json") || m.suffix == some "json"

end MediaType

/-- Whether a text is a media type that announces JSON. -/
def announcesJson (text : String) : Bool :=
  ((MediaType.parse? text.toList).map MediaType.isJson).getD false

end TypedClient.Api
