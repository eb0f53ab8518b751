import TypedClient.Api.Document
import TypedClient.Client.Declaration
import TypedClient.Client.Route

/-!
# Methods

A method of the client takes a request apart into local bindings and sends their
values to the service: those in the path as part of the route, all of them as
query parameters under the names that the service knows, and the rest of the
request as its body. It has one signature for each kind of answer.
-/

namespace TypedClient.Client

open TypedClient.Api (Verb)

/-- An argument of a method. -/
structure Argument where
  /-- The name that the service knows. -/
  serviceName : String
  /-- The key of its field in the request. -/
  key : String
  /-- The local that it is bound to. -/
  binding : String
  /-- The text about it. -/
  description : Option String
  deriving DecidableEq, Repr

/-- An entry of a pattern or object that ties a key to a local. -/
def entryText (key binding : String) : String :=
  if key = binding then binding else keyText key ++ ": " ++ binding

/-- The entry that takes the argument out of a request. -/
def Argument.taken (a : Argument) : String := entryText a.key a.binding

/-- The entry that sends the argument to the service. -/
def Argument.sent (a : Argument) : String := entryText a.serviceName a.binding

/-- A method. -/
structure Method where
  /-- The name of the method. -/
  name : String
  /-- The text about it. -/
  documentation : Option String
  /-- The verb of the call. -/
  verb : Verb
  /-- The path of the call, with placeholders. -/
  path : String
  /-- The arguments in order. -/
  arguments : List Argument
  /-- The type of its request. -/
  request : RequestType
  /-- The type of its answer. -/
  response : ResponseType
  /-- Whether the options may be left out. -/
  optionsOptional : Bool

namespace Method

/-- Whether the call has a body. -/
def hasBody (m : Method) : Bool := m.request.body.isBody

/-- The binding of the argument that the service knows by a name. -/
def binding? (m : Method) (name : String) : Option String :=
  (m.arguments.find? fun a => a.serviceName == name).map Argument.binding

/-- The route of the call as it stands between the backquotes of a template literal. -/
def route (m : Method) : String := routeText m.binding? m.path.toList

/-! ### Comment -/

/-- The line of the comment about an argument. -/
def argumentLine (a : Argument) : String :=
  " * @param " ++ a.binding ++ ((commentSummary? a.description).map (" " ++ ·)).getD ""

/-- The lines of the comment before the method. -/
def commentLines (m : Method) : List String :=
  let body := commentBody m.documentation
  ["/**", " * " ++ m.name] ++ (if body.isEmpty then [] else " *" :: body) ++ [" *"] ++
    m.arguments.map argumentLine ++
    [" * @param " ++ requestOptionsKey ++ " Override the default Axios request configuration",
      " * @param " ++ returnAxiosKey ++
        " If true, the full Axios response is returned instead of the unwrapped " ++
        "\x60results\x60",
      " */"]

/-! ### Signatures -/

/-- The type of an answer that is taken out of its envelope. -/
def bare (m : Method) : String := m.response.name ++ "['results']"

/-- The type of an answer in its envelope. -/
def enveloped (m : Method) : String := "AxiosResponse<" ++ m.response.name ++ ">"

/-- The type of an answer of either kind. -/
def either (m : Method) : String := m.bare ++ " | " ++ m.enveloped

/-- A signature for the requests whose field for the kind of answer is declared by `flag`. -/
def signature (m : Method) (isOptional : Bool) (flag answer : String) : String :=
  "public " ++ m.name ++ "(options" ++ (if isOptional then "?" else "") ++ ": " ++
    m.request.name ++ " & \x7b " ++ returnAxiosKey ++ flag ++ " \x7d): Promise<" ++ answer ++ ">;"

/-- The signatures: for the answer taken out of its envelope, for the answer in it, and for
either. -/
def signatures (m : Method) : List String := [
  m.signature m.optionsOptional "?: false" m.bare,
  m.signature false ": true" m.enveloped,
  m.signature m.optionsOptional "?: boolean" m.either]

/-- The entries of the pattern that takes a request apart. -/
def patternEntries (m : Method) : List String :=
  m.arguments.map Argument.taken ++ [requestOptionsKey, returnAxiosKey ++ " = false"] ++
    (if m.hasBody then ["..." ++ bodyLocal] else [])

/-- The first line of the implementation. -/
def headLine (m : Method) : String :=
  "public async " ++ m.name ++ "(\x7b " ++ ", ".intercalate m.patternEntries ++ " \x7d: " ++
    m.request.name ++ (if m.optionsOptional then " = \x7b\x7d" else "") ++ "): Promise<" ++
    m.either ++ "> \x7b"

/-! ### Body -/

/-- The entries of the call. -/
def callEntries (m : Method) : List String :=
  ["method: '" ++ m.verb.upper ++ "'", "url: \x60" ++ m.route ++ "\x60"] ++
    (if m.hasBody then ["data: " ++ bodyLocal] else []) ++
    (if m.arguments.isEmpty then []
      else ["params: \x7b " ++ ", ".intercalate (m.arguments.map Argument.sent) ++ " \x7d"])

/-- Lines with a comma after each but the last. -/
def withCommas : List String → List String
  | [] => []
  | [last] => [last]
  | line :: rest => (line ++ ",") :: withCommas rest

/-- The lines of the body. -/
def bodyLines (m : Method) : List String :=
  [indent 1 ++ "const " ++ resultsLocal ++ " = await this.api<" ++ m.response.name ++ ">(\x7b"] ++
    withCommas (m.callEntries.map (indent 2 ++ ·)) ++
    [indent 1 ++ "\x7d, " ++ requestOptionsKey ++ ");", "",
      indent 1 ++ "return " ++ returnAxiosKey ++
        " ? results : (typeof results.data === 'object' ? results.data.results : results.data);",
      "\x7d"]

/-- All lines of the method. -/
def lines (m : Method) : List String :=
  m.commentLines ++ m.signatures ++ [m.headLine] ++ m.bodyLines

/-- The text of the method. -/
def text (m : Method) : String := "\n".intercalate m.lines

end Method

end TypedClient.Client
