import TypedClient.Client.TypeExpr

/-!
# Request and response types

A request type has a field for every argument, then the fields of the request
body, then two for the call itself. A body that is no object with properties
gives an entry for fields of any key in place of its own. A response type names
the type of an answer.
-/

namespace TypedClient.Client

/-- The field that configures a call. -/
def requestOptionsKey : String := "requestOptions"

/-- The field that asks for the whole answer. -/
def returnAxiosKey : String := "returnAxios"

/-- The local that holds the fields of the request body. -/
def bodyLocal : String := "body"

/-- The local that holds the answer. -/
def resultsLocal : String := "results"

/-- The fields that a request has of its body. -/
inductive BodyFields where
  /-- There is no body. -/
  | none
  /-- The fields for the properties of the body. -/
  | fields (fields : List Field)
  /-- Fields of any key. -/
  | anything

/-- Whether there is a body. -/
def BodyFields.isBody : BodyFields → Bool
  | .none => false
  | _ => true

/-- An entry of a request type. -/
inductive RequestEntry where
  /-- A field. -/
  | field (field : Field)
  /-- Fields of any key. -/
  | anyKey

/-- The lines of an entry. -/
def RequestEntry.lines : RequestEntry → List String
  | .field f => f.lines 1
  | .anyKey => [indent 1 ++ "[key: string]: any;"]

/-- The type of a request. -/
structure RequestType where
  /-- The name of the type. -/
  name : String
  /-- The fields for the arguments. -/
  arguments : List Field
  /-- The fields of the body. -/
  body : BodyFields

namespace RequestType

/-- The entries for the body. -/
def bodyEntries (request : RequestType) : List RequestEntry :=
  match request.body with
  | .none => []
  | .fields fields => fields.map .field
  | .anything => [.anyKey]

/-- The fields that every request has. -/
def callFields : List Field := [
  ⟨⟨none, requestOptionsKey, true⟩, .name "AxiosRequestConfig"⟩,
  ⟨⟨none, returnAxiosKey, true⟩, .name "boolean"⟩]

/-- All entries in order. -/
def entries (request : RequestType) : List RequestEntry :=
  request.arguments.map .field ++ request.bodyEntries ++ callFields.map .field

/-- The lines of the declaration. -/
def lines (request : RequestType) : List String :=
  [request.name ++ " = \x7b"] ++ request.entries.flatMap RequestEntry.lines ++ ["\x7d;"]

/-- The text of the declaration. -/
def text (request : RequestType) : String :=
  "\n".intercalate request.lines

end RequestType

/-- The type of an answer. -/
structure ResponseType where
  /-- The name of the type. -/
  name : String
  /-- The type. -/
  type : TypeExpr

/-- The lines of the declaration. -/
def ResponseType.lines (response : ResponseType) : List String :=
  aliasLines 0 none response.name response.type

/-- The text of the declaration. -/
def ResponseType.text (response : ResponseType) : String :=
  "\n".intercalate response.lines

end TypedClient.Client
