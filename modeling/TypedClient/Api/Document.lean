import TypedClient.Api.MediaType
import TypedClient.Json.Shape.Read
import TypedClient.Text.Blank

/-!
# API documents

The part of an API document that a client is made of: where the service is, and
for each path the operations on it, with their parameters, request body and
responses. `Document.shape` is the form of the text; everything else in it is passed
over. Schemas stay JSON values, because patches are merged into them later.
-/

namespace TypedClient.Api

open TypedClient.Json (Shape Fields Fault)

/-- The verbs of operations, in the order in which those of one path are visited. -/
inductive Verb where
  | delete | get | post | put
  deriving DecidableEq, Repr

/-- All verbs in order. -/
def Verb.all : List Verb := [.delete, .get, .post, .put]

/-- The verb in lower case. -/
def Verb.lower : Verb → String
  | .delete => "delete"
  | .get => "get"
  | .post => "post"
  | .put => "put"

/-- The verb in capitals. -/
def Verb.upper : Verb → String
  | .delete => "DELETE"
  | .get => "GET"
  | .post => "POST"
  | .put => "PUT"

/-- Where the value of a parameter goes. -/
inductive Location where
  | path | query | header | cookie
  deriving DecidableEq, Repr

/-- The words for the locations. -/
def Location.words : List String := ["path", "query", "header", "cookie"]

/-- The location at a place in the list of words. -/
def Location.ofIndex (index : Fin Location.words.length) : Location :=
  match index.val with
  | 0 => .path
  | 1 => .query
  | 2 => .header
  | _ => .cookie

/-- A parameter of an operation. Its type is given by a schema or else by `type` and `enum`. -/
structure Parameter where
  /-- The name that the service knows. -/
  name : String
  /-- What the parameter is for. -/
  description : Option String
  /-- Whether the document declares it required. -/
  required : Bool
  /-- Where its value goes. -/
  location : Location
  /-- The name of its type. -/
  typeName : Option String
  /-- The values it may have. -/
  literals : Option (List Json)
  /-- Its schema. -/
  schema : Option Json

/-- The schemas of a body, by media type, in the order of the document. -/
abbrev Content := List (String × Option Json)

/-- An operation of the service. -/
structure Operation where
  /-- The name by which overrides and messages refer to it. -/
  operationId : String
  /-- A line about it. -/
  summary : Option String
  /-- A text about it. -/
  description : Option String
  /-- Its parameters in order. -/
  parameters : List Parameter
  /-- The content of its request body. -/
  requestBody : Option Content
  /-- The content of its responses by status. -/
  responses : List (String × Content)

/-- The operations on a path. -/
structure PathItem where
  /-- The operation of the verb `delete`. -/
  delete : Option Operation
  /-- The operation of the verb `get`. -/
  get : Option Operation
  /-- The operation of the verb `post`. -/
  post : Option Operation
  /-- The operation of the verb `put`. -/
  put : Option Operation

/-- A document. -/
structure Document where
  /-- The host of the service. -/
  host : Option String
  /-- The path that all paths start with. -/
  basePath : Option String
  /-- The paths in order. -/
  paths : List (String × PathItem)

/-! ### The form of the text -/

/-- The form of a media type's entry. -/
def mediaTypeFields : Fields := .field "schema" false (.optional .any) .done

/-- The form of a request body and of a response. -/
def contentFields : Fields :=
  .field "content" false (.map (.record "MediaTypeObject" mediaTypeFields)) .done

/-- The form of a parameter. -/
def parameterFields : Fields :=
  .field "name" true .text <|
  .field "description" false (.optional .text) <|
  .field "required" false .flag <|
  .field "in" false (.choice Location.words ⟨1, by decide⟩) <|
  .field "type" false (.optional .text) <|
  .field "enum" false (.optional (.list .any)) <|
  .field "schema" false (.optional .any) .done

/-- The form of an operation. -/
def operationFields : Fields :=
  .field "operationId" true .text <|
  .field "summary" false (.optional .text) <|
  .field "description" false (.optional .text) <|
  .field "parameters" false (.list (.record "Parameter" parameterFields)) <|
  .field "requestBody" false (.optional (.record "RequestBody" contentFields)) <|
  .field "responses" false (.map (.record "Response" contentFields)) .done

/-- The form of an operation. -/
def Operation.shape : Shape := .record "Operation" operationFields

/-- The form of the operations on a path. -/
def pathItemFields : Fields :=
  .field "delete" false (.optional Operation.shape) <|
  .field "get" false (.optional Operation.shape) <|
  .field "post" false (.optional Operation.shape) <|
  .field "put" false (.optional Operation.shape) .done

/-- The form of a document. -/
def Document.shape : Shape :=
  .record "ApiDocument" <|
  .field "host" false (.optional .text) <|
  .field "basePath" false (.optional .text) <|
  .field "paths" false (.map (.record "PathItem" pathItemFields)) .done

/-- The content that a body holds. -/
def Content.ofFields (content : contentFields.Carrier) : Content :=
  content.1.map fun (type, media) => (type, media.1)

/-- The parameter that its members make. -/
def Parameter.ofFields : parameterFields.Carrier → Parameter
  | (name, description, required, location, typeName, literals, schema, _) =>
    ⟨name, description, required, .ofIndex location, typeName, literals, schema⟩

/-- The operation that its members make. -/
def Operation.ofFields : operationFields.Carrier → Operation
  | (operationId, summary, description, parameters, requestBody, responses, _) =>
    { operationId, summary, description
      parameters := parameters.map Parameter.ofFields
      requestBody := requestBody.map Content.ofFields
      responses := responses.map fun (status, response) => (status, Content.ofFields response) }

/-- The operations that the members of a path make. -/
def PathItem.ofFields : pathItemFields.Carrier → PathItem
  | (delete, get, post, put, _) =>
    ⟨delete.map Operation.ofFields, get.map Operation.ofFields, post.map Operation.ofFields,
      put.map Operation.ofFields⟩

/-- The document that its members make. -/
def Document.ofCarrier : Document.shape.Carrier → Document
  | (host, basePath, paths, _) =>
    ⟨host, basePath, paths.map fun (path, item) => (path, PathItem.ofFields item)⟩

/-- Reads a document. What follows it in the text is not looked at. -/
def Document.read (bytes : List UInt8) : Except Fault Document :=
  (Document.shape.readText bytes).map Document.ofCarrier

/-- Reads an operation from a text that holds nothing else. -/
def Operation.read (bytes : List UInt8) : Except Fault Operation :=
  (Operation.shape.readWhole bytes).map Operation.ofFields

/-! ### What a document says -/

/-- Whether a value has to be given; a parameter in the path always needs one. -/
def Parameter.isRequired (p : Parameter) : Bool :=
  p.required || p.location == .path

/-- The schema of a parameter: the one given, or one of its type and its values. -/
def Parameter.declaredSchema (p : Parameter) : Json :=
  match p.schema with
  | some schema => schema
  | none =>
    .object <|
      (p.typeName.map fun name => ("type", Json.string name)).toList ++
      (p.literals.map fun values => ("enum", Json.array values)).toList

/-- The schema of the first entry whose media type announces JSON. -/
def Content.announcedSchema? (content : Content) : Option Json :=
  (content.find? fun (type, _) => announcesJson type).bind Prod.snd

/-- The text about an operation: its description, or its summary if there is none, unless that is
blank. -/
def Operation.documentation? (op : Operation) : Option String :=
  (op.description.or op.summary).filter fun text => !text.toList.all Text.isBlank

/-- The schema of the request body. -/
def Operation.requestSchema? (op : Operation) : Option Json :=
  op.requestBody.bind Content.announcedSchema?

/-- The status of a response that means success. -/
def successCode : String := "200"

/-- The schema of the response that means success. -/
def Operation.answerSchema? (op : Operation) : Option Json :=
  (Json.lookup successCode op.responses).bind Content.announcedSchema?

/-- The operation of a verb. -/
def PathItem.operation? (item : PathItem) : Verb → Option Operation
  | .delete => item.delete
  | .get => item.get
  | .post => item.post
  | .put => item.put

/-- An operation with its verb and path. -/
structure Endpoint where
  /-- The path of the operation. -/
  path : String
  /-- The verb of the operation. -/
  verb : Verb
  /-- The operation. -/
  operation : Operation

/-- The operations on a path, by verb. -/
def PathItem.endpoints (path : String) (item : PathItem) : List Endpoint :=
  Verb.all.filterMap fun verb => (item.operation? verb).map fun op => ⟨path, verb, op⟩

/-- The operations of a document: its paths in order, and the verbs of each. -/
def Document.endpoints (document : Document) : List Endpoint :=
  document.paths.flatMap fun (path, item) => item.endpoints path

/-- The address of the service. -/
def Document.address? (document : Document) : Option String :=
  document.host.map fun host => host ++ document.basePath.getD ""

end TypedClient.Api
