import TypedClient.Api.Override
import TypedClient.Client.Binding
import TypedClient.Client.Method
import TypedClient.Client.Warning

/-!
# From an operation to a method

The parameters of an operation become arguments under their resolved keys; of two
with one key the first is kept. The properties of its request body become fields
of the request unless their key is taken. The schema of its success becomes the type
of the results. What is left out or typed loosely is reported in that order: types,
fields, placeholders.
-/

namespace TypedClient.Client

open TypedClient.Api
open TypedClient.Schema (Node Note Noted Required Loosening)

/-- The keys that no argument and no field of a body may have. -/
def reservedKeys : List String := [requestOptionsKey, returnAxiosKey]

/-- The locals that no argument may be bound to. -/
def reservedLocals : List String :=
  [requestOptionsKey, returnAxiosKey, bodyLocal, resultsLocal]

/-- The key for each parameter in order, and the overrides that are left. -/
def resolveKeys (r : Resolver) (operationId : String) :
    List Parameter → List (String × Parameter) × Resolver
  | [] => ([], r)
  | p :: rest =>
    let (key, next) := r.keyFor operationId p.name
    let (others, last) := resolveKeys next operationId rest
    ((key, p) :: others, last)

/-- The entries whose key is neither taken nor the key of an entry before. -/
def keepFresh {α : Type} (taken : List String) : List (String × α) → List (String × α)
  | [] => []
  | (key, value) :: rest =>
    if key ∈ taken then keepFresh taken rest
    else (key, value) :: keepFresh (key :: taken) rest

/-- The keys of the entries that `keepFresh` leaves out, in order. -/
def leftOut {α : Type} (taken : List String) : List (String × α) → List String
  | [] => []
  | (key, _) :: rest =>
    if key ∈ taken then key :: leftOut taken rest else leftOut (key :: taken) rest

/-- The node of a parameter; its own description comes before that of its schema. -/
def parameterNode (p : Parameter) : Node :=
  let node := Node.ofJson p.declaredSchema
  if p.description.isSome then node.withDescription p.description else node

/-- The field for a parameter. -/
def parameterField (key : String) (p : Parameter) : Noted Field :=
  (parameterNode p).field key p.isRequired

/-- The arguments for parameters under their keys. -/
def makeArguments [NameStyle] (kept : List (String × Parameter)) : List Argument :=
  (kept.zip (freeBindings reservedLocals (kept.map Prod.fst))).map fun ((key, p), binding) =>
    ⟨p.name, key, binding, (parameterNode p).description?⟩

/-- The node of the results of an operation. -/
def resultsNode (r : Resolver) (operation : Operation) : Node :=
  match operation.answerSchema? with
  | none => .named "any"
  | some schema => .ofJson (r.patchedAnswer operation.operationId schema)

/-- The node of an answer: whether the call succeeded, and its results. -/
def answerNode (results : Node) : Node :=
  .ofProperties [("success", .named "boolean"), ("results", results)]

/-- What a request has of its body. -/
structure BodyPart where
  /-- The fields. -/
  fields : BodyFields
  /-- The notes on them. -/
  notes : List Note
  /-- The properties that are left out. -/
  skipped : List String
  /-- Whether one of the fields must be there. -/
  isRequired : Bool

/-- What a request named `name` has of its body when some keys are taken. -/
def bodyPart (r : Resolver) (operation : Operation) (name : String) (taken : List String) :
    BodyPart :=
  match operation.requestSchema? with
  | none => ⟨.none, [], [], false⟩
  | some schema =>
    match Node.ofJson (r.patchedBody operation.operationId schema) with
    | .object _ properties required =>
      let kept := properties.filter fun p => p.1 ∉ taken
      let skipped := properties.filter fun p => p.1 ∈ taken
      let fields := Schema.fields required kept
      ⟨.fields fields.value, fields.notes, skipped.map Prod.fst,
        kept.any fun p => required.contains p.1⟩
    | _ => ⟨.anything, [⟨[name], .openBody⟩], [], false⟩

/-- A method with what there is to say about it. -/
structure Compiled where
  /-- The method. -/
  method : Method
  /-- How many arguments have another key than the name that the service knows. -/
  renamed : Nat
  /-- The warnings in order. -/
  warnings : List Warning

/-- The method for an operation, and the overrides that are left. -/
def compile [NameStyle] (r : Resolver) (endpoint : Endpoint) : Compiled × Resolver :=
  let operation := endpoint.operation
  let id := operation.operationId
  let name := methodName id
  let suffix := typeStem name
  let (keyed, left) := resolveKeys r id operation.parameters
  let kept := keepFresh reservedKeys keyed
  let fields := kept.map fun (key, p) => parameterField key p
  let responseName := responseNameFor suffix
  let answer := Schema.fieldType [responseName] (answerNode (resultsNode left operation))
  let requestName := requestNameFor suffix
  let body := bodyPart left operation requestName (kept.map Prod.fst ++ reservedKeys)
  let method : Method :=
    { name
      documentation := operation.documentation?
      verb := endpoint.verb
      path := endpoint.path
      arguments := makeArguments kept
      request := ⟨requestName, fields.map Noted.value, body.fields⟩
      response := ⟨responseName, answer.value⟩
      optionsOptional := !(kept.any (fun (_, p) => p.isRequired) || body.isRequired) }
  let notes := fields.flatMap Noted.notes ++ answer.notes ++ body.notes
  let warnings :=
    notes.map (Warning.ofNote id) ++
    (leftOut reservedKeys keyed ++ body.skipped).map (Warning.duplicateField id) ++
    (unknownPlaceholders method.binding? endpoint.path.toList).map (Warning.unknownPlaceholder id)
  let renamed := kept.countP fun (key, p) => key ≠ p.name
  (⟨method, renamed, warnings⟩, left)

end TypedClient.Client
