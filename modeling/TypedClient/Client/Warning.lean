import TypedClient.Schema.Typing

/-!
# Warnings and counts

A warning says what of a document did not become part of the client as it stands
there. `Tally` counts what was generated and keeps the warnings in order.
-/

namespace TypedClient.Client

/-- What happened to a part of an operation. -/
inductive Warning where
  /-- A type is looser than the schema may have meant. -/
  | schema (operationId field message : String)
  /-- A placeholder in a path is the name of no parameter. -/
  | unknownPlaceholder (operationId placeholder : String)
  /-- An operation before has the same method name. -/
  | duplicateMethod (operationId methodName : String)
  /-- The request has a field of the same key already. -/
  | duplicateField (operationId field : String)
  /-- There is no operation for an override. -/
  | unusedOverride (operationId : String)
  deriving DecidableEq, Repr

namespace Warning

/-- The operation that a warning is about. -/
def operationId : Warning → String
  | .schema id _ _ => id
  | .unknownPlaceholder id _ => id
  | .duplicateMethod id _ => id
  | .duplicateField id _ => id
  | .unusedOverride id => id

/-- The wording of a warning after the operation. -/
def detail : Warning → String
  | .schema _ field message => field ++ ": " ++ message
  | .unknownPlaceholder _ placeholder =>
    "path placeholder '\x7b" ++ placeholder ++ "\x7d' has no matching parameter"
  | .duplicateMethod _ methodName =>
    "method '" ++ methodName ++ "' is already generated by an earlier operation, skipped"
  | .duplicateField _ field => "request field '" ++ field ++ "' is already declared, skipped"
  | .unusedOverride _ => "override entry does not match any operation"

/-- The wording of a warning. -/
def text (w : Warning) : String :=
  "[" ++ w.operationId ++ "] " ++ w.detail

/-- Whether something was left out of the client, so that the warning is always shown. -/
def isSkip : Warning → Bool
  | .duplicateMethod _ _ => true
  | .duplicateField _ _ => true
  | _ => false

/-- The warning for a note on a schema: the keys down to the field are joined by points. -/
def ofNote (operationId : String) (note : Schema.Note) : Warning :=
  .schema operationId (".".intercalate note.path) note.cause.message

end Warning

/-- What was generated. -/
structure Tally where
  /-- Paths of the document. -/
  paths : Nat
  /-- Operations that have become methods. -/
  operations : Nat
  /-- Request types. -/
  requestTypes : Nat
  /-- Response types. -/
  responseTypes : Nat
  /-- Operations with a request body. -/
  withBody : Nat
  /-- Arguments with another name than their parameter. -/
  renamed : Nat
  /-- The warnings in order. -/
  warnings : List Warning
  deriving DecidableEq, Repr

namespace Tally

/-- Nothing generated. -/
def empty : Tally := ⟨0, 0, 0, 0, 0, 0, []⟩

/-- Counts paths. -/
def addPaths (t : Tally) (count : Nat) : Tally := { t with paths := t.paths + count }

/-- Counts an operation and the types and the body that it has. -/
def addOperation (t : Tally) (requestType responseType body : Bool) : Tally :=
  { t with
    operations := t.operations + 1
    requestTypes := t.requestTypes + requestType.toNat
    responseTypes := t.responseTypes + responseType.toNat
    withBody := t.withBody + body.toNat }

/-- Counts renamed arguments. -/
def addRenamed (t : Tally) (count : Nat) : Tally := { t with renamed := t.renamed + count }

/-- Keeps warnings. -/
def addWarnings (t : Tally) (warnings : List Warning) : Tally :=
  { t with warnings := t.warnings ++ warnings }

end Tally

end TypedClient.Client
