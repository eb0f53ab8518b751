import TypedClient.Json.Merge
import TypedClient.Json.Shape.Read

/-!
# Overrides

For some operations an override gives other names for arguments and patches for
the schemas of the request body and the response. A `Resolver` answers for them:
in the mode `persistent` always in the same way, in the mode `consume` each name is
replaced once, at its first lookup. Patches are merged in either mode.
-/

namespace TypedClient.Api

open TypedClient.Json (Shape Fields Fault)

/-- What is overridden for one operation. -/
structure Override where
  /-- Other names for arguments. -/
  renames : List (String × String)
  /-- The patch for the schema of the request body. -/
  requestPatch : Option Json
  /-- The patch for the schema of the response. -/
  responsePatch : Option Json

/-- What is overridden, by operation. -/
abbrev Overrides := List (String × Override)

/-- The form of what is overridden in requests. -/
def requestOverrideFields : Fields :=
  .field "args" false (.map .text) <| .field "schema" false (.optional .any) .done

/-- The form of what is overridden in responses. -/
def responseOverrideFields : Fields :=
  .field "schema" false (.optional .any) .done

/-- The form of what is overridden for one operation. -/
def overrideFields : Fields :=
  .field "request" false (.record "RequestOverride" requestOverrideFields) <|
  .field "response" false (.record "ResponseOverride" responseOverrideFields) .done

/-- The form of all that is overridden. -/
def Overrides.shape : Shape := .map (.record "OperationOverride" overrideFields)

/-- The override that its members make. -/
def Override.ofFields : overrideFields.Carrier → Override
  | ((renames, requestPatch, _), (responsePatch, _), _) => ⟨renames, requestPatch, responsePatch⟩

/-- The overrides that the members make. -/
def Overrides.ofCarrier (entries : Overrides.shape.Carrier) : Overrides :=
  List.map (fun (id, entry) => (id, Override.ofFields entry)) entries

/-- Reads overrides. What follows them in the text is not looked at. -/
def Overrides.read (bytes : List UInt8) : Except Fault Overrides :=
  (Overrides.shape.readText bytes).map Overrides.ofCarrier

/-- The override of an operation. -/
def Overrides.get? (overrides : Overrides) (operationId : String) : Option Override :=
  Json.lookup operationId overrides

/-- How long another name for an argument stays in force. -/
inductive OverrideMode where
  /-- For every lookup. -/
  | persistent
  /-- For the first lookup of the name. -/
  | consume
  deriving DecidableEq, Repr

/-- Overrides in use. -/
structure Resolver where
  /-- The overrides. -/
  overrides : Overrides
  /-- How long other names stay in force. -/
  mode : OverrideMode
  /-- The operations and names whose replacement has been used up. -/
  consumed : List (String × String)

namespace Resolver

/-- Overrides of which nothing has been used. -/
def new (overrides : Overrides) (mode : OverrideMode) : Resolver := ⟨overrides, mode, []⟩

/-- The other name that is given for an argument. -/
def replacement? (r : Resolver) (operationId name : String) : Option String :=
  (r.overrides.get? operationId).bind fun entry => Json.lookup name entry.renames

/-- The name to use for an argument. -/
def keyFor (r : Resolver) (operationId name : String) : String × Resolver :=
  match r.replacement? operationId name, r.mode with
  | none, _ => (name, r)
  | some other, .persistent => (other, r)
  | some other, .consume =>
    if r.consumed.contains (operationId, name) then (name, r)
    else (other, { r with consumed := (operationId, name) :: r.consumed })

/-- A schema with a patch merged into it, if there is one. -/
def patched (schema : Json) : Option Json → Json
  | none => schema
  | some patch => schema.merge patch

/-- The schema to use for a request body. -/
def patchedBody (r : Resolver) (operationId : String) (schema : Json) : Json :=
  patched schema ((r.overrides.get? operationId).bind Override.requestPatch)

/-- The patch that every response gets first: its own description is no part of the field that
holds it. -/
def blankDescription : Json := .object [("description", .string "")]

/-- The schema to use for a response. -/
def patchedAnswer (r : Resolver) (operationId : String) (schema : Json) : Json :=
  patched (schema.merge blankDescription)
    ((r.overrides.get? operationId).bind Override.responsePatch)

end Resolver

end TypedClient.Api
