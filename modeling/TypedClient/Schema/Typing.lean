import TypedClient.Schema.Node
import TypedClient.Client.TypeExpr

/-!
# The type of a node

Every node has a type. Where a node says too little for a type of its own the type
is a loose one, and a note says why and for which field. A note carries the keys
from the outermost declaration to the field; arrays add none.
-/

namespace TypedClient.Schema

open TypedClient.Client

/-- Why a type is looser than the schema may have meant. -/
inductive Loosening where
  /-- A field is an array whose items are not described. -/
  | arrayWithoutItems
  /-- A field is an object whose properties are not described. -/
  | objectWithoutProperties
  /-- The items of an array have no type. -/
  | untypedItems
  /-- An array in an array whose items are not described. -/
  | nestedArrayWithoutItems
  /-- The items of an array are objects whose properties are not described. -/
  | itemsWithoutProperties
  /-- An object with properties in an array of arrays. -/
  | objectInNestedArray
  /-- A type name that is not known. -/
  | unknownType (name : String)
  /-- A value of no type. -/
  | untyped
  /-- A request body that is no object with properties. -/
  | openBody
  deriving DecidableEq, Repr

/-- The wording of a loosening. -/
def Loosening.message : Loosening → String
  | .arrayWithoutItems => "array has no items schema, using any[]"
  | .objectWithoutProperties => "object has no properties, using any"
  | .untypedItems => "array items have no type, using any[]"
  | .nestedArrayWithoutItems => "nested array has no items schema, using any[][]"
  | .itemsWithoutProperties => "array items are objects without properties, using any[]"
  | .objectInNestedArray => "object nested inside an array of arrays, using object"
  | .unknownType name => "unknown type '" ++ name ++ "', using any"
  | .untyped => "no type given, using any"
  | .openBody => "request body is not an object with properties, accepting any fields"

/-- A loosening and the keys down to the field that it concerns. -/
structure Note where
  /-- The keys from the outermost declaration to the field. -/
  path : List String
  /-- Why the type is loose. -/
  cause : Loosening
  deriving DecidableEq, Repr

/-- A result with the notes made on the way. -/
structure Noted (α : Type) where
  /-- The result. -/
  value : α
  /-- The notes, in the order of the schema. -/
  notes : List Note

/-- A result without notes. -/
def Noted.plain {α : Type} (value : α) : Noted α := ⟨value, []⟩

/-- The same notes with another result. -/
def Noted.map {α β : Type} (f : α → β) (x : Noted α) : Noted β := ⟨f x.value, x.notes⟩

/-- The type for a type name of a schema. -/
def namedType (name : String) : TypeExpr :=
  if name == "integer" || name == "number" then .name "number"
  else if name == "string" || name == "boolean" || name == "object" then .name name
  else if name == "array" then .array .any
  else .any

/-- Whether a type name of a schema is known, as any type is by the name `any`. -/
def isKnownType (name : String) : Bool :=
  ["integer", "number", "string", "boolean", "object", "array", "any"].contains name

/-- The type of one of some values; any type if there are none. -/
def literalUnion : List Json → TypeExpr
  | [] => .any
  | first :: others => .union (.ofJson first) (others.map .ofJson)

/-- The type of a value that is neither array nor object: the union of its values if it has any, or
else the type of its name. -/
def scalarType (path : List String) (typeName : Option String) (literals : Option (List Json)) :
    Noted TypeExpr :=
  match literals, typeName with
  | some (first :: others), _ => .plain (literalUnion (first :: others))
  | _, some name =>
    if isKnownType name then .plain (namedType name) else ⟨.any, [⟨path, .unknownType name⟩]⟩
  | _, none => ⟨.any, [⟨path, .untyped⟩]⟩

/-- The type of the items of an array that are neither arrays nor objects. A union stands in
parentheses, as does any type with a list of values, even one without values. -/
def primitiveItemType (path : List String) (typeName : Option String)
    (literals : Option (List Json)) : Noted TypeExpr :=
  match literals, typeName with
  | none, none => ⟨.any, [⟨path, .untypedItems⟩]⟩
  | none, some _ => scalarType path typeName literals
  | some _, _ => (scalarType path typeName literals).map .group

/-- The type of an array of values of a type, which may also be `false`. -/
def arrayType (info : Info) (element : TypeExpr) : TypeExpr :=
  if info.orFalse then .orFalse (.array element) else .array element

mutual
/-- The type of a field. -/
def fieldType (path : List String) : Node → Noted TypeExpr
  | .primitive _ typeName literals => scalarType path typeName literals
  | .array info items => (itemType path false items).map (arrayType info)
  | .arrayOfUnknown info => ⟨arrayType info .any, [⟨path, .arrayWithoutItems⟩]⟩
  | .object _ properties required => (fieldTypes path required properties).map .record
  | .objectOfUnknown _ _ => ⟨.any, [⟨path, .objectWithoutProperties⟩]⟩
/-- The type of the items of an array; `nested` says whether the array is itself an item. -/
def itemType (path : List String) (nested : Bool) : Node → Noted TypeExpr
  | .primitive _ typeName literals => primitiveItemType path typeName literals
  | .array _ items => (itemType path true items).map .array
  | .arrayOfUnknown _ => ⟨.array .any, [⟨path, .nestedArrayWithoutItems⟩]⟩
  | .object _ properties required =>
    if nested then ⟨.name "object", [⟨path, .objectInNestedArray⟩]⟩
    else (fieldTypes path required properties).map .record
  | .objectOfUnknown _ _ => ⟨.any, [⟨path, .itemsWithoutProperties⟩]⟩
/-- The fields for properties, each of which may be left out unless it must be there. -/
def fieldTypes (path : List String) (required : Required) :
    List (String × Node) → Noted (List (FieldHead × TypeExpr))
  | [] => .plain []
  | (name, node) :: rest =>
    let type := fieldType (path ++ [name]) node
    let others := fieldTypes path required rest
    ⟨(⟨node.description?, name, !required.contains name⟩, type.value) :: others.value,
      type.notes ++ others.notes⟩
end

/-- The field for a node of a key. -/
def Node.field (key : String) (isRequired : Bool) (node : Node) : Noted Field :=
  (fieldType [key] node).map fun type => ⟨⟨node.description?, key, !isRequired⟩, type⟩

/-- The fields for properties that stand by themselves. -/
def fields (required : Required) (properties : List (String × Node)) : Noted (List Field) :=
  (fieldTypes [] required properties).map fun all => all.map fun (head, type) => ⟨head, type⟩

end TypedClient.Schema
