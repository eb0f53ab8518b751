import TypedClient.Json.Read
import TypedClient.Json.Skip

/-!
# The shape of a JSON text

A `Shape` says which form a text has to have: a string, a list, an object with
given members, and so on. `Shape.Carrier` is the type of what such a text holds. A
member that may be missing then has the default of its shape, and members that
the shape does not name are no part of the carrier.
-/

namespace TypedClient.Json

mutual
/-- The form that a JSON value has to have. -/
inductive Shape where
  /-- A string. -/
  | text
  /-- A truth value. -/
  | flag
  /-- Any value. -/
  | any
  /-- A value of the inner shape, or `null`. -/
  | optional (inner : Shape)
  /-- An array of values of one shape. -/
  | list (item : Shape)
  /-- An object whose members, of any name, have values of one shape. -/
  | map (value : Shape)
  /-- One of some words, `default` when it is missing. The word may also be the name of the only
  member of an object, with the value `null`. -/
  | choice (words : List String) (default : Fin words.length)
  /-- An object with given members. It may also be an array of their values, in their order. -/
  | record (name : String) (fields : Fields)
/-- The members of an object, in their order. -/
inductive Fields where
  /-- No members. -/
  | done
  /-- A member and those after it; a required member must not be missing. -/
  | field (name : String) (required : Bool) (shape : Shape) (rest : Fields)
end

mutual
/-- What a value of a shape holds. -/
def Shape.Carrier : Shape → Type
  | .text => String
  | .flag => Bool
  | .any => Json
  | .optional inner => Option inner.Carrier
  | .list item => List item.Carrier
  | .map value => List (String × value.Carrier)
  | .choice words _ => Fin words.length
  | .record _ fields => fields.Carrier
/-- What the members hold together. -/
def Fields.Carrier : Fields → Type
  | .done => Unit
  | .field _ _ shape rest => shape.Carrier × rest.Carrier
end

mutual
/-- What a member of a shape holds when it is missing. -/
def Shape.missing : (shape : Shape) → shape.Carrier
  | .text => ""
  | .flag => false
  | .any => .null
  | .optional _ => none
  | .list _ => []
  | .map _ => []
  | .choice _ default => default
  | .record _ fields => fields.missing
/-- What members hold when all are missing. -/
def Fields.missing : (fields : Fields) → fields.Carrier
  | .done => ()
  | .field _ _ shape rest => (shape.missing, rest.missing)
end

/-- What the members read so far hold, each with a place that is empty until it is read. -/
def Fields.Slots : Fields → Type
  | .done => Unit
  | .field _ _ shape rest => Option shape.Carrier × rest.Slots

/-- No members read. -/
def Fields.noSlots : (fields : Fields) → fields.Slots
  | .done => ()
  | .field _ _ _ rest => (none, rest.noSlots)

/-- What the members hold once all that are there have been read; the first required one that is
missing otherwise. -/
def Fields.fill : (fields : Fields) → fields.Slots → Except String fields.Carrier
  | .done, _ => .ok ()
  | .field name required shape rest, (slot, slots) =>
    match slot, required with
    | none, true => .error name
    | none, false => (rest.fill slots).map fun values => (shape.missing, values)
    | some value, _ => (rest.fill slots).map fun values => (value, values)

/-- The number of members. -/
def Fields.length : Fields → Nat
  | .done => 0
  | .field _ _ _ rest => rest.length + 1

/-- The wording for what an array in place of an object wants. -/
def Fields.wantedLength (name : String) (fields : Fields) : String :=
  "struct " ++ name ++ " with " ++ toString fields.length ++
    (if fields.length = 1 then " element" else " elements")

end TypedClient.Json
