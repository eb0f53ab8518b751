import TypedClient.Proofs.Script.TypeGrammar

/-!
# Loose types

A type of a script is loose if it lets values of any kind through: it is `any` or
`object`, or such a type is that of its items or one of its alternatives. The members of
a record are fields of their own, so a record is never loose; `TypeTree.fields` lists
the field of a type with all fields that are declared within it.
-/

namespace TypedClient.Script

mutual
/-- Whether a type lets values of any kind through. -/
def TypeTree.isLoose : TypeTree → Bool
  | .name text => text == "any" || text == "object"
  | .array element => element.isLoose
  | .union alternatives => anyLoose alternatives
  | _ => false
/-- Whether one of some types is loose. -/
def anyLoose : List TypeTree → Bool
  | [] => false
  | type :: rest => type.isLoose || anyLoose rest
end

theorem anyLoose_eq_any (types : List TypeTree) : anyLoose types = types.any TypeTree.isLoose := by
  induction types with
  | nil => rfl
  | cons type rest ih => rw [anyLoose, ih, List.any_cons]

theorem isLoose_unionOf (types : List TypeTree) :
    (unionOf types).isLoose = types.any TypeTree.isLoose := by
  match types with
  | [] => rfl
  | [type] => rw [unionOf, List.any_cons, List.any_nil, Bool.or_false]
  | type :: next :: rest =>
    rw [unionOf, TypeTree.isLoose, anyLoose_eq_any]
    simp

mutual
/-- The fields that are declared within the type of a field, each with the keys down to it. -/
def TypeTree.innerFields (path : List String) : TypeTree → List (List String × TypeTree)
  | .array element => element.innerFields path
  | .union alternatives => alternativeFields path alternatives
  | .record members => memberFields path members
  | _ => []
/-- The fields that are declared within some types. -/
def alternativeFields (path : List String) : List TypeTree → List (List String × TypeTree)
  | [] => []
  | type :: rest => type.innerFields path ++ alternativeFields path rest
/-- The fields that are members of a record, with those that are declared within them. -/
def memberFields (path : List String) :
    List (MemberHead × TypeTree) → List (List String × TypeTree)
  | [] => []
  | (head, type) :: rest =>
    (path ++ [head.key], type) :: type.innerFields (path ++ [head.key]) ++ memberFields path rest
end

/-- The field of a type, and the fields that are declared within it. -/
def TypeTree.fields (path : List String) (type : TypeTree) : List (List String × TypeTree) :=
  (path, type) :: type.innerFields path

theorem alternativeFields_eq_flatMap (path : List String) (types : List TypeTree) :
    alternativeFields path types = types.flatMap (TypeTree.innerFields path) := by
  induction types with
  | nil => rfl
  | cons type rest ih => rw [alternativeFields, ih, List.flatMap_cons]

theorem innerFields_unionOf (path : List String) (types : List TypeTree) :
    (unionOf types).innerFields path = types.flatMap (TypeTree.innerFields path) := by
  match types with
  | [] => rfl
  | [type] => rw [unionOf, List.flatMap_singleton]
  | type :: next :: rest =>
    rw [unionOf, TypeTree.innerFields, alternativeFields_eq_flatMap]
    simp

end TypedClient.Script
