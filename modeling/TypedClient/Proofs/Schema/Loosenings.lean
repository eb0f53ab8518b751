import TypedClient.Client.Warning
import TypedClient.Proofs.Schema.NodeType
import TypedClient.Proofs.Script.LooseType

/-!
# Loose types and the notes on them

`Node.loosening?` says of any node why its type is looser than the schema may have meant,
as `nodeType` says what the type is. A walk over a node notes this for each field that it
declares, in order, and nothing else (`notes_fieldType`). With one exception every field
of a loose type is noted, unless the schema names the type `any` itself: an array or
object in a list of values becomes `any` without a note.
-/

namespace TypedClient.Schema

open TypedClient.Client TypedClient.Script

/-! ### Fields of a node -/

mutual
/-- The fields that are declared within the type of a node that stands in so many arrays. -/
def Node.innerFields (path : List String) (depth : Nat) : Node → List (List String × Node)
  | .array _ items => items.innerFields path (depth + 1)
  | .object _ properties _ => if depth ≤ 1 then propertyFields path properties else []
  | _ => []
/-- The fields for properties, with those that are declared within them. -/
def propertyFields (path : List String) : List (String × Node) → List (List String × Node)
  | [] => []
  | (name, node) :: rest =>
    (path ++ [name], node) :: node.innerFields (path ++ [name]) 0 ++ propertyFields path rest
end

/-- The field of a node, and the fields that are declared within it, each with the keys down to
it. -/
def Node.fields (path : List String) (node : Node) : List (List String × Node) :=
  (path, node) :: node.innerFields path 0

/-- A field with the type that is declared for it. -/
def typedField (f : List String × Node) : List String × TypeTree := (f.1, nodeType 0 f.2)

/-- No field is declared within the type of a value. -/
theorem innerFields_valueType (path : List String) (value : Json) :
    (valueType value).innerFields path = [] := by
  cases value <;> rfl

theorem innerFields_nameType (path : List String) (typeName : Option String) :
    (nameType typeName).innerFields path = [] := by
  unfold nameType
  split <;> rfl

theorem innerFields_arrayTree (path : List String) (depth : Nat) (info : Info)
    (element : TypeTree) :
    (arrayTree depth info element).innerFields path = element.innerFields path := by
  rw [arrayTree]
  split
  · rw [TypeTree.innerFields, alternativeFields_eq_flatMap]
    simp [TypeTree.innerFields]
  · rfl

mutual
/-- The fields that are declared within a type are those of its node, each with its own type. -/
theorem innerFields_nodeType (path : List String) (depth : Nat) (node : Node) :
    (nodeType depth node).innerFields path = (node.innerFields path depth).map typedField := by
  cases node with
  | primitive info typeName literals =>
    match literals with
    | some (first :: others) =>
      show TypeTree.innerFields path _ = []
      rw [nodeType, innerFields_unionOf, List.flatMap_map]
      exact List.flatMap_eq_nil_iff.mpr fun value _ => innerFields_valueType path value
    | some [] => exact innerFields_nameType path typeName
    | none => exact innerFields_nameType path typeName
  | array info items =>
    rw [nodeType, innerFields_arrayTree, innerFields_nodeType, Node.innerFields]
  | arrayOfUnknown info => exact innerFields_arrayTree path depth info anyType
  | object info properties required =>
    rw [nodeType, Node.innerFields]
    split
    · exact memberFields_memberTypes path required properties
    · rfl
  | objectOfUnknown info required => rfl
/-- The members for properties are fields of their own. -/
theorem memberFields_memberTypes (path : List String) (required : Required)
    (properties : List (String × Node)) :
    memberFields path (memberTypes required properties) =
      (propertyFields path properties).map typedField := by
  match properties with
  | [] => rfl
  | (name, node) :: rest =>
    rw [memberTypes, memberFields, propertyFields, innerFields_nodeType,
      memberFields_memberTypes path required rest, List.map_append, List.map_cons]
    rfl
end

theorem fields_nodeType (path : List String) (node : Node) :
    (nodeType 0 node).fields path = (node.fields path).map typedField := by
  rw [TypeTree.fields, innerFields_nodeType, Node.fields, List.map_cons]
  rfl

/-! ### Notes -/

/-- Why the type of a node that stands in so many arrays is looser than the schema may have meant,
apart from the fields that are declared within it. -/
def Node.loosening? (depth : Nat) : Node → Option Loosening
  | .primitive _ _ (some (_ :: _)) => none
  | .primitive _ (some name) _ => if isKnownType name then none else some (.unknownType name)
  | .primitive _ none (some _) => some .untyped
  | .primitive _ none none => some (if depth = 0 then .untyped else .untypedItems)
  | .array _ items => items.loosening? (depth + 1)
  | .arrayOfUnknown _ => some (if depth = 0 then .arrayWithoutItems else .nestedArrayWithoutItems)
  | .object _ _ _ => if depth ≤ 1 then none else some .objectInNestedArray
  | .objectOfUnknown _ _ =>
    some (if depth = 0 then .objectWithoutProperties else .itemsWithoutProperties)

/-- The note on the type of a node that stands in so many arrays, if there is one. -/
def Node.ownNotes (path : List String) (depth : Nat) (node : Node) : List Note :=
  ((node.loosening? depth).map (Note.mk path)).toList

/-- The note on a field, if there is one. -/
def fieldNotes (f : List String × Node) : List Note := f.2.ownNotes f.1 0

section Primitive

variable (path : List String) (info : Info) (typeName : Option String)
  (literals : Option (List Json))

theorem notes_scalarType :
    (scalarType path typeName literals).notes =
      (Node.primitive info typeName literals).ownNotes path 0 := by
  have hname (name : String) :
      (if isKnownType name then Noted.plain (namedType name)
        else ⟨.any, [⟨path, .unknownType name⟩]⟩).notes =
      ((if isKnownType name then none else some (Loosening.unknownType name)).map
        (Note.mk path)).toList := by
    split <;> rfl
  match literals, typeName with
  | some (first :: others), _ => rfl
  | some [], some name => exact hname name
  | none, some name => exact hname name
  | some [], none => rfl
  | none, none => rfl

theorem notes_primitiveItemType {depth : Nat} (hd : depth ≠ 0) :
    (primitiveItemType path typeName literals).notes =
      (Node.primitive info typeName literals).ownNotes path depth := by
  match literals, typeName with
  | none, none =>
    rw [Node.ownNotes, Node.loosening?, if_neg hd]
    rfl
  | none, some name => exact notes_scalarType path info (some name) none
  | some (first :: others), typeName => rfl
  | some [], some name => exact notes_scalarType path info (some name) (some [])
  | some [], none => rfl

end Primitive

mutual
/-- A walk over a field notes why its type is loose, and then why those within it are. -/
theorem notes_fieldType_eq_append (path : List String) (node : Node) :
    (fieldType path node).notes =
      node.ownNotes path 0 ++ (node.innerFields path 0).flatMap fieldNotes := by
  cases node with
  | primitive info typeName literals =>
    have hown := notes_scalarType path info typeName literals
    exact hown.trans (List.append_nil _).symm
  | array info items => exact notes_itemType path false 1 items (by decide) (by decide)
  | arrayOfUnknown info => rfl
  | object info properties required => exact notes_fieldTypes path required properties
  | objectOfUnknown info required => rfl
/-- A walk over an item notes why its type is loose, and then why those within it are. -/
theorem notes_itemType (path : List String) (nested : Bool) (depth : Nat) (node : Node)
    (hd : depth ≠ 0) (hn : nested = decide (2 ≤ depth)) :
    (itemType path nested node).notes =
      node.ownNotes path depth ++ (node.innerFields path depth).flatMap fieldNotes := by
  cases node with
  | primitive info typeName literals =>
    have hown := notes_primitiveItemType path info typeName literals hd
    exact hown.trans (List.append_nil _).symm
  | array info items =>
    exact notes_itemType path true (depth + 1) items (by omega) (decide_eq_true (by omega)).symm
  | arrayOfUnknown info =>
    rw [Node.ownNotes, Node.loosening?, if_neg hd]
    rfl
  | object info properties required =>
    rw [itemType, Node.ownNotes, Node.loosening?, Node.innerFields]
    by_cases hdepth : depth ≤ 1
    · have hflat : nested = false := by rw [hn, decide_eq_false (by omega)]
      rw [hflat, if_neg (by decide), if_pos hdepth, if_pos hdepth]
      exact notes_fieldTypes path required properties
    · have hdeep : nested = true := by rw [hn, decide_eq_true (by omega)]
      rw [hdeep, if_pos rfl, if_neg hdepth, if_neg hdepth]
      rfl
  | objectOfUnknown info required =>
    rw [Node.ownNotes, Node.loosening?, if_neg hd]
    rfl
/-- A walk over properties notes why the types of their fields are loose, one after the other. -/
theorem notes_fieldTypes (path : List String) (required : Required)
    (properties : List (String × Node)) :
    (fieldTypes path required properties).notes =
      (propertyFields path properties).flatMap fieldNotes := by
  match properties with
  | [] => rfl
  | (name, node) :: rest =>
    rw [fieldTypes, propertyFields, notes_fieldType_eq_append,
      notes_fieldTypes path required rest, List.flatMap_append, List.flatMap_cons, fieldNotes]
end

/-- A walk over a field notes why the types of the fields that it declares are loose, and nothing
else. -/
theorem notes_fieldType (path : List String) (node : Node) :
    (fieldType path node).notes = (node.fields path).flatMap fieldNotes := by
  rw [notes_fieldType_eq_append, Node.fields, List.flatMap_cons, fieldNotes]

end TypedClient.Schema
