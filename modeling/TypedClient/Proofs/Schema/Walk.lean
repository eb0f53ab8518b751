import TypedClient.Proofs.Schema.Loosenings

/-!
# Walks over nodes

A walker goes through a node with the keys down to where it is and the warnings that it
has made. It puts a key on the path before a field and takes it off after the field, and
it warns where it is. From any state it gives the type of the field, is back where it
was, and has all its earlier warnings before the new ones (`walkField_eq`).
-/

namespace TypedClient.Schema

open TypedClient.Client

/-- A walker over the nodes of an operation. -/
structure Walker where
  /-- The operation. -/
  operationId : String
  /-- The keys down to where the walker is. -/
  path : List String
  /-- The warnings so far. -/
  warnings : List Warning
  deriving DecidableEq, Repr

namespace Walker

/-- Goes to a key. -/
def enter (w : Walker) (key : String) : Walker := { w with path := w.path ++ [key] }

/-- Goes back from the last key. -/
def leave (w : Walker) : Walker := { w with path := w.path.dropLast }

/-- Warns about the field where the walker is. -/
def warn (w : Walker) (cause : Loosening) : Walker :=
  { w with
    warnings := w.warnings ++
      [.schema w.operationId (".".intercalate w.path) cause.message] }

/-- Gives the type of a value that is neither array nor object. -/
def primitiveType (w : Walker) (typeName : Option String) (literals : Option (List Json)) :
    TypeExpr × Walker :=
  match literals, typeName with
  | some (first :: others), _ => (literalUnion (first :: others), w)
  | _, some name =>
    if isKnownType name then (namedType name, w) else (.any, w.warn (.unknownType name))
  | _, none => (.any, w.warn .untyped)

mutual
/-- Goes through the field of a key. -/
def walkField (w : Walker) (key : String) : Node → TypeExpr × Walker
  | .primitive _ typeName literals =>
    let (type, left) := (w.enter key).primitiveType typeName literals
    (type, left.leave)
  | .array info (.object _ properties required) =>
    let (fields, left) := (w.enter key).walkProperties required properties
    (arrayType info (.record fields), left.leave)
  | .array info items =>
    let (element, left) := (w.enter key).walkElement items
    (arrayType info element, left.leave)
  | .arrayOfUnknown info => (arrayType info .any, ((w.enter key).warn .arrayWithoutItems).leave)
  | .object _ properties required =>
    let (fields, left) := (w.enter key).walkProperties required properties
    (.record fields, left.leave)
  | .objectOfUnknown _ _ => (.any, ((w.enter key).warn .objectWithoutProperties).leave)
/-- Goes through the items of an array, unless they are objects with properties in an array that
is no item itself. -/
def walkElement (w : Walker) : Node → TypeExpr × Walker
  | .primitive _ none none => (.any, w.warn .untypedItems)
  | .primitive _ typeName (some literals) =>
    let (type, left) := w.primitiveType typeName (some literals)
    (.group type, left)
  | .primitive _ typeName none => w.primitiveType typeName none
  | .array _ items =>
    let (element, left) := w.walkElement items
    (.array element, left)
  | .arrayOfUnknown _ => (.array .any, w.warn .nestedArrayWithoutItems)
  | .object _ _ _ => (.name "object", w.warn .objectInNestedArray)
  | .objectOfUnknown _ _ => (.any, w.warn .itemsWithoutProperties)
/-- Goes through the fields for properties. -/
def walkProperties (w : Walker) (required : Required) :
    List (String × Node) → List (FieldHead × TypeExpr) × Walker
  | [] => ([], w)
  | (name, node) :: rest =>
    let (type, next) := w.walkField name node
    let (others, last) := next.walkProperties required rest
    ((⟨node.description?, name, !required.contains name⟩, type) :: others, last)
end

/-! ### A walk gives the type of a field and the notes on it -/

/-- The walker with warnings for notes. -/
def noting (w : Walker) (notes : List Note) : Walker :=
  { w with warnings := w.warnings ++ notes.map (Warning.ofNote w.operationId) }

@[simp] theorem noting_path (w : Walker) (notes : List Note) : (w.noting notes).path = w.path := rfl

@[simp] theorem noting_nil (w : Walker) : w.noting [] = w := by
  simp [noting]

@[simp] theorem noting_noting (w : Walker) (first second : List Note) :
    (w.noting first).noting second = w.noting (first ++ second) := by
  simp [noting]

theorem warn_eq (w : Walker) (cause : Loosening) : w.warn cause = w.noting [⟨w.path, cause⟩] := rfl

/-- A key that is taken off after what was noted under it leaves the walker where it was. -/
@[simp] theorem leave_noting_enter (w : Walker) (key : String) (notes : List Note) :
    ((w.enter key).noting notes).leave = w.noting notes := by
  simp [enter, leave, noting]

/-- The walker after a result, with warnings for the notes on it. -/
def after {α : Type} (w : Walker) (result : Noted α) : α × Walker :=
  (result.value, w.noting result.notes)

theorem after_plain {α : Type} (w : Walker) (value : α) : w.after (.plain value) = (value, w) := by
  rw [after, Noted.plain, noting_nil]

theorem primitiveType_eq (w : Walker) (typeName : Option String) (literals : Option (List Json)) :
    w.primitiveType typeName literals = w.after (scalarType w.path typeName literals) := by
  have hname (name : String) :
      (if isKnownType name then (namedType name, w) else (.any, w.warn (.unknownType name))) =
        w.after (if isKnownType name then Noted.plain (namedType name)
          else ⟨.any, [⟨w.path, .unknownType name⟩]⟩) := by
    split
    · exact (w.after_plain _).symm
    · rfl
  match literals, typeName with
  | some (first :: others), _ => exact (w.after_plain _).symm
  | some [], some name => exact hname name
  | none, some name => exact hname name
  | some [], none => rfl
  | none, none => rfl

/-- Going through items says what their type is in an array that is an item itself. -/
theorem walkElement_eq (w : Walker) (node : Node) :
    w.walkElement node = w.after (itemType w.path true node) := by
  cases node with
  | primitive info typeName literals =>
    match literals, typeName with
    | none, none => rfl
    | none, some name => exact w.primitiveType_eq (some name) none
    | some values, typeName =>
      rw [walkElement, primitiveType_eq]
      rfl
  | array info items =>
    rw [walkElement, walkElement_eq]
    rfl
  | arrayOfUnknown info => rfl
  | object info properties required => rfl
  | objectOfUnknown info required => rfl

/-- Unless items are objects with properties, their type does not depend on whether their array
is an item itself. -/
theorem itemType_nested {path : List String} {node : Node}
    (h : ∀ info properties required, node ≠ .object info properties required) :
    itemType path true node = itemType path false node := by
  cases node with
  | object info properties required => exact absurd rfl (h info properties required)
  | _ => rfl

mutual
/-- From any state a walk through a field gives its type, and leaves the walker where it was with
warnings for the notes on the type after those from before. -/
theorem walkField_eq (w : Walker) (key : String) (node : Node) :
    w.walkField key node = w.after (fieldType (w.path ++ [key]) node) := by
  cases node with
  | primitive info typeName literals =>
    rw [walkField, primitiveType_eq]
    exact Prod.ext rfl (w.leave_noting_enter key _)
  | array info items =>
    by_cases hobject : ∃ inner properties required, items = .object inner properties required
    · obtain ⟨inner, properties, required, rfl⟩ := hobject
      rw [walkField, walkProperties_eq]
      exact Prod.ext rfl (w.leave_noting_enter key _)
    · have hitems : ∀ inner properties required, items ≠ .object inner properties required :=
        fun inner properties required he => hobject ⟨inner, properties, required, he⟩
      have htype : fieldType (w.path ++ [key]) (.array info items) =
          (itemType (w.path ++ [key]) true items).map (arrayType info) := by
        rw [fieldType, itemType_nested hitems]
      rw [walkField, walkElement_eq, htype]
      · exact Prod.ext rfl (w.leave_noting_enter key _)
      · exact hitems
  | arrayOfUnknown info =>
    rw [walkField, warn_eq, leave_noting_enter]
    rfl
  | object info properties required =>
    rw [walkField, walkProperties_eq]
    exact Prod.ext rfl (w.leave_noting_enter key _)
  | objectOfUnknown info required =>
    rw [walkField, warn_eq, leave_noting_enter]
    rfl
/-- A walk through properties gives their fields, and makes the warnings for one after the
other. -/
theorem walkProperties_eq (w : Walker) (required : Required) (properties : List (String × Node)) :
    w.walkProperties required properties = w.after (fieldTypes w.path required properties) := by
  match properties with
  | [] => exact (w.after_plain _).symm
  | (name, node) :: rest =>
    rw [walkProperties, walkField_eq, after]
    dsimp only
    rw [walkProperties_eq, noting_path, after, noting_noting]
    rfl
end

end Walker

/-! ### Places -/

/-- A node within another. -/
structure Place where
  /-- The keys down to the field that it stands in. -/
  path : List String
  /-- In how many arrays of the field it stands. -/
  depth : Nat
  /-- Whether it stands in an object with properties that is in an array of arrays. -/
  isHidden : Bool
  /-- The node. -/
  node : Node

mutual
/-- A node and all nodes within it, each before those within it. -/
def Node.places (path : List String) (depth : Nat) (isHidden : Bool) : Node → List Place
  | .primitive info typeName literals => [⟨path, depth, isHidden, .primitive info typeName literals⟩]
  | .array info items =>
    ⟨path, depth, isHidden, .array info items⟩ :: items.places path (depth + 1) isHidden
  | .arrayOfUnknown info => [⟨path, depth, isHidden, .arrayOfUnknown info⟩]
  | .object info properties required =>
    ⟨path, depth, isHidden, .object info properties required⟩ ::
      propertyPlaces path (isHidden || decide (2 ≤ depth)) properties
  | .objectOfUnknown info required => [⟨path, depth, isHidden, .objectOfUnknown info required⟩]
/-- The nodes of properties and all nodes within them. -/
def propertyPlaces (path : List String) (isHidden : Bool) : List (String × Node) → List Place
  | [] => []
  | (name, node) :: rest =>
    node.places (path ++ [name]) 0 isHidden ++ propertyPlaces path isHidden rest
end

namespace Place

/-- Why the type of a node is looser than the schema may have meant, apart from the nodes within
it. -/
def degradation? (p : Place) : Option Loosening :=
  match p.node with
  | .array _ _ => none
  | node => node.loosening? p.depth

/-- The note on a node, if its type is looser than the schema may have meant. -/
def note? (p : Place) : Option Note :=
  p.degradation?.map (Note.mk p.path)

end Place

/-- The places that stand in no object with properties that is in an array of arrays. -/
def shown (places : List Place) : List Place :=
  places.filter fun p => !p.isHidden

/-- What is noted on a place that is shown comes before what is noted on those after it. -/
theorem notes_shown_cons (path : List String) (depth : Nat) (node : Node) (rest : List Place) :
    (shown (⟨path, depth, false, node⟩ :: rest)).filterMap Place.note? =
      (Place.note? ⟨path, depth, false, node⟩).toList ++ (shown rest).filterMap Place.note? := by
  rw [shown, List.filter_cons_of_pos (by simp), List.filterMap_cons, ← shown]
  cases Place.note? ⟨path, depth, false, node⟩ <;> rfl

mutual
theorem shown_places_hidden (path : List String) (depth : Nat) (node : Node) :
    shown (node.places path depth true) = [] := by
  cases node with
  | array info items =>
    rw [Node.places, shown, List.filter_cons_of_neg (by simp)]
    exact shown_places_hidden path (depth + 1) items
  | object info properties required =>
    rw [Node.places, shown, List.filter_cons_of_neg (by simp), Bool.true_or]
    exact shown_propertyPlaces_hidden path properties
  | _ => rfl
theorem shown_propertyPlaces_hidden (path : List String) (properties : List (String × Node)) :
    shown (propertyPlaces path true properties) = [] := by
  match properties with
  | [] => rfl
  | (name, node) :: rest =>
    have hnode := shown_places_hidden (path ++ [name]) 0 node
    have hrest := shown_propertyPlaces_hidden path rest
    rw [shown] at hnode hrest
    rw [propertyPlaces, shown, List.filter_append, hnode, hrest, List.append_nil]
end

mutual
/-- What is noted on a node and on the fields within its type is what is noted on the nodes that
are shown. -/
theorem notes_places (path : List String) (depth : Nat) (node : Node) :
    node.ownNotes path depth ++ (node.innerFields path depth).flatMap fieldNotes =
      (shown (node.places path depth false)).filterMap Place.note? := by
  cases node with
  | array info items =>
    rw [Node.places, notes_shown_cons]
    exact notes_places path (depth + 1) items
  | object info properties required =>
    rw [Node.places, notes_shown_cons, Bool.false_or, Node.innerFields]
    by_cases hd : depth ≤ 1
    · rw [if_pos hd, decide_eq_false (by omega), ← notes_propertyPlaces]
      rfl
    · rw [if_neg hd, decide_eq_true (by omega), shown_propertyPlaces_hidden]
      rfl
  | _ =>
    rw [Node.places, notes_shown_cons]
    rfl
theorem notes_propertyPlaces (path : List String) (properties : List (String × Node)) :
    (propertyFields path properties).flatMap fieldNotes =
      (shown (propertyPlaces path false properties)).filterMap Place.note? := by
  match properties with
  | [] => rfl
  | (name, node) :: rest =>
    have hnode := notes_places (path ++ [name]) 0 node
    have hrest := notes_propertyPlaces path rest
    rw [shown] at hnode hrest
    rw [propertyFields, propertyPlaces, shown, List.filter_append, List.filterMap_append, ← hnode,
      ← hrest, List.flatMap_append, List.flatMap_cons]
    rfl
end

/-- The warning about a node, if its type is looser than the schema may have meant. -/
def Place.warning? (operationId : String) (p : Place) : Option Warning :=
  p.note?.map (Warning.ofNote operationId)

/-- From any state a walk through the field of a key gives the type of the field and is back where
it was. Its earlier warnings stand before the new ones, of which there is one for each node whose
type is looser than the schema may have meant, a node before those within it, with the keys down
to its field. Only of the nodes in an object with properties that is in an array of arrays none
is warned about. -/
theorem walkField_warns (w : Walker) (key : String) (node : Node) :
    let places := node.places (w.path ++ [key]) 0 false
    (w.walkField key node).1 = (fieldType (w.path ++ [key]) node).value ∧
      (w.walkField key node).2.operationId = w.operationId ∧
      (w.walkField key node).2.path = w.path ∧
      (w.walkField key node).2.warnings =
        w.warnings ++ (shown places).filterMap (Place.warning? w.operationId) ∧
      (fieldType (w.path ++ [key]) node).notes.map (Warning.ofNote w.operationId) =
        (shown places).filterMap (Place.warning? w.operationId) := by
  intro places
  have hnotes : (fieldType (w.path ++ [key]) node).notes =
      (shown places).filterMap Place.note? := by
    rw [notes_fieldType_eq_append, notes_places]
  have hwarnings : (fieldType (w.path ++ [key]) node).notes.map (Warning.ofNote w.operationId) =
      (shown places).filterMap (Place.warning? w.operationId) := by
    rw [hnotes, List.map_filterMap]
    rfl
  rw [Walker.walkField_eq]
  refine ⟨rfl, rfl, rfl, ?_, hwarnings⟩
  rw [← hwarnings]
  rfl

/-- A property of an object in an array of arrays has no type, and is not warned about. -/
theorem nestedObject_property_not_warned :
    let schema : Json := .object [("type", .string "array"), ("items", .object [
      ("type", .string "array"), ("items", .object [("type", .string "object"),
        ("properties", .object [("p", .object [])])])])]
    let w : Walker := ⟨"x", [], []⟩
    (w.walkField "k" (.ofJson schema)).2.warnings ≠
      w.warnings ++ ((Node.ofJson schema).places (w.path ++ ["k"]) 0 false).filterMap
        (Place.warning? w.operationId) := by
  decide

end TypedClient.Schema
