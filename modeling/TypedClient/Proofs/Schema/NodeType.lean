import TypedClient.Proofs.Client.TypeText
import TypedClient.Proofs.Script.TypeReading
import TypedClient.Schema.Typing

/-!
# Declarations of nodes

`nodeType` says, for any node, which type a client is to see: it is a translation of
the schema that knows nothing of how types are written. Every declaration that is
written for a node, of a property or of a name, is read back as one declaration with
that type, and none of its lines has a line feed in it.
-/

namespace TypedClient.Schema

open TypedClient.Client TypedClient.Script

/-! ### The type of a node -/

/-- The type of any value. -/
def anyType : TypeTree := .name "any"

/-- The type of one value of a list of values. -/
def valueType : Json → TypeTree
  | .string value => .string value
  | .null => .null
  | .bool value => .bool value
  | .number value => .number value.value
  | .array _ => anyType
  | .object _ => anyType

/-- The type that a type name of a schema means. -/
def nameType : Option String → TypeTree
  | some "integer" => .name "number"
  | some "number" => .name "number"
  | some "string" => .name "string"
  | some "boolean" => .name "boolean"
  | some "object" => .name "object"
  | some "array" => .array anyType
  | _ => anyType

/-- The names that must be there. -/
def Required.names : Required → List String
  | .nothing => []
  | .keys names => names

/-- The type of an array. Only that of a field may also be `false`. -/
def arrayTree (depth : Nat) (info : Info) (element : TypeTree) : TypeTree :=
  if depth = 0 ∧ info.orFalse = true then .union [.array element, .bool false]
  else .array element

mutual
/-- The type of a node that stands in so many arrays. -/
def nodeType (depth : Nat) : Node → TypeTree
  | .primitive _ _ (some (first :: others)) => unionOf ((first :: others).map valueType)
  | .primitive _ typeName _ => nameType typeName
  | .array info items => arrayTree depth info (nodeType (depth + 1) items)
  | .arrayOfUnknown info => arrayTree depth info anyType
  | .object _ properties required =>
    if depth ≤ 1 then .record (memberTypes required properties) else .name "object"
  | .objectOfUnknown _ _ => anyType
/-- The members for the properties of an object. -/
def memberTypes (required : Required) : List (String × Node) → List (MemberHead × TypeTree)
  | [] => []
  | (name, node) :: rest =>
    (⟨name, !required.names.contains name⟩, nodeType 0 node) :: memberTypes required rest
end

/-! ### Scalars -/

theorem tree_ofJson (value : Json) : (Literal.ofJson value).tree = valueType value := by
  cases value <;> rfl

theorem tree_literalUnion (first : Json) (others : List Json) :
    (literalUnion (first :: others)).tree = unionOf ((first :: others).map valueType) := by
  have htrees : (others.map Literal.ofJson).map Literal.tree = others.map valueType := by
    rw [List.map_map]
    exact List.map_congr_left fun value _ => tree_ofJson value
  rw [literalUnion, TypeExpr.tree, List.map_cons, List.map_cons, htrees, tree_ofJson]

theorem isReadable_any : TypeExpr.any.IsReadable :=
  show isBinding "any" = true by decide

theorem tree_namedType (name : String) :
    (if isKnownType name then namedType name else .any).tree = nameType (some name) := by
  by_cases hinteger : name = "integer"
  · subst hinteger
    rfl
  by_cases hnumber : name = "number"
  · subst hnumber
    rfl
  by_cases hstring : name = "string"
  · subst hstring
    rfl
  by_cases hboolean : name = "boolean"
  · subst hboolean
    rfl
  by_cases hobject : name = "object"
  · subst hobject
    rfl
  by_cases harray : name = "array"
  · subst harray
    rfl
  have hloose : namedType name = .any := by
    simp [namedType, hinteger, hnumber, hstring, hboolean, hobject, harray]
  have hmeaning : nameType (some name) = anyType := by
    rw [nameType] <;> simp [hinteger, hnumber, hstring, hboolean, hobject, harray]
  rw [hloose, ite_self, hmeaning]
  rfl

theorem isReadable_namedType (name : String) :
    (namedType name).IsReadable ∧ (namedType name).isOperand = true := by
  rw [namedType]
  split
  · exact ⟨show isBinding "number" = true by decide, rfl⟩
  split
  · next hname =>
    simp only [Bool.or_eq_true, beq_iff_eq] at hname
    refine ⟨?_, rfl⟩
    show isBinding name = true
    rcases hname with (rfl | rfl) | rfl <;> decide
  split
  · exact ⟨⟨isReadable_any, rfl⟩, rfl⟩
  · exact ⟨isReadable_any, rfl⟩

/-- What is written for a type name, known or not, is what it means, and it binds as tight as
brackets do. -/
theorem scalarType_name_spec (path : List String) (name : String) :
    (scalarType path (some name) none).value.tree = nameType (some name) ∧
      (scalarType path (some name) none).value.IsReadable ∧
      (scalarType path (some name) none).value.isOperand = true := by
  have hvalue : (scalarType path (some name) none).value =
      if isKnownType name then namedType name else .any := by
    show (if isKnownType name then Noted.plain (namedType name)
      else ⟨.any, [⟨path, .unknownType name⟩]⟩).value = _
    split <;> rfl
  rw [hvalue]
  refine ⟨tree_namedType name, ?_⟩
  split
  · exact isReadable_namedType name
  · exact ⟨isReadable_any, rfl⟩

/-- What is written for a scalar is a type for it that is readable. -/
theorem scalarType_spec (path : List String) (typeName : Option String)
    (literals : Option (List Json)) (info : Info) (depth : Nat) :
    (scalarType path typeName literals).value.tree =
        nodeType depth (.primitive info typeName literals) ∧
      (scalarType path typeName literals).value.IsReadable := by
  match literals, typeName with
  | some (first :: others), _ => exact ⟨tree_literalUnion first others, trivial⟩
  | some [], some name =>
    obtain ⟨htree, hreadable, -⟩ := scalarType_name_spec path name
    exact ⟨htree, hreadable⟩
  | none, some name =>
    obtain ⟨htree, hreadable, -⟩ := scalarType_name_spec path name
    exact ⟨htree, hreadable⟩
  | some [], none => exact ⟨rfl, isReadable_any⟩
  | none, none => exact ⟨rfl, isReadable_any⟩

/-- What is written for a scalar that is an item binds as tight as brackets do. -/
theorem primitiveItemType_spec (path : List String) (typeName : Option String)
    (literals : Option (List Json)) (info : Info) (depth : Nat) :
    (primitiveItemType path typeName literals).value.tree =
        nodeType depth (.primitive info typeName literals) ∧
      (primitiveItemType path typeName literals).value.IsReadable ∧
      (primitiveItemType path typeName literals).value.isOperand = true := by
  match literals, typeName with
  | none, none => exact ⟨rfl, isReadable_any, rfl⟩
  | none, some name => exact scalarType_name_spec path name
  | some values, typeName =>
    obtain ⟨htree, hreadable⟩ := scalarType_spec path typeName (some values) info depth
    exact ⟨htree, hreadable, rfl⟩

/-! ### Nodes -/

theorem arrayType_spec (info : Info) {element : TypeExpr} (hr : element.IsReadable)
    (ho : element.isOperand = true) :
    (arrayType info element).tree = arrayTree 0 info element.tree ∧
      (arrayType info element).IsReadable := by
  rw [arrayType, arrayTree]
  cases info.orFalse with
  | false => exact ⟨rfl, hr, ho⟩
  | true => exact ⟨rfl, ⟨hr, ho⟩, rfl⟩

/-- An array within an array is never `false`. -/
theorem arrayTree_of_ne_zero {depth : Nat} (h : depth ≠ 0) (info : Info) (element : TypeTree) :
    arrayTree depth info element = .array element :=
  if_neg fun hzero => h hzero.1

theorem contains_eq (required : Required) (name : String) :
    required.contains name = required.names.contains name := by
  cases required <;> rfl

mutual
/-- What is written for a field is the type of its node, and is readable. -/
theorem fieldType_spec (path : List String) (node : Node) :
    (fieldType path node).value.tree = nodeType 0 node ∧
      (fieldType path node).value.IsReadable := by
  cases node with
  | primitive info typeName literals => exact scalarType_spec path typeName literals info 0
  | array info items =>
    obtain ⟨htree, hreadable, hoperand⟩ :=
      itemType_spec path false 1 items (by decide) (by decide)
    obtain ⟨harray, hr⟩ := arrayType_spec info hreadable hoperand
    rw [htree] at harray
    exact ⟨harray, hr⟩
  | arrayOfUnknown info => exact arrayType_spec info isReadable_any rfl
  | object info properties required =>
    obtain ⟨htrees, hreadable⟩ := fieldTypes_spec path required properties
    refine ⟨?_, hreadable⟩
    show TypeTree.record _ = TypeTree.record _
    rw [htrees]
  | objectOfUnknown info required => exact ⟨rfl, isReadable_any⟩
/-- What is written for an item is the type of its node, and is readable before brackets. -/
theorem itemType_spec (path : List String) (nested : Bool) (depth : Nat) (node : Node)
    (hd : depth ≠ 0) (hn : nested = decide (2 ≤ depth)) :
    (itemType path nested node).value.tree = nodeType depth node ∧
      (itemType path nested node).value.IsReadable ∧
      (itemType path nested node).value.isOperand = true := by
  cases node with
  | primitive info typeName literals =>
    exact primitiveItemType_spec path typeName literals info depth
  | array info items =>
    obtain ⟨htree, hreadable, hoperand⟩ :=
      itemType_spec path true (depth + 1) items (by omega) (decide_eq_true (by omega)).symm
    refine ⟨?_, ⟨hreadable, hoperand⟩, rfl⟩
    rw [nodeType, arrayTree_of_ne_zero hd, ← htree]
    rfl
  | arrayOfUnknown info =>
    refine ⟨?_, ⟨isReadable_any, rfl⟩, rfl⟩
    rw [nodeType, arrayTree_of_ne_zero hd]
    rfl
  | object info properties required =>
    obtain ⟨htrees, hreadable⟩ := fieldTypes_spec path required properties
    rw [itemType, nodeType]
    by_cases hdepth : depth ≤ 1
    · have hflat : nested = false := by rw [hn, decide_eq_false (by omega)]
      rw [hflat, if_neg (by decide), if_pos hdepth]
      refine ⟨?_, hreadable, rfl⟩
      show TypeTree.record _ = TypeTree.record _
      rw [htrees]
    · have hdeep : nested = true := by rw [hn, decide_eq_true (by omega)]
      rw [hdeep, if_pos rfl, if_neg hdepth]
      exact ⟨rfl, show isBinding "object" = true by decide, rfl⟩
  | objectOfUnknown info required => exact ⟨rfl, isReadable_any, rfl⟩
/-- What is written for properties are their members, with readable types. -/
theorem fieldTypes_spec (path : List String) (required : Required)
    (properties : List (String × Node)) :
    TypeExpr.memberTrees (fieldTypes path required properties).value =
        memberTypes required properties ∧
      TypeExpr.AreReadable (fieldTypes path required properties).value := by
  match properties with
  | [] => exact ⟨rfl, trivial⟩
  | (name, node) :: rest =>
    obtain ⟨htree, hreadable⟩ := fieldType_spec (path ++ [name]) node
    obtain ⟨htrees, hrest⟩ := fieldTypes_spec path required rest
    rw [fieldTypes]
    refine ⟨?_, hreadable, hrest⟩
    rw [TypeExpr.memberTrees, memberTypes, htree, htrees, FieldHead.member, contains_eq]
end

/-! ### Declarations -/

/-- What is written for a node is one declaration with the type of the node and no other, on lines
without line feeds: as a property, of its key, which may be left out unless it is required; and as
the type of a name, of that name. -/
theorem declarations_read (level : Nat) (key : String) (isRequired : Bool) (node : Node) :
    ((∀ line ∈ (node.field key isRequired).value.lines level, '\n' ∉ line.toList) ∧
      ∀ declared, IsDeclaration
          ("\n".intercalate ((node.field key isRequired).value.lines level)) declared ↔
        declared = .property ⟨key, !isRequired⟩ (nodeType 0 node)) ∧
    (isIdentifier key.toList = true →
      (∀ line ∈ aliasLines level node.description? key (node.field key isRequired).value.type,
        '\n' ∉ line.toList) ∧
      ∀ declared, IsDeclaration
          ("\n".intercalate
            (aliasLines level node.description? key (node.field key isRequired).value.type))
          declared ↔
        declared = .named key (nodeType 0 node)) := by
  obtain ⟨htree, hreadable⟩ := fieldType_spec [key] node
  have htype : (node.field key isRequired).value.type.tree = nodeType 0 node := htree
  have hr : (node.field key isRequired).value.type.IsReadable := hreadable
  have hproperty := isDeclaration_field level hr
  have hnamed (hkey : isIdentifier key.toList = true) :=
    isDeclaration_alias level node.description? hkey hr
  rw [htype] at hproperty hnamed
  refine ⟨⟨?_, isDeclaration_iff hproperty⟩, fun hkey => ⟨?_, isDeclaration_iff (hnamed hkey)⟩⟩
  · intro line hline
    have hfields : TypeExpr.AreReadable [((node.field key isRequired).value.head,
        (node.field key isRequired).value.type)] := ⟨hr, trivial⟩
    exact isLine_of_mem_fieldLines _ hfields level hline
  · intro line hline
    exact isLine_of_mem_aliasLines hkey hr hline

/-- A node for an object that has a description which would end a comment, an identifier that must
be there, and modes that may be `false`. -/
def widgetNode : Node :=
  .object ⟨some "A */ widget\n\nwith modes", false⟩
    [("id", .named "integer"),
      ("open-modes", .array ⟨none, true⟩
        (.primitive .none (some "string") (some [.string "r", .string "w"])))]
    (.keys ["id"])

/-- The type of that node is declared under a name. -/
theorem widgetNode_declaration_reads :
    isIdentifier "Widget".toList = true ∧
    aliasLines 0 widgetNode.description? "Widget" (widgetNode.field "Widget" true).value.type =
      ["/**", " * A *\\/ widget", " *", " * with modes", " */", "Widget = \x7b", "\tid: number;",
        "\t'open-modes'?: ('r' | 'w')[] | false;", "\x7d;"] ∧
    IsDeclaration ("\n".intercalate
        (aliasLines 0 widgetNode.description? "Widget" (widgetNode.field "Widget" true).value.type))
      (.named "Widget" (.record [
        (⟨"id", false⟩, .name "number"),
        (⟨"open-modes", true⟩,
          .union [.array (.union [.string "r", .string "w"]), .bool false])])) := by
  have hname : isIdentifier "Widget".toList = true := by decide
  refine ⟨hname, by decide, ?_⟩
  exact (((declarations_read 0 "Widget" true widgetNode).2 hname).2 _).mpr rfl

end TypedClient.Schema
