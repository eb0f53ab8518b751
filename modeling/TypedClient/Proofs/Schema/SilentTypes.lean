import TypedClient.Proofs.Schema.Loosenings

/-!
# Loose types without a warning

A walk over the node of a schema declares fields, and reports those of a loose type
unless it is named `any`. That a type name is known and still loose does not happen, since
a schema that names the type `object` or `array` is read as a node of its own kind
(`namesScalars_ofJson`). There is one exception: a list of values with an array or object
in it has `any` among its alternatives, and nothing is said of it (`reportsWidened_iff`).
-/

namespace TypedClient.Schema

open TypedClient.Client TypedClient.Script

/-! ### Type names -/

mutual
/-- Whether the type names within a node are of values that are neither arrays nor objects. -/
def Node.NamesScalars : Node → Prop
  | .primitive _ typeName _ => typeName ≠ some "array" ∧ typeName ≠ some "object"
  | .array _ items => items.NamesScalars
  | .object _ properties _ => NameScalars properties
  | _ => True
/-- Whether the type names within the nodes of properties are of such values. -/
def NameScalars : List (String × Node) → Prop
  | [] => True
  | (_, node) :: rest => node.NamesScalars ∧ NameScalars rest
end

mutual
/-- A schema that names the type `array` or `object` is read as a node for it. -/
theorem namesScalars_ofJson : ∀ schema : Json, (Node.ofJson schema).NamesScalars
  | .object members => by
    unfold Node.ofJson
    dsimp only
    split
    · split
      · next items hitems =>
        have hread : items.NamesScalars := namesScalars_itemsOf members hitems
        exact hread
      · exact trivial
    · split
      · next properties hproperties =>
        have hread : NameScalars properties := nameScalars_propertiesOf members hproperties
        exact hread
      · exact trivial
    · next typeName harray hobject => exact ⟨harray, hobject⟩
  | .null => ⟨nofun, nofun⟩
  | .bool _ => ⟨nofun, nofun⟩
  | .number _ => ⟨nofun, nofun⟩
  | .string _ => ⟨nofun, nofun⟩
  | .array _ => ⟨nofun, nofun⟩
theorem namesScalars_itemsOf : ∀ (members : List (String × Json)) {items : Node},
    Node.itemsOf members = some items → items.NamesScalars
  | [], _, h => by simp [Node.itemsOf] at h
  | (name, value) :: rest, items, h => by
    rw [Node.itemsOf] at h
    split at h
    · obtain rfl := Option.some.inj h
      exact namesScalars_ofJson value
    · exact namesScalars_itemsOf rest h
theorem nameScalars_propertiesOf : ∀ (members : List (String × Json))
    {properties : List (String × Node)},
    Node.propertiesOf members = some properties → NameScalars properties
  | [], _, h => by simp [Node.propertiesOf] at h
  | (name, value) :: rest, properties, h => by
    rw [Node.propertiesOf] at h
    split at h
    · exact nameScalars_membersOf value h
    · exact nameScalars_propertiesOf rest h
theorem nameScalars_membersOf : ∀ (value : Json) {properties : List (String × Node)},
    Node.membersOf value = some properties → NameScalars properties
  | .object members, properties, h => by
    obtain rfl := Option.some.inj h
    exact nameScalars_nodesOf members
  | .null, _, h => nomatch h
  | .bool _, _, h => nomatch h
  | .number _, _, h => nomatch h
  | .string _, _, h => nomatch h
  | .array _, _, h => nomatch h
theorem nameScalars_nodesOf : ∀ members : List (String × Json),
    NameScalars (Node.nodesOf members)
  | [] => trivial
  | (_, value) :: rest => ⟨namesScalars_ofJson value, nameScalars_nodesOf rest⟩
end

/-! ### Loose types -/

/-- Whether a value of a list of values has no type of its own. -/
def isCompound : Json → Bool
  | .array _ => true
  | .object _ => true
  | _ => false

/-- Whether the type of a node, or of the items of its array, is named `any`. -/
def Node.namesAny : Node → Bool
  | .primitive _ typeName _ => typeName == some "any"
  | .array _ items => items.namesAny
  | _ => false

/-- Whether a list of values for a node, or for the items of its array, has an array or object in
it, and the type is not named `any`. -/
def Node.hidesAny : Node → Bool
  | .primitive _ typeName (some literals) => typeName != some "any" && literals.any isCompound
  | .array _ items => items.hidesAny
  | _ => false

/-- Whether the type of the field of a node is loose, and is not named `any`. -/
def Node.isWidened (node : Node) : Bool := (nodeType 0 node).isLoose && !node.namesAny

theorem isLoose_valueType (value : Json) : (valueType value).isLoose = isCompound value := by
  cases value <;> rfl

theorem isLoose_arrayTree (depth : Nat) (info : Info) (element : TypeTree) :
    (arrayTree depth info element).isLoose = element.isLoose := by
  rw [arrayTree]
  split
  · rw [TypeTree.isLoose, anyLoose_eq_any]
    simp [TypeTree.isLoose]
  · rfl

/-- A list of values gives a loose type if a value in it has no type of its own. -/
theorem isLoose_literals (depth : Nat) (info : Info) (typeName : Option String) (first : Json)
    (others : List Json) :
    (nodeType depth (.primitive info typeName (some (first :: others)))).isLoose =
      (first :: others).any isCompound := by
  rw [nodeType, isLoose_unionOf, List.any_map]
  exact congrArg (List.any _) (funext isLoose_valueType)

/-- A type name that is not known means any type. -/
theorem nameType_of_not_known {name : String} (h : isKnownType name = false) :
    nameType (some name) = anyType := by
  have hname : name ≠ "integer" ∧ name ≠ "number" ∧ name ≠ "string" ∧ name ≠ "boolean" ∧
      name ≠ "object" ∧ name ≠ "array" ∧ name ≠ "any" := by
    simpa [isKnownType] using h
  obtain ⟨hinteger, hnumber, hstring, hboolean, hobject, harray, -⟩ := hname
  rw [nameType] <;> simp [hinteger, hnumber, hstring, hboolean, hobject, harray]

/-- Of the names of scalars, only those that are not known and `any` give a loose type. -/
theorem isLoose_nameType {name : String} (harray : name ≠ "array") (hobject : name ≠ "object") :
    ((nameType (some name)).isLoose && !(some name == some "any")) = !isKnownType name := by
  cases hknown : isKnownType name with
  | false =>
    have hloose : anyType.isLoose = true := rfl
    have hany : name ≠ "any" := by
      rintro rfl
      exact absurd hknown (by decide)
    rw [nameType_of_not_known hknown, hloose]
    simpa using hany
  | true =>
    have hname : name = "integer" ∨ name = "number" ∨ name = "string" ∨ name = "boolean" ∨
        name = "object" ∨ name = "array" ∨ name = "any" := by
      simpa [isKnownType] using hknown
    rcases hname with rfl | rfl | rfl | rfl | rfl | rfl | rfl
    · rfl
    · rfl
    · rfl
    · rfl
    · exact absurd rfl hobject
    · exact absurd rfl harray
    · rfl

/-- There is a cause for a loose type unless it is named `any` or comes from a list of values. -/
theorem isSome_loosening? (depth : Nat) (node : Node) (h : node.NamesScalars) :
    (node.loosening? depth).isSome =
      ((nodeType depth node).isLoose && !node.namesAny && !node.hidesAny) := by
  cases node with
  | primitive info typeName literals =>
    have hname {name : String} (hn : some name ≠ some "array" ∧ some name ≠ some "object") :
        (if isKnownType name then none else some (Loosening.unknownType name)).isSome =
          ((nameType (some name)).isLoose && !(some name == some "any")) := by
      rw [isLoose_nameType (fun he => hn.1 (congrArg some he)) fun he => hn.2 (congrArg some he)]
      cases isKnownType name <;> rfl
    match literals, typeName with
    | some (first :: others), typeName =>
      rw [isLoose_literals, Node.namesAny, Node.hidesAny, bne]
      cases (first :: others).any isCompound <;> cases typeName == some "any" <;> rfl
    | some [], some name =>
      rw [Node.hidesAny, List.any_nil, Bool.and_false, Bool.not_false, Bool.and_true]
      exact hname h
    | none, some name =>
      rw [Node.hidesAny, Bool.not_false, Bool.and_true]
      · exact hname h
      · simp
      · simp
    | some [], none => rfl
    | none, none => rfl
  | array info items =>
    rw [nodeType, isLoose_arrayTree]
    exact isSome_loosening? (depth + 1) items h
  | arrayOfUnknown info =>
    rw [nodeType, isLoose_arrayTree]
    rfl
  | object info properties required =>
    rw [nodeType, Node.loosening?]
    split <;> rfl
  | objectOfUnknown info required => rfl

mutual
theorem namesScalars_of_mem_innerFields (path : List String) (depth : Nat) (node : Node)
    (h : node.NamesScalars) {f : List String × Node} (hf : f ∈ node.innerFields path depth) :
    f.2.NamesScalars := by
  cases node with
  | array info items => exact namesScalars_of_mem_innerFields path (depth + 1) items h hf
  | object info properties required =>
    rw [Node.innerFields] at hf
    split at hf
    · exact namesScalars_of_mem_propertyFields path properties h hf
    · exact absurd hf List.not_mem_nil
  | primitive info typeName literals => exact absurd hf List.not_mem_nil
  | arrayOfUnknown info => exact absurd hf List.not_mem_nil
  | objectOfUnknown info required => exact absurd hf List.not_mem_nil
theorem namesScalars_of_mem_propertyFields (path : List String)
    (properties : List (String × Node)) (h : NameScalars properties) {f : List String × Node}
    (hf : f ∈ propertyFields path properties) : f.2.NamesScalars := by
  match properties with
  | [] => exact absurd hf List.not_mem_nil
  | (name, node) :: rest =>
    rw [propertyFields, List.cons_append, List.mem_cons, List.mem_append] at hf
    rcases hf with rfl | hf | hf
    · exact h.1
    · exact namesScalars_of_mem_innerFields (path ++ [name]) 0 node h.1 hf
    · exact namesScalars_of_mem_propertyFields path rest h.2 hf
end

/-- A list of values with an array or object in it gives a loose type. -/
theorem isLoose_of_hidesAny (depth : Nat) (node : Node) (h : node.hidesAny = true) :
    (nodeType depth node).isLoose = true ∧ node.namesAny = false := by
  cases node with
  | primitive info typeName literals =>
    match literals with
    | some (first :: others) =>
      rw [Node.hidesAny, Bool.and_eq_true, bne, Bool.not_eq_true'] at h
      rw [isLoose_literals]
      exact ⟨h.2, h.1⟩
    | some [] => simp [Node.hidesAny] at h
    | none => exact absurd h Bool.false_ne_true
  | array info items =>
    rw [nodeType, isLoose_arrayTree]
    exact isLoose_of_hidesAny (depth + 1) items h
  | arrayOfUnknown info => exact absurd h Bool.false_ne_true
  | object info properties required => exact absurd h Bool.false_ne_true
  | objectOfUnknown info required => exact absurd h Bool.false_ne_true

/-! ### Warnings -/

/-- The warnings of a walk over a field. -/
def walkWarnings (id : String) (path : List String) (node : Node) : List Warning :=
  (fieldType path node).notes.map (Warning.ofNote id)

/-- Whether there is a warning on a field of some keys. -/
def IsReported (warnings : List Warning) (id : String) (path : List String) : Prop :=
  ∃ message, Warning.schema id (".".intercalate path) message ∈ warnings

/-- Whether a walk over a field reports each field that it declares with a loose type, unless that
is named `any`. -/
def ReportsWidened (id : String) (path : List String) (node : Node) : Prop :=
  ∀ f ∈ node.fields path, f.2.isWidened = true → IsReported (walkWarnings id path node) id f.1

/-- A field is reported exactly if there is a cause for the type of a field with the same keys
between points. -/
theorem isReported_iff {id : String} {path field : List String} {node : Node} :
    IsReported (walkWarnings id path node) id field ↔
      ∃ f ∈ node.fields path, ".".intercalate f.1 = ".".intercalate field ∧
        (f.2.loosening? 0).isSome = true := by
  rw [IsReported, walkWarnings, notes_fieldType]
  constructor
  · rintro ⟨message, hmem⟩
    obtain ⟨note, hnote, hwarning⟩ := List.mem_map.mp hmem
    obtain ⟨f, hf, hown⟩ := List.mem_flatMap.mp hnote
    rw [fieldNotes, Node.ownNotes, Option.mem_toList, Option.map_eq_some_iff] at hown
    obtain ⟨cause, hcause, rfl⟩ := hown
    obtain ⟨-, hpath, -⟩ := Warning.schema.inj hwarning
    exact ⟨f, hf, hpath, Option.isSome_of_eq_some hcause⟩
  · rintro ⟨f, hf, hpath, hsome⟩
    obtain ⟨cause, hcause⟩ := Option.isSome_iff_exists.mp hsome
    refine ⟨cause.message, List.mem_map.mpr ⟨⟨f.1, cause⟩, ?_, ?_⟩⟩
    · refine List.mem_flatMap.mpr ⟨f, hf, ?_⟩
      rw [fieldNotes, Node.ownNotes, hcause]
      exact List.mem_singleton_self _
    · rw [Warning.ofNote, hpath]

/-- The fields that a walk over a field declares are those of its node, each with the type of its
own node. It reports each of them that has a loose type, unless that is named `any`, exactly if
those fields whose list of values has an array or object in it are reported for the sake of others
with the same keys between points. -/
theorem reportsWidened_iff (id : String) (path : List String) (schema : Json) :
    (fieldType path (Node.ofJson schema)).value.tree.fields path =
        ((Node.ofJson schema).fields path).map typedField ∧
      (ReportsWidened id path (Node.ofJson schema) ↔
        ∀ f ∈ (Node.ofJson schema).fields path, f.2.hidesAny = true →
          ∃ g ∈ (Node.ofJson schema).fields path,
            ".".intercalate g.1 = ".".intercalate f.1 ∧ g.2.isWidened = true ∧
              g.2.hidesAny = false) := by
  have hcause : ∀ f ∈ (Node.ofJson schema).fields path,
      ((f.2.loosening? 0).isSome = true ↔ f.2.isWidened = true ∧ f.2.hidesAny = false) := by
    intro f hf
    have hread : f.2.NamesScalars := by
      rcases List.mem_cons.mp hf with rfl | hf
      · exact namesScalars_ofJson schema
      · exact namesScalars_of_mem_innerFields path 0 _ (namesScalars_ofJson schema) hf
    rw [isSome_loosening? 0 f.2 hread, Bool.and_eq_true, Bool.not_eq_true', Node.isWidened]
  have hreported : ∀ f ∈ (Node.ofJson schema).fields path,
      f.2.isWidened = true → f.2.hidesAny = false →
        IsReported (walkWarnings id path (Node.ofJson schema)) id f.1 := fun f hf hwidened hshown =>
    isReported_iff.mpr ⟨f, hf, rfl, (hcause f hf).mpr ⟨hwidened, hshown⟩⟩
  refine ⟨?_, ?_, ?_⟩
  · rw [(fieldType_spec path _).1, fields_nodeType]
  · intro h f hf hhides
    obtain ⟨hloose, hnamed⟩ := isLoose_of_hidesAny 0 f.2 hhides
    have hwidened : f.2.isWidened = true := by
      rw [Node.isWidened, hloose, hnamed]
      rfl
    obtain ⟨g, hg, hpath, hsome⟩ := isReported_iff.mp (h f hf hwidened)
    exact ⟨g, hg, hpath, (hcause g hg).mp hsome⟩
  · intro h f hf hwidened
    cases hhides : f.2.hidesAny with
    | false => exact hreported f hf hwidened hhides
    | true =>
      obtain ⟨g, hg, hpath, hwidened', hshown⟩ := h f hf hhides
      obtain ⟨message, hmem⟩ := hreported g hg hwidened' hshown
      rw [hpath] at hmem
      exact ⟨message, hmem⟩

/-- A list of values with an object in it. -/
def mixedEnum : Json := .object [("enum", .array [.string "a", .object []])]

/-- The field of that schema has the type `any` among others, and nothing is reported. -/
theorem mixedEnum_silent :
    (fieldType ["k"] (Node.ofJson mixedEnum)).value.tree =
        .union [.string "a", .name "any"] ∧
      ¬ ReportsWidened "x" ["k"] (Node.ofJson mixedEnum) := by
  refine ⟨rfl, fun h => ?_⟩
  obtain ⟨message, hmem⟩ := h (["k"], Node.ofJson mixedEnum) List.mem_cons_self (by decide)
  have hnothing : walkWarnings "x" ["k"] (Node.ofJson mixedEnum) = [] := rfl
  rw [hnothing] at hmem
  exact absurd hmem List.not_mem_nil

end TypedClient.Schema
