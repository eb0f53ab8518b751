import TypedClient.Json.Basic

/-!
# Schema nodes

A node is what a schema says about one value, as far as a client can use it.
`Node.ofJson` reads any JSON value as a node: what it does not understand it reads
as a value of no type, so that patches may leave a schema in any form.
-/

namespace TypedClient.Schema

/-- What every node says. -/
structure Info where
  /-- A text about the value. -/
  description : Option String
  /-- Whether an array may also be `false`. -/
  orFalse : Bool
  deriving DecidableEq, Repr

/-- Nothing said. -/
def Info.none : Info := ⟨.none, false⟩

/-- Which properties of an object must be there. -/
inductive Required where
  /-- No list of names is given. -/
  | nothing
  /-- Those in the list. -/
  | keys (names : List String)
  deriving DecidableEq, Repr

/-- The list that a value of the keyword `required` gives: its strings if it is an array. -/
def Required.ofJson? : Option Json → Required
  | some (.array items) => .keys (items.filterMap Json.asString?)
  | _ => .nothing

/-- Whether a property must be there. -/
def Required.contains (key : String) : Required → Bool
  | .nothing => false
  | .keys names => names.contains key

/-- What a schema says about a value. -/
inductive Node where
  /-- A value of a named type, or of no type, perhaps one of a list of values. -/
  | primitive (info : Info) (typeName : Option String) (literals : Option (List Json))
  /-- An array of values of one kind. -/
  | array (info : Info) (items : Node)
  /-- An array whose items are not described. -/
  | arrayOfUnknown (info : Info)
  /-- An object with properties. -/
  | object (info : Info) (properties : List (String × Node)) (required : Required)
  /-- An object whose properties are not described. -/
  | objectOfUnknown (info : Info) (required : Required)

namespace Node

/-- What the node says beside its kind. -/
def info : Node → Info
  | .primitive info _ _ => info
  | .array info _ => info
  | .arrayOfUnknown info => info
  | .object info _ _ => info
  | .objectOfUnknown info _ => info

/-- The text about the value. -/
def description? (node : Node) : Option String :=
  node.info.description

/-- The node with another text about the value. -/
def withDescription (description : Option String) : Node → Node
  | .primitive info typeName literals => .primitive { info with description } typeName literals
  | .array info items => .array { info with description } items
  | .arrayOfUnknown info => .arrayOfUnknown { info with description }
  | .object info properties required => .object { info with description } properties required
  | .objectOfUnknown info required => .objectOfUnknown { info with description } required

/-- A value of a named type. -/
def named (typeName : String) : Node := .primitive .none (some typeName) none

/-- A value of no type. -/
def untyped : Node := .primitive .none none none

/-- An object all of whose properties must be there. -/
def ofProperties (properties : List (String × Node)) : Node :=
  .object .none properties (.keys (properties.map Prod.fst))

/-- The key that says whether an array may also be `false`. -/
def orFalseKey : String := "unionProp"

/-- What the members of a schema say beside its kind. -/
def infoOf (members : List (String × Json)) : Info where
  description := (Json.lookup "description" members).bind Json.asString?
  orFalse := ((Json.lookup orFalseKey members).bind Json.asBool?).getD false

/-- The type that the members of a schema name: a name that is not empty, or the first name other
than `null` in a list. -/
def typeNameOf (members : List (String × Json)) : Option String :=
  match Json.lookup "type" members with
  | some (.string name) => if name.isEmpty then none else some name
  | some (.array items) => (items.filterMap Json.asString?).find? (· ≠ "null")
  | _ => none

mutual
/-- The node that a schema describes. -/
def ofJson : Json → Node
  | .object members =>
    let info := infoOf members
    match typeNameOf members with
    | some "array" =>
      match itemsOf members with
      | some items => .array info items
      | none => .arrayOfUnknown info
    | some "object" =>
      let required := Required.ofJson? (Json.lookup "required" members)
      match propertiesOf members with
      | some properties => .object info properties required
      | none => .objectOfUnknown info required
    | typeName => .primitive info typeName ((Json.lookup "enum" members).bind Json.asArray?)
  | _ => untyped
/-- The node of the member `items`. -/
def itemsOf : List (String × Json) → Option Node
  | [] => none
  | (name, value) :: rest => if name = "items" then some (ofJson value) else itemsOf rest
/-- The nodes of the members of the member `properties`, if that is an object. -/
def propertiesOf : List (String × Json) → Option (List (String × Node))
  | [] => none
  | (name, value) :: rest => if name = "properties" then membersOf value else propertiesOf rest
/-- The nodes of the members of an object. -/
def membersOf : Json → Option (List (String × Node))
  | .object members => some (nodesOf members)
  | _ => none
/-- The node of each member. -/
def nodesOf : List (String × Json) → List (String × Node)
  | [] => []
  | (name, value) :: rest => (name, ofJson value) :: nodesOf rest
end

end Node

end TypedClient.Schema
