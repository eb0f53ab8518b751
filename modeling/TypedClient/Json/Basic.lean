import TypedClient.Json.Number

/-!
# JSON values

A value keeps the members of an object in the order in which their names first
occurred. `Json.insert` puts a member at the end, or replaces the value of the
member of that name where it stands, so it never makes two members of one name.
-/

namespace TypedClient

/-- A JSON value. -/
inductive Json where
  /-- The value `null`. -/
  | null
  /-- A truth value. -/
  | bool (value : Bool)
  /-- A number. -/
  | number (value : Json.Number)
  /-- A string. -/
  | string (value : String)
  /-- An array. -/
  | array (items : List Json)
  /-- An object, as a list of named members. -/
  | object (members : List (String × Json))
  deriving Repr

namespace Json

/-- The value of the first member of a name. -/
def lookup {α : Type} (name : String) : List (String × α) → Option α
  | [] => none
  | (k, v) :: rest => if k = name then some v else lookup name rest

/-- The members with the value of the member `name` replaced, or with a new last member. -/
def insert {α : Type} (name : String) (value : α) : List (String × α) → List (String × α)
  | [] => [(name, value)]
  | (k, v) :: rest => if k = name then (k, value) :: rest else (k, v) :: insert name value rest

/-- The members without those of a name. -/
def erase {α : Type} (name : String) (members : List (String × α)) : List (String × α) :=
  members.filter fun m => m.1 ≠ name

/-- The value of a member of an object. -/
def get? (name : String) : Json → Option Json
  | .object members => lookup name members
  | _ => none

/-- The text of a string. -/
def asString? : Json → Option String
  | .string s => some s
  | _ => none

/-- The truth value. -/
def asBool? : Json → Option Bool
  | .bool b => some b
  | _ => none

/-- The items of an array. -/
def asArray? : Json → Option (List Json)
  | .array items => some items
  | _ => none

/-- The members of an object. -/
def asObject? : Json → Option (List (String × Json))
  | .object members => some members
  | _ => none

/-- Whether a value is `null`. -/
def isNull : Json → Bool
  | .null => true
  | _ => false

mutual
/-- No object within the value has two members of one name. -/
def Distinct : Json → Prop
  | .array items => DistinctItems items
  | .object members => (members.map Prod.fst).Nodup ∧ DistinctMembers members
  | _ => True
/-- No object within the values has two members of one name. -/
def DistinctItems : List Json → Prop
  | [] => True
  | item :: rest => item.Distinct ∧ DistinctItems rest
/-- No object within the values of the members has two members of one name. -/
def DistinctMembers : List (String × Json) → Prop
  | [] => True
  | (_, value) :: rest => value.Distinct ∧ DistinctMembers rest
end

theorem lookup_insert {α : Type} (name key : String) (value : α) (members : List (String × α)) :
    lookup key (insert name value members) =
      if name = key then some value else lookup key members := by
  fun_induction insert name value members with
  | case1 => simp [lookup]
  | case2 v rest => by_cases h : name = key <;> simp [lookup, h]
  | case3 k v rest h ih =>
    by_cases hk : k = key
    · subst hk; simp [lookup, Ne.symm h]
    · simp [lookup, hk, ih]

/-- Inserting a member adds its name at the end unless it is there already. -/
theorem map_fst_insert {α : Type} (name : String) (value : α) (members : List (String × α)) :
    (insert name value members).map Prod.fst =
      if name ∈ members.map Prod.fst then members.map Prod.fst
      else members.map Prod.fst ++ [name] := by
  fun_induction insert name value members with
  | case1 => simp
  | case2 v rest => simp
  | case3 k v rest h ih =>
    by_cases hm : name ∈ rest.map Prod.fst <;> simp_all [Ne.symm h]

end Json

end TypedClient
