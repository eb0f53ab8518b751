import TypedClient.Api.Document
import TypedClient.Proofs.Json.Members
import TypedClient.Schema.Node

/-!
# What is looked at

A `View` says which members of a value are looked at, and how, at every depth. `View.seen` is
what it leaves of a value. `documentView` is the view of a document that a client is made
of: the members that its shape names, the response that means success, and of schemas the
members that nodes are made of.
-/

namespace TypedClient.Api

open TypedClient.Json (erase lookup)

/-- What is looked at of a JSON value. -/
inductive View where
  /-- All of it. -/
  | whole
  /-- A schema. -/
  | schema
  /-- The properties of a schema, each of them a schema. -/
  | properties
  /-- An object with given members, or an array of their values in their order. -/
  | record (members : List (String × View))
  /-- An array of values of one kind. -/
  | list (item : View)
  /-- An object with members of one kind, of which those of some names are hidden. -/
  | map (hidden : String → Bool) (entry : View)

namespace View

/-- The members of a schema that are looked at. -/
def schemaMembers : List (String × View) :=
  [("type", .whole), ("items", .schema), ("properties", .properties), ("required", .whole),
    ("enum", .whole), ("description", .whole), (Schema.Node.orFalseKey, .whole)]

/-- What is looked at of a member: nothing if its name is not among those that are. -/
def member : View → String → Option View
  | .whole, _ => some .whole
  | .schema, name => lookup name schemaMembers
  | .properties, _ => some .schema
  | .record members, name => lookup name members
  | .list _, _ => none
  | .map hidden entry, name => if hidden name then none else some entry

theorem member_map_of_hidden {hidden : String → Bool} {entry : View} {name : String}
    (h : hidden name = true) : (View.map hidden entry).member name = none := by
  rw [member, if_pos h]

theorem member_map_of_shown {hidden : String → Bool} {entry : View} {name : String}
    (h : hidden name = false) : (View.map hidden entry).member name = some entry := by
  rw [member, if_neg (by rw [h]; exact Bool.false_ne_true)]

/-! ### Members that are seen -/

section Entries

variable {α β : Type}

/-- The members that are looked at, each with what is seen of its value. -/
def entries (view : View) (seen : View → α → β) (members : List (String × α)) :
    List (String × β) :=
  members.filterMap fun m => (view.member m.1).map fun inner => (m.1, seen inner m.2)

variable {view inner : View} {seen : View → α → β} {name : String}

theorem entries_cons_of_none (h : view.member name = none) (value : α)
    (rest : List (String × α)) :
    view.entries seen ((name, value) :: rest) = view.entries seen rest := by
  rw [entries, List.filterMap_cons_none (by rw [h]; rfl), entries]

theorem entries_cons_of_some (h : view.member name = some inner) (value : α)
    (rest : List (String × α)) :
    view.entries seen ((name, value) :: rest) =
      (name, seen inner value) :: view.entries seen rest := by
  rw [entries, List.filterMap_cons_some (by rw [h]; rfl), entries]

/-- Where members of all names are looked at in one way each of them is seen. -/
theorem entries_eq_map (h : ∀ name, view.member name = some inner) (members : List (String × α)) :
    view.entries seen members = members.map fun m => (m.1, seen inner m.2) := by
  induction members with
  | nil => rfl
  | cons m rest ih =>
    obtain ⟨name, value⟩ := m
    rw [entries_cons_of_some (h name), ih, List.map_cons]

theorem entries_insert_of_none (h : view.member name = none) (value : α)
    (members : List (String × α)) :
    view.entries seen (Json.insert name value members) = view.entries seen members := by
  fun_induction Json.insert name value members with
  | case1 => rw [entries_cons_of_none h]
  | case2 old rest => rw [entries_cons_of_none h, entries_cons_of_none h]
  | case3 key old rest hk ih =>
    cases hm : view.member key with
    | none => rw [entries_cons_of_none hm, entries_cons_of_none hm, ih]
    | some other => rw [entries_cons_of_some hm, entries_cons_of_some hm, ih]

theorem entries_insert_of_some (h : view.member name = some inner) (value : α)
    (members : List (String × α)) :
    view.entries seen (Json.insert name value members) =
      Json.insert name (seen inner value) (view.entries seen members) := by
  fun_induction Json.insert name value members with
  | case1 => rw [entries_cons_of_some h]; rfl
  | case2 old rest =>
    rw [entries_cons_of_some h, entries_cons_of_some h, Json.insert, if_pos rfl]
  | case3 key old rest hk ih =>
    cases hm : view.member key with
    | none => rw [entries_cons_of_none hm, entries_cons_of_none hm, ih]
    | some other => rw [entries_cons_of_some hm, entries_cons_of_some hm, ih, Json.insert,
        if_neg hk]

theorem entries_erase (name : String) (members : List (String × α)) :
    view.entries seen (erase name members) = erase name (view.entries seen members) := by
  induction members with
  | nil => rfl
  | cons m rest ih =>
    obtain ⟨key, value⟩ := m
    rw [erase] at ih ⊢
    by_cases hk : key = name
    · subst hk
      rw [List.filter_cons_of_neg (by simp), ih]
      cases hm : view.member key with
      | none => rw [entries_cons_of_none hm]
      | some other =>
        rw [entries_cons_of_some hm, erase, erase, List.filter_cons_of_neg (by simp)]
    · rw [List.filter_cons_of_pos (by simpa using hk)]
      cases hm : view.member key with
      | none => rw [entries_cons_of_none hm, entries_cons_of_none hm, ih]
      | some other =>
        rw [entries_cons_of_some hm, entries_cons_of_some hm, ih, erase, erase,
          List.filter_cons_of_pos (by simpa using hk)]

/-- A member that is looked at is found among those that are seen. -/
theorem lookup_entries (h : view.member name = some inner) (members : List (String × α)) :
    lookup name (view.entries seen members) = (lookup name members).map (seen inner) := by
  induction members with
  | nil => rfl
  | cons m rest ih =>
    obtain ⟨key, value⟩ := m
    rw [lookup]
    by_cases hk : key = name
    · subst hk
      rw [entries_cons_of_some h, lookup, if_pos rfl, if_pos rfl]
      rfl
    · rw [if_neg hk, ← ih]
      cases hm : view.member key with
      | none => rw [entries_cons_of_none hm]
      | some other => rw [entries_cons_of_some hm, lookup, if_neg hk]

end Entries

/-! ### What is seen of a value -/

/-- The items of an array where it is looked at as a whole. Elsewhere an array is no value of the
kind that is expected, or has been read as something else. -/
def items : View → List Json → List Json
  | .whole, items => items
  | _, _ => []

mutual
/-- What is seen of a value. -/
def seen (view : View) : Json → Json
  | .object members => .object (seenMembers view members)
  | .array items => .array (view.items items)
  | value => value
/-- What is seen of the members of an object. -/
def seenMembers (view : View) : List (String × Json) → List (String × Json)
  | [] => []
  | (name, value) :: rest =>
    match view.member name with
    | none => seenMembers view rest
    | some inner => (name, inner.seen value) :: seenMembers view rest
end

theorem seenMembers_eq_entries (view : View) (members : List (String × Json)) :
    view.seenMembers members = view.entries seen members := by
  induction members with
  | nil => rfl
  | cons m rest ih =>
    obtain ⟨name, value⟩ := m
    rw [seenMembers]
    cases h : view.member name with
    | none => rw [entries_cons_of_none h, ih]
    | some inner => rw [entries_cons_of_some h, ih]

theorem seen_object (view : View) (members : List (String × Json)) :
    view.seen (.object members) = .object (view.entries seen members) := by
  rw [seen, seenMembers_eq_entries]

/-! ### The views of a document -/

end View

/-- What is looked at of the entry of a media type. -/
def mediaTypeView : View := .record [("schema", .schema)]

/-- What is looked at of a request body and of a response when the entries of some media types are
hidden. -/
def contentView (hidden : String → Bool) : View :=
  .record [("content", .map hidden mediaTypeView)]

/-- What is looked at of a parameter. -/
def parameterView : View :=
  .record [("name", .whole), ("description", .whole), ("required", .whole), ("in", .whole),
    ("type", .whole), ("enum", .whole), ("schema", .schema)]

/-- What is looked at of an operation; of the responses only the one that means success. -/
def operationView (hidden : String → Bool) : View :=
  .record [("operationId", .whole), ("summary", .whole), ("description", .whole),
    ("parameters", .list parameterView), ("requestBody", contentView hidden),
    ("responses", .map (fun status => status != successCode) (contentView hidden))]

/-- What is looked at of the operations on a path. -/
def pathItemView (hidden : String → Bool) : View :=
  .record (Verb.all.map fun verb => (verb.lower, operationView hidden))

/-- What is looked at of a document when the entries of some media types are hidden. -/
def documentView (hidden : String → Bool) : View :=
  .record [("host", .whole), ("basePath", .whole),
    ("paths", .map (fun _ => false) (pathItemView hidden))]

end TypedClient.Api
