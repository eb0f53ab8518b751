import TypedClient.Proofs.Api.View
import TypedClient.Proofs.Json.MergePatch
import TypedClient.Api.Override

/-!
# What nodes are made of

A node is made of what is seen of a schema (`Node.ofJson_seen`). A patch makes of two values
of which the same is seen two values of which the same is seen (`View.seen_merge`), whatever
there is besides in the values or in the patch. So the node of a schema with a patch is made
of what is seen of the schema.
-/

namespace TypedClient.Api

open TypedClient.Json (asObject? change erase lookup merge)

namespace View

/-! ### Seeing twice -/

/-- All is seen of what is looked at as a whole. -/
@[simp] theorem seen_whole (value : Json) : whole.seen value = value := by
  induction value using Json.induction_members with
  | leaf value h =>
    cases value with
    | object members => simp [asObject?] at h
    | _ => rfl
  | object members ih =>
    have hmembers : members.map (fun m => (m.1, whole.seen m.2)) = members.map id :=
      List.map_congr_left fun m hm => by rw [ih m hm, id_eq]
    rw [seen_object, entries_eq_map fun _ => rfl, hmembers, List.map_id]

/-- What is seen is all seen when it is looked at again. -/
theorem seen_seen (view : View) (value : Json) : view.seen (view.seen value) = view.seen value := by
  induction value using Json.induction_members generalizing view with
  | leaf value h =>
    cases value with
    | object members => simp [asObject?] at h
    | array items => cases view <;> rfl
    | _ => rfl
  | object members ih =>
    rw [seen_object, seen_object]
    congr 1
    induction members with
    | nil => rfl
    | cons m rest ihrest =>
      obtain ⟨name, value⟩ := m
      have hrest := ihrest fun m hm => ih m (List.mem_cons_of_mem _ hm)
      cases hm : view.member name with
      | none => rw [entries_cons_of_none hm, hrest]
      | some inner =>
        rw [entries_cons_of_some hm, entries_cons_of_some hm, hrest, ih _ List.mem_cons_self]

/-! ### Merging -/

theorem asObject?_seen (view : View) (value : Json) :
    asObject? (view.seen value) = (asObject? value).map (view.entries seen) := by
  cases value with
  | object members => rw [seen_object]; rfl
  | _ => rfl

/-- A change makes the same of members of which the same is seen, if it does so with the value of each
member of the patch. -/
theorem entries_change {view : View} {f : Option Json → Json → Json}
    {patch : List (String × Json)}
    (h : ∀ m ∈ patch, ∀ {inner old old'}, view.member m.1 = some inner →
      old.map inner.seen = old'.map inner.seen → inner.seen (f old m.2) = inner.seen (f old' m.2))
    {members members' : List (String × Json)}
    (hs : view.entries seen members = view.entries seen members') :
    view.entries seen (change f members patch) = view.entries seen (change f members' patch) := by
  induction patch generalizing members members' with
  | nil => exact hs
  | cons m rest ih =>
    obtain ⟨name, value⟩ := m
    rw [change, change]
    refine ih (fun m hm => h m (List.mem_cons_of_mem _ hm)) ?_
    split
    · rw [entries_erase, entries_erase, hs]
    · cases hm : view.member name with
      | none => rw [entries_insert_of_none hm, entries_insert_of_none hm, hs]
      | some inner =>
        have hold : (lookup name members).map inner.seen = (lookup name members').map inner.seen := by
          rw [← lookup_entries hm, ← lookup_entries hm, hs]
        rw [entries_insert_of_some hm, entries_insert_of_some hm, hs,
          h (name, value) List.mem_cons_self hm hold]

/-- A patch makes of values of which the same is seen values of which the same is seen. -/
theorem seen_merge {view : View} {value value' : Json} (h : view.seen value = view.seen value')
    (patch : Json) : view.seen (merge value patch) = view.seen (merge value' patch) := by
  induction patch using Json.induction_members generalizing view value value' with
  | leaf patch hp =>
    rw [Json.merge_of_asObject?_eq_none hp, Json.merge_of_asObject?_eq_none hp]
  | object patch ih =>
    have hobject := congrArg asObject? h
    rw [asObject?_seen, asObject?_seen] at hobject
    cases hv : asObject? value with
    | none =>
      rw [hv, Option.map_none, eq_comm, Option.map_eq_none_iff] at hobject
      rw [Json.merge_eq_patch hv, Json.merge_eq_patch hobject]
    | some members =>
      rw [hv, Option.map_some, eq_comm, Option.map_eq_some_iff] at hobject
      obtain ⟨members', hv', hs⟩ := hobject
      obtain rfl := Json.asObject?_eq_some_iff.mp hv
      obtain rfl := Json.asObject?_eq_some_iff.mp hv'
      rw [Json.merge_object, Json.merge_object, seen_object, seen_object]
      refine congrArg Json.object (entries_change ?_ hs.symm)
      intro m hm inner old old' hinner hold
      have hmissing : ∀ o : Option Json,
          inner.seen (o.getD .null) = (o.map inner.seen).getD .null := by
        intro o
        cases o <;> rfl
      refine ih m hm ?_
      rw [hmissing, hmissing, hold]

end View

end TypedClient.Api

namespace TypedClient.Schema

open TypedClient.Api (Resolver View)
open TypedClient.Json (lookup)

namespace Node

theorem itemsOf_eq (members : List (String × Json)) :
    itemsOf members = (lookup "items" members).map ofJson := by
  induction members with
  | nil => rfl
  | cons m rest ih =>
    obtain ⟨name, value⟩ := m
    rw [itemsOf, lookup, ih]
    split <;> rfl

theorem propertiesOf_eq (members : List (String × Json)) :
    propertiesOf members = (lookup "properties" members).bind membersOf := by
  induction members with
  | nil => rfl
  | cons m rest ih =>
    obtain ⟨name, value⟩ := m
    rw [propertiesOf, lookup, ih]
    split <;> rfl

theorem nodesOf_eq (members : List (String × Json)) :
    nodesOf members = members.map fun m => (m.1, ofJson m.2) := by
  induction members with
  | nil => rfl
  | cons m rest ih => rw [nodesOf, ih, List.map_cons]

section Members

variable (members : List (String × Json))

/-- What is looked at as a whole in a schema is found among what is seen. -/
theorem lookup_seen {name : String} (h : View.schema.member name = some .whole) :
    lookup name (View.schema.entries View.seen members) = lookup name members := by
  rw [View.lookup_entries h, funext View.seen_whole, Option.map_id']

theorem infoOf_seen : infoOf (View.schema.entries View.seen members) = infoOf members := by
  rw [infoOf, infoOf, lookup_seen members rfl, lookup_seen members rfl]

theorem typeNameOf_seen :
    typeNameOf (View.schema.entries View.seen members) = typeNameOf members := by
  rw [typeNameOf, typeNameOf, lookup_seen members rfl]

end Members

/-- A node is made of what is seen of a schema, and the nodes of properties of what is seen of them. -/
theorem ofJson_seen_and (value : Json) :
    ofJson (View.schema.seen value) = ofJson value ∧
      membersOf (View.properties.seen value) = membersOf value := by
  induction value using Json.induction_members with
  | leaf value h =>
    cases value with
    | object members => simp [Json.asObject?] at h
    | _ => exact ⟨rfl, rfl⟩
  | object members ih =>
    have hitems : itemsOf (View.schema.entries View.seen members) = itemsOf members := by
      rw [itemsOf_eq, itemsOf_eq, View.lookup_entries rfl, Option.map_map]
      exact Option.map_congr fun value hv => (ih _ (Json.mem_of_lookup hv)).1
    have hproperties :
        propertiesOf (View.schema.entries View.seen members) = propertiesOf members := by
      rw [propertiesOf_eq, propertiesOf_eq, View.lookup_entries rfl, Option.bind_map]
      exact Option.bind_congr fun value hv => (ih _ (Json.mem_of_lookup hv)).2
    have hnodes : nodesOf (View.properties.entries View.seen members) = nodesOf members := by
      rw [View.entries_eq_map fun _ => rfl, nodesOf_eq, nodesOf_eq, List.map_map]
      exact List.map_congr_left fun m hm => Prod.ext rfl (ih m hm).1
    constructor
    · rw [View.seen_object, ofJson, ofJson, infoOf_seen, typeNameOf_seen, hitems, hproperties,
        lookup_seen members rfl, lookup_seen members rfl]
    · rw [View.seen_object, membersOf, membersOf, hnodes]

/-- A node is made of what is seen of a schema. -/
theorem ofJson_seen (value : Json) : ofJson (View.schema.seen value) = ofJson value :=
  (ofJson_seen_and value).1

theorem ofJson_congr {value value' : Json} (h : View.schema.seen value = View.schema.seen value') :
    ofJson value = ofJson value' := by
  rw [← ofJson_seen value, h, ofJson_seen]

/-- With any patch or none, the node of a schema is made of what is seen of the schema. -/
theorem ofJson_patched {schema schema' : Json}
    (h : View.schema.seen schema = View.schema.seen schema') (patch : Option Json) :
    ofJson (Resolver.patched schema patch) = ofJson (Resolver.patched schema' patch) := by
  cases patch with
  | none => exact ofJson_congr h
  | some patch => exact ofJson_congr (View.seen_merge h patch)

end Node

end TypedClient.Schema
