import TypedClient.Proofs.Json.Distinct
import TypedClient.Schema.Typing

/-!
# Properties of nodes

The properties of a node are the members of the member `properties` of its schema, in
their order, so they have different names if the members of the schema do. Each has a
field by itself.
-/

namespace TypedClient.Schema

theorem Node.map_fst_nodesOf (members : List (String × Json)) :
    (nodesOf members).map Prod.fst = members.map Prod.fst := by
  induction members with
  | nil => rfl
  | cons m rest ih => rw [nodesOf, List.map_cons, List.map_cons, ih]

theorem Node.exists_of_propertiesOf {members : List (String × Json)}
    {properties : List (String × Node)} (h : propertiesOf members = some properties) :
    ∃ inner, ("properties", Json.object inner) ∈ members ∧ properties = nodesOf inner := by
  induction members with
  | nil => simp [propertiesOf] at h
  | cons m rest ih =>
    obtain ⟨name, value⟩ := m
    rw [propertiesOf] at h
    split at h
    · next hname =>
      cases value with
      | object inner =>
        rw [membersOf] at h
        exact ⟨inner, hname ▸ List.mem_cons_self, (Option.some.inj h).symm⟩
      | _ => simp [membersOf] at h
    · obtain ⟨inner, hm, hp⟩ := ih h
      exact ⟨inner, List.mem_cons_of_mem _ hm, hp⟩

/-- The properties that a node has of a schema have different names. -/
theorem Node.nodup_keys_of_ofJson {schema : Json} (h : schema.Distinct) {info : Info}
    {properties : List (String × Node)} {required : Required}
    (hn : Node.ofJson schema = .object info properties required) :
    (properties.map Prod.fst).Nodup := by
  have hproperties : ∃ members, schema = .object members ∧
      propertiesOf members = some properties := by
    cases schema with
    | object members =>
      refine ⟨members, rfl, ?_⟩
      unfold Node.ofJson at hn
      dsimp only at hn
      split at hn
      · split at hn <;> cases hn
      · split at hn
        · next hsome =>
          cases hn
          exact hsome
        · cases hn
      · cases hn
    | _ => cases hn
  obtain ⟨members, rfl, hp⟩ := hproperties
  obtain ⟨inner, hm, rfl⟩ := exists_of_propertiesOf hp
  rw [map_fst_nodesOf]
  exact (Json.distinct_object_iff.mp ((Json.distinct_object_iff.mp h).2 _ hm)).1

/-- The fields of properties, each by itself. -/
theorem fields_eq_map (required : Required) (properties : List (String × Node)) :
    (fields required properties).value =
      properties.map fun p => (p.2.field p.1 (required.contains p.1)).value := by
  have hfields : (fields required properties).value =
      (fieldTypes [] required properties).value.map fun f => ⟨f.1, f.2⟩ := rfl
  rw [hfields]
  induction properties with
  | nil => rfl
  | cons p rest ih =>
    rw [fieldTypes, List.map_cons, ih rfl, List.map_cons]
    rfl

end TypedClient.Schema
