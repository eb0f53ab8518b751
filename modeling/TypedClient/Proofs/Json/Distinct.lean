import TypedClient.Proofs.Json.MergePatch

/-!
# Members of different names

Neither taking members away nor putting them in makes two members of one name, so a
patch whose members have different names keeps those of what it is merged into
different.
-/

namespace TypedClient.Json

section Names

variable {α : Type} {members : List (String × α)}

theorem nodup_keys_erase (h : (members.map Prod.fst).Nodup) (name : String) :
    ((erase name members).map Prod.fst).Nodup :=
  (List.filter_sublist.map Prod.fst).nodup h

theorem nodup_keys_insert (h : (members.map Prod.fst).Nodup) (name : String) (value : α) :
    ((insert name value members).map Prod.fst).Nodup := by
  rw [map_fst_insert]
  split
  · exact h
  · next hn => exact List.nodup_append.mpr ⟨h, List.nodup_singleton name, fun a ha b hb => by
      rintro rfl
      exact hn (List.mem_singleton.mp hb ▸ ha)⟩

theorem mem_of_mem_insert {name : String} {value : α} {m : String × α}
    (h : m ∈ insert name value members) : m ∈ members ∨ m = (name, value) := by
  fun_induction insert name value members with
  | case1 => exact Or.inr (List.mem_singleton.mp h)
  | case2 v rest =>
    rcases List.mem_cons.mp h with h | h
    · exact Or.inr h
    · exact Or.inl (List.mem_cons_of_mem _ h)
  | case3 k v rest hk ih =>
    rcases List.mem_cons.mp h with rfl | h
    · exact Or.inl List.mem_cons_self
    · exact (ih h).imp_left (List.mem_cons_of_mem _)

/-- Whether members have different names, and values with a property. -/
def IsMapOf (holds : α → Prop) (members : List (String × α)) : Prop :=
  (members.map Prod.fst).Nodup ∧ ∀ m ∈ members, holds m.2

theorem isMapOf_nil (holds : α → Prop) : IsMapOf holds [] :=
  ⟨List.nodup_nil, List.forall_mem_nil _⟩

variable {holds : α → Prop} (h : IsMapOf holds members)
include h

theorem IsMapOf.erase (name : String) : IsMapOf holds (erase name members) :=
  ⟨nodup_keys_erase h.1 name, fun m hm => h.2 m (List.mem_of_mem_filter hm)⟩

theorem IsMapOf.insert (name : String) {value : α} (hv : holds value) :
    IsMapOf holds (insert name value members) := by
  refine ⟨nodup_keys_insert h.1 name value, fun m hm => ?_⟩
  rcases mem_of_mem_insert hm with hm | rfl
  · exact h.2 m hm
  · exact hv

end Names

variable {members : List (String × Json)}

theorem Distinct.erase (h : (object members).Distinct) (name : String) :
    (object (erase name members)).Distinct :=
  distinct_object_iff.mpr (IsMapOf.erase (distinct_object_iff.mp h) name)

theorem Distinct.insert (h : (object members).Distinct) (name : String) {value : Json}
    (hv : value.Distinct) : (object (insert name value members)).Distinct :=
  distinct_object_iff.mpr (IsMapOf.insert (distinct_object_iff.mp h) name hv)

/-- A member that is found is a value of its own. -/
theorem Distinct.lookup (h : (object members).Distinct) {name : String} {value : Json}
    (hl : lookup name members = some value) : value.Distinct :=
  (distinct_object_iff.mp h).2 _ (mem_of_lookup hl)

/-- Changes keep the names of members different if they do so within every value. -/
theorem Distinct.change {f : Option Json → Json → Json} (h : (object members).Distinct)
    {patch : List (String × Json)}
    (hf : ∀ m ∈ patch, ∀ old : Option Json, (∀ value ∈ old, value.Distinct) →
      (f old m.2).Distinct) : (object (change f members patch)).Distinct := by
  induction patch generalizing members with
  | nil => exact h
  | cons m rest ih =>
    obtain ⟨name, value⟩ := m
    have hfirst := hf (name, value) List.mem_cons_self (Json.lookup name members)
      fun old hl => h.lookup hl
    rw [Json.change]
    refine ih ?_ fun m hm => hf m (List.mem_cons_of_mem _ hm)
    split
    · exact h.erase name
    · exact h.insert name hfirst

/-- A patch merged into a value keeps the names of members different. -/
theorem Distinct.merge {base patch : Json} (hb : base.Distinct) (hp : patch.Distinct) :
    (base.merge patch).Distinct := by
  induction patch using induction_members generalizing base with
  | leaf patch hleaf => rwa [merge_of_asObject?_eq_none hleaf]
  | object patch ih =>
    cases ho : base.asObject? with
    | none => rwa [merge_eq_patch ho]
    | some members =>
      obtain rfl := asObject?_eq_some_iff.mp ho
      rw [merge_object]
      refine hb.change fun m hm old hold => ih m hm ?_ ((distinct_object_iff.mp hp).2 m hm)
      cases old with
      | none => trivial
      | some value => exact hold value rfl

end TypedClient.Json
