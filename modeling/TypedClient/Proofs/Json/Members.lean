import Mathlib
import TypedClient.Json.Merge

/-!
# Members of objects

Members are found, taken away and put in by name. `change` runs through the members of a
patch and changes members one after another; as the names of a patch are distinct, what is
found by a name afterwards is what its own member of the patch has made of what was found
before.
-/

namespace TypedClient.Json

/-! ### Members -/

/-- What holds of every value that is no object, and of an object if it holds of the values of its
members, holds of every value. -/
theorem induction_members {motive : Json → Prop}
    (leaf : ∀ value, value.asObject? = none → motive value)
    (object : ∀ members, (∀ m ∈ members, motive m.2) → motive (.object members)) :
    ∀ value, motive value
  | .null => leaf _ rfl
  | .bool _ => leaf _ rfl
  | .number _ => leaf _ rfl
  | .string _ => leaf _ rfl
  | .array _ => leaf _ rfl
  | .object members => object members fun m _ => induction_members leaf object m.2
termination_by value => sizeOf value
decreasing_by
  rename_i hm
  obtain ⟨name, value⟩ := m
  have hlt := List.sizeOf_lt_of_mem hm
  simp only [Prod.mk.sizeOf_spec] at hlt
  simp only [Json.object.sizeOf_spec]
  omega

theorem isNull_iff {value : Json} : value.isNull = true ↔ value = .null := by
  cases value <;> simp [isNull]

theorem lookup_eq_none_iff {α : Type} {name : String} {members : List (String × α)} :
    lookup name members = none ↔ name ∉ members.map Prod.fst := by
  induction members with
  | nil => simp [lookup]
  | cons m rest ih =>
    obtain ⟨k, v⟩ := m
    by_cases h : k = name
    · simp [lookup, h]
    · simp [lookup, h, ih, Ne.symm h]

theorem mem_of_lookup {α : Type} {name : String} {value : α} {members : List (String × α)}
    (h : lookup name members = some value) : (name, value) ∈ members := by
  induction members with
  | nil => simp [lookup] at h
  | cons m rest ih =>
    obtain ⟨k, v⟩ := m
    rw [lookup] at h
    split at h
    · next he =>
      subst he
      obtain rfl := Option.some.inj h
      exact List.mem_cons_self
    · exact List.mem_cons_of_mem _ (ih h)

/-- Among members of different names each is found by its name. -/
theorem lookup_of_mem {α : Type} {m : String × α} {members : List (String × α)}
    (hn : (members.map Prod.fst).Nodup) (h : m ∈ members) : lookup m.1 members = some m.2 := by
  induction members with
  | nil => simp at h
  | cons first rest ih =>
    obtain ⟨k, v⟩ := first
    rw [List.map_cons, List.nodup_cons] at hn
    rcases List.mem_cons.mp h with rfl | h
    · rw [lookup, if_pos rfl]
    · have hk : k ≠ m.1 := fun he => hn.1 (List.mem_map.mpr ⟨m, h, he.symm⟩)
      rw [lookup, if_neg hk, ih hn.2 h]

theorem lookup_erase {α : Type} (name key : String) (members : List (String × α)) :
    lookup key (erase name members) = if name = key then none else lookup key members := by
  induction members with
  | nil => simp [erase, lookup]
  | cons m rest ih =>
    obtain ⟨k, v⟩ := m
    rw [erase] at ih ⊢
    by_cases hk : k = name
    · subst hk
      rw [List.filter_cons_of_neg (by simp), ih, lookup]
      split <;> rfl
    · rw [List.filter_cons_of_pos (by simpa using hk), lookup, ih, lookup]
      split
      · next he => rw [if_neg (he ▸ Ne.symm hk)]
      · rfl

theorem erase_eq_self {α : Type} {name : String} {members : List (String × α)}
    (h : lookup name members = none) : erase name members = members := by
  rw [lookup_eq_none_iff] at h
  rw [erase, List.filter_eq_self]
  intro m hm
  have hne : m.1 ≠ name := by
    rintro rfl
    exact h (List.mem_map_of_mem hm)
  simpa using hne

theorem insert_eq_self {α : Type} {name : String} {value : α} {members : List (String × α)}
    (h : lookup name members = some value) : insert name value members = members := by
  fun_induction insert name value members with
  | case1 => simp [lookup] at h
  | case2 v rest =>
    rw [lookup, if_pos rfl] at h
    rw [Option.some.inj h]
  | case3 k v rest hk ih =>
    rw [lookup, if_neg hk] at h
    rw [ih h]

theorem insert_eq_append {α : Type} {name : String} {value : α} {members : List (String × α)}
    (h : lookup name members = none) : insert name value members = members ++ [(name, value)] := by
  fun_induction insert name value members with
  | case1 => rfl
  | case2 v rest => simp [lookup] at h
  | case3 k v rest hk ih =>
    rw [lookup, if_neg hk] at h
    rw [ih h, List.cons_append]

theorem distinct_object_iff {members : List (String × Json)} :
    (Json.object members).Distinct ↔
      (members.map Prod.fst).Nodup ∧ ∀ m ∈ members, m.2.Distinct := by
  have hall : DistinctMembers members ↔ ∀ m ∈ members, m.2.Distinct := by
    induction members with
    | nil => simp [DistinctMembers]
    | cons m rest ih => simp [DistinctMembers, ih]
  rw [Distinct, hall]

/-! ### Changing members one after another -/

/-- The members changed by those of a patch, one after another: a member that is null there is
taken away, and `value` says what any other becomes, given what it was. -/
def change (value : Option Json → Json → Json) (members : List (String × Json)) :
    List (String × Json) → List (String × Json)
  | [] => members
  | (name, patch) :: rest =>
    change value (if patch.isNull then erase name members
      else insert name (value (lookup name members) patch) members) rest

section Change

variable {f g : Option Json → Json → Json} {members patch : List (String × Json)}

theorem lookup_changed (name key : String) (value : Json) :
    lookup key (if value.isNull then erase name members
        else insert name (f (lookup name members) value) members) =
      if name = key then (if value.isNull then none else some (f (lookup key members) value))
      else lookup key members := by
  by_cases hk : name = key
  · subst hk
    split <;> simp [lookup_erase, lookup_insert]
  · split <;> simp [lookup_erase, lookup_insert, hk]

/-- What is found after a change is what the patch has made of what was found before. -/
theorem lookup_change (hn : (patch.map Prod.fst).Nodup) (key : String) :
    lookup key (change f members patch) =
      match lookup key patch with
      | none => lookup key members
      | some value => if value.isNull then none else some (f (lookup key members) value) := by
  induction patch generalizing members with
  | nil => rfl
  | cons m rest ih =>
    obtain ⟨name, value⟩ := m
    rw [List.map_cons, List.nodup_cons] at hn
    rw [change, ih hn.2, lookup_changed, lookup]
    by_cases hk : name = key
    · subst hk
      rw [if_pos rfl, if_pos rfl, lookup_eq_none_iff.mpr hn.1]
    · rw [if_neg hk, if_neg hk]

theorem lookup_change_of_mem (hn : (patch.map Prod.fst).Nodup) {m : String × Json}
    (h : m ∈ patch) :
    lookup m.1 (change f members patch) =
      if m.2.isNull then none else some (f (lookup m.1 members) m.2) := by
  rw [lookup_change hn, lookup_of_mem hn h]

/-- Two changes by one patch are the same if they make the same of each member. -/
theorem change_congr (hn : (patch.map Prod.fst).Nodup)
    (h : ∀ m ∈ patch, m.2.isNull = false →
      f (lookup m.1 members) m.2 = g (lookup m.1 members) m.2) :
    change f members patch = change g members patch := by
  induction patch generalizing members with
  | nil => rfl
  | cons m rest ih =>
    obtain ⟨name, value⟩ := m
    rw [List.map_cons, List.nodup_cons] at hn
    have hfirst : (if value.isNull then erase name members
        else insert name (f (lookup name members) value) members) =
        if value.isNull then erase name members
        else insert name (g (lookup name members) value) members := by
      split
      · rfl
      · next hnull => rw [h (name, value) List.mem_cons_self (by simpa using hnull)]
    rw [change, change, hfirst]
    refine ih hn.2 fun m hm hnull => ?_
    have hne : name ≠ m.1 := fun he => hn.1 (List.mem_map.mpr ⟨m, hm, he.symm⟩)
    rw [lookup_changed, if_neg hne]
    exact h m (List.mem_cons_of_mem _ hm) hnull

/-- Members whose values a change makes of none are added as they are. -/
theorem change_eq_append (hn : ((members ++ patch).map Prod.fst).Nodup)
    (h : ∀ m ∈ patch, m.2.isNull = false ∧ f none m.2 = m.2) :
    change f members patch = members ++ patch := by
  induction patch generalizing members with
  | nil => rw [change, List.append_nil]
  | cons m rest ih =>
    obtain ⟨name, value⟩ := m
    obtain ⟨hnull, hvalue⟩ := h (name, value) List.mem_cons_self
    have hl : lookup name members = none := by
      rw [lookup_eq_none_iff]
      rw [List.map_append, List.nodup_append] at hn
      intro hm
      exact hn.2.2 name hm name List.mem_cons_self rfl
    rw [change, hnull, if_neg Bool.false_ne_true, hl, insert_eq_append hl, hvalue, ih]
    · rw [List.append_assoc, List.singleton_append]
    · rwa [List.append_assoc, List.singleton_append]
    · exact fun m hm => h m (List.mem_cons_of_mem _ hm)

/-- A change leaves members as they are exactly when it finds each as it makes it. -/
theorem change_eq_self_iff (hn : (patch.map Prod.fst).Nodup) :
    change f members patch = members ↔
      ∀ m ∈ patch, lookup m.1 members =
        if m.2.isNull then none else some (f (lookup m.1 members) m.2) := by
  constructor
  · intro h m hm
    have hl : lookup m.1 (change f members patch) = _ := lookup_change_of_mem hn hm
    rwa [h] at hl
  · intro h
    clear hn
    induction patch with
    | nil => rfl
    | cons m rest ih =>
      obtain ⟨name, value⟩ := m
      have hm := h (name, value) List.mem_cons_self
      have hfirst : (if value.isNull then erase name members
          else insert name (f (lookup name members) value) members) = members := by
        split
        · next hnull => exact erase_eq_self (by simpa [hnull] using hm)
        · next hnull => exact insert_eq_self (by simpa [hnull] using hm)
      rw [change, hfirst]
      exact ih fun m hm => h m (List.mem_cons_of_mem _ hm)

end Change

end TypedClient.Json
