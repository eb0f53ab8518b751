import TypedClient.Proofs.Json.Members

/-!
# Merge patches

By the rules of merge patches a member that is null in a patch is taken away, at any
depth, and a patch for a value that is no object changes an object without members.
`merge` does not look for null in what it adds. It gives what the rules give exactly
when every object of the patch with a member that is null meets an object of the
value; only then does merging the patch again change nothing.
-/

namespace TypedClient.Json

/-! ### The rules -/

mutual
/-- What a patch makes of a value by the rules of merge patches. -/
def mergePatch (base : Json) : Json → Json
  | .object patch => .object (mergePatchMembers (base.asObject?.getD []) patch)
  | patch => patch
/-- What the members of a patch make of members, one after another: null takes a member away, and
any other patch is a patch for the member, which is no object if there is none. -/
def mergePatchMembers (members : List (String × Json)) :
    List (String × Json) → List (String × Json)
  | [] => members
  | (name, value) :: rest =>
    mergePatchMembers (if value.isNull then erase name members
      else insert name (mergePatch ((lookup name members).getD .null) value) members) rest
end

theorem mergePatchMembers_eq_change (members patch : List (String × Json)) :
    mergePatchMembers members patch =
      change (fun old value => mergePatch (old.getD .null) value) members patch := by
  induction patch generalizing members with
  | nil => rw [mergePatchMembers, change]
  | cons m rest ih => rw [mergePatchMembers, ih, change]

theorem asObject?_eq_some_iff {value : Json} {members : List (String × Json)} :
    value.asObject? = some members ↔ value = .object members := by
  cases value <;> simp [asObject?]

/-- A patch that is no object is what it makes of any value. -/
theorem mergePatch_of_asObject?_eq_none {patch : Json} (h : patch.asObject? = none) (base : Json) :
    mergePatch base patch = patch := by
  cases patch with
  | object members => simp [asObject?] at h
  | _ => rfl

theorem merge_of_asObject?_eq_none {patch : Json} (h : patch.asObject? = none) (base : Json) :
    merge base patch = patch := by
  cases patch with
  | object members => simp [asObject?] at h
  | _ => rfl

theorem merge_null (base : Json) : merge base .null = .null :=
  merge_of_asObject?_eq_none rfl base

/-- What is merged into a value that is no object replaces it. -/
theorem merge_eq_patch {base : Json} (h : base.asObject? = none) (patch : Json) :
    merge base patch = patch := by
  cases patch with
  | object members =>
    cases base with
    | object => simp [asObject?] at h
    | _ => rfl
  | _ => rfl

theorem mergeMembers_eq_change (members patch : List (String × Json)) :
    mergeMembers members patch =
      change (fun old value => merge (old.getD .null) value) members patch := by
  induction patch generalizing members with
  | nil => rw [mergeMembers, change]
  | cons m rest ih =>
    obtain ⟨name, value⟩ := m
    rw [mergeMembers, ih, change]
    cases hl : lookup name members with
    | none => rw [insert_eq_append hl, Option.getD_none, merge_eq_patch rfl]
    | some old => rw [Option.getD_some]

theorem merge_object (members patch : List (String × Json)) :
    merge (.object members) (.object patch) =
      .object (change (fun old value => merge (old.getD .null) value) members patch) := by
  rw [merge, mergeMembers_eq_change]

theorem mergePatch_object (base : Json) (patch : List (String × Json)) :
    mergePatch base (.object patch) =
      .object (change (fun old value => mergePatch (old.getD .null) value)
        (base.asObject?.getD []) patch) := by
  rw [mergePatch, mergePatchMembers_eq_change]

/-! ### Places of null in a patch -/

/-- The value at the end of a path of names. -/
def at? : List String → Json → Option Json
  | [], value => some value
  | name :: path, value => (value.get? name).bind (at? path)

/-- Whether every member that is null in a patch belongs to an object that meets an object of the
value. -/
def NullsMeetObjects (base patch : Json) : Prop :=
  ∀ path name, at? (path ++ [name]) patch = some .null →
    ∃ members, at? path base = some (.object members)

/-- Whether a value has no member where the patch has one that is null. -/
def LacksNulls (patch value : Json) : Prop :=
  ∀ path name, at? (path ++ [name]) patch = some .null → at? (path ++ [name]) value = none

theorem at?_object (name : String) (path : List String) (members : List (String × Json)) :
    at? (name :: path) (.object members) = (lookup name members).bind (at? path) := rfl

theorem at?_cons_of_asObject?_eq_none {value : Json} (h : value.asObject? = none) (name : String)
    (path : List String) : at? (name :: path) value = none := by
  cases value with
  | object members => simp [asObject?] at h
  | _ => rfl

theorem at?_concat_of_asObject?_eq_none {value : Json} (h : value.asObject? = none)
    (path : List String) (name : String) : at? (path ++ [name]) value = none := by
  cases path <;> exact at?_cons_of_asObject?_eq_none h _ _

theorem not_object_of_at? {value : Json} (h : value.asObject? = none) {path : List String}
    {members : List (String × Json)} : at? path value ≠ some (.object members) := by
  intro he
  cases path with
  | nil =>
    obtain rfl := Option.some.inj he
    simp [asObject?] at h
  | cons name path =>
    rw [at?_cons_of_asObject?_eq_none h] at he
    simp at he

/-- The members that are null in a patch, each with the path to its object, are members of the
patch itself and of the patches for its members. -/
theorem forall_null_iff {patch : List (String × Json)} (hn : (patch.map Prod.fst).Nodup)
    {holds : List String → String → Prop} :
    (∀ path name, at? (path ++ [name]) (.object patch) = some .null → holds path name) ↔
      ∀ m ∈ patch, (m.2.isNull = true → holds [] m.1) ∧
        ∀ path name, at? (path ++ [name]) m.2 = some .null → holds (m.1 :: path) name := by
  constructor
  · intro h m hm
    refine ⟨fun hnull => h [] m.1 ?_, fun path name he => h (m.1 :: path) name ?_⟩
    · rw [List.nil_append, at?_object, lookup_of_mem hn hm, Option.bind_some, at?,
        isNull_iff.mp hnull]
    · rw [List.cons_append, at?_object, lookup_of_mem hn hm, Option.bind_some, he]
  · intro h path name he
    cases path with
    | nil =>
      rw [List.nil_append, at?_object, Option.bind_eq_some_iff] at he
      obtain ⟨value, hl, he⟩ := he
      obtain rfl := Option.some.inj he
      exact (h _ (mem_of_lookup hl)).1 rfl
    | cons first path =>
      rw [List.cons_append, at?_object, Option.bind_eq_some_iff] at he
      obtain ⟨value, hl, he⟩ := he
      exact (h _ (mem_of_lookup hl)).2 path name he

/-- A patch that is no object has no member that is null. -/
theorem nullsMeetObjects_of_asObject?_eq_none {patch : Json} (h : patch.asObject? = none)
    (base : Json) : NullsMeetObjects base patch := by
  intro path name he
  rw [at?_concat_of_asObject?_eq_none h] at he
  simp at he

theorem lacksNulls_of_asObject?_eq_none {patch : Json} (h : patch.asObject? = none)
    (value : Json) : LacksNulls patch value := by
  intro path name he
  rw [at?_concat_of_asObject?_eq_none h] at he
  simp at he

section Places

variable {members patch : List (String × Json)} (hn : (patch.map Prod.fst).Nodup)
include hn

/-- The nulls of a patch for an object meet objects exactly when those of the patch for each member
do. -/
theorem nullsMeetObjects_object_iff :
    NullsMeetObjects (.object members) (.object patch) ↔
      ∀ m ∈ patch, NullsMeetObjects ((lookup m.1 members).getD .null) m.2 := by
  rw [NullsMeetObjects, forall_null_iff hn]
  refine forall₂_congr fun m hm => ?_
  have hat (path : List String) (inner : List (String × Json)) :
      at? (m.1 :: path) (.object members) = some (.object inner) ↔
        at? path ((lookup m.1 members).getD .null) = some (.object inner) := by
    rw [at?_object]
    cases lookup m.1 members with
    | none => exact iff_of_false (by simp) (not_object_of_at? rfl)
    | some old => rfl
  simp only [hat]
  exact and_iff_right fun _ => ⟨members, rfl⟩

/-- No null of a patch meets an object in a value that is none. -/
theorem nullsMeetObjects_iff_of_asObject?_eq_none {base : Json} (h : base.asObject? = none) :
    NullsMeetObjects base (.object patch) ↔
      ∀ m ∈ patch, m.2.isNull = false ∧ NullsMeetObjects .null m.2 := by
  rw [NullsMeetObjects, forall_null_iff hn]
  refine forall₂_congr fun m hm => ?_
  have hnone : Json.null.asObject? = none := rfl
  simp [NullsMeetObjects, not_object_of_at? h, not_object_of_at? hnone]

theorem lacksNulls_change_iff {f : Option Json → Json → Json} :
    LacksNulls (.object patch) (.object (change f members patch)) ↔
      ∀ m ∈ patch, m.2.isNull = false → LacksNulls m.2 (f (lookup m.1 members) m.2) := by
  rw [LacksNulls, forall_null_iff hn]
  refine forall₂_congr fun m hm => ?_
  simp only [List.nil_append, List.cons_append, at?_object, lookup_change_of_mem hn hm]
  cases hnull : m.2.isNull
  · simp [LacksNulls]
  · simp

theorem lacksNulls_self_iff :
    LacksNulls (.object patch) (.object patch) ↔
      ∀ m ∈ patch, m.2.isNull = false ∧ LacksNulls m.2 m.2 := by
  rw [LacksNulls, forall_null_iff hn]
  refine forall₂_congr fun m hm => ?_
  simp only [List.nil_append, List.cons_append, at?_object, lookup_of_mem hn hm]
  simp [LacksNulls, at?]

end Places

/-! ### Patches that are merged by the rules -/

variable {patch : Json}

/-- By the rules every null of a patch takes its member away. -/
theorem lacksNulls_mergePatch (h : patch.Distinct) (base : Json) :
    LacksNulls patch (mergePatch base patch) := by
  induction patch using induction_members generalizing base with
  | leaf patch hp => exact lacksNulls_of_asObject?_eq_none hp _
  | object patch ih =>
    obtain ⟨hn, hd⟩ := distinct_object_iff.mp h
    rw [mergePatch_object, lacksNulls_change_iff hn]
    exact fun m hm _ => ih m hm (hd m hm) _

/-- Where every null meets an object a patch is merged by the rules. -/
theorem merge_eq_mergePatch (h : patch.Distinct) {base : Json}
    (hb : NullsMeetObjects base patch) : merge base patch = mergePatch base patch := by
  induction patch using induction_members generalizing base with
  | leaf patch hp => rw [merge_of_asObject?_eq_none hp, mergePatch_of_asObject?_eq_none hp]
  | object patch ih =>
    obtain ⟨hn, hd⟩ := distinct_object_iff.mp h
    rw [mergePatch_object]
    cases ho : base.asObject? with
    | some members =>
      obtain rfl := asObject?_eq_some_iff.mp ho
      rw [nullsMeetObjects_object_iff hn] at hb
      rw [merge_object, Option.getD_some]
      exact congrArg object (change_congr hn fun m hm _ => ih m hm (hd m hm) (hb m hm))
    | none =>
      rw [nullsMeetObjects_iff_of_asObject?_eq_none hn ho] at hb
      have hrules : ∀ m ∈ patch, m.2.isNull = false ∧
          mergePatch ((none : Option Json).getD .null) m.2 = m.2 := by
        intro m hm
        refine ⟨(hb m hm).1, ?_⟩
        rw [Option.getD_none, ← ih m hm (hd m hm) (hb m hm).2, merge_eq_patch rfl]
      rw [merge_eq_patch ho, Option.getD_none, change_eq_append (by simpa using hn) hrules,
        List.nil_append]

/-- A patch takes the members of its nulls away only if each of them meets an object. -/
theorem nullsMeetObjects_of_lacksNulls (h : patch.Distinct) {base : Json}
    (hb : LacksNulls patch (merge base patch)) : NullsMeetObjects base patch := by
  induction patch using induction_members generalizing base with
  | leaf patch hp => exact nullsMeetObjects_of_asObject?_eq_none hp _
  | object patch ih =>
    obtain ⟨hn, hd⟩ := distinct_object_iff.mp h
    cases ho : base.asObject? with
    | some members =>
      obtain rfl := asObject?_eq_some_iff.mp ho
      rw [merge_object, lacksNulls_change_iff hn] at hb
      rw [nullsMeetObjects_object_iff hn]
      intro m hm
      cases hnull : m.2.isNull with
      | true =>
        rw [isNull_iff.mp hnull]
        exact nullsMeetObjects_of_asObject?_eq_none rfl _
      | false => exact ih m hm (hd m hm) (hb m hm hnull)
    | none =>
      rw [merge_eq_patch ho, lacksNulls_self_iff hn] at hb
      rw [nullsMeetObjects_iff_of_asObject?_eq_none hn ho]
      intro m hm
      refine ⟨(hb m hm).1, ih m hm (hd m hm) ?_⟩
      rw [merge_eq_patch rfl]
      exact (hb m hm).2

/-- A patch that is merged again changes nothing exactly when every null of it meets an object. -/
theorem merge_merge_eq_merge_iff (h : patch.Distinct) (base : Json) :
    merge (merge base patch) patch = merge base patch ↔ NullsMeetObjects base patch := by
  induction patch using induction_members generalizing base with
  | leaf patch hp =>
    rw [merge_of_asObject?_eq_none hp, merge_of_asObject?_eq_none hp]
    exact iff_of_true rfl (nullsMeetObjects_of_asObject?_eq_none hp _)
  | object patch ih =>
    obtain ⟨hn, hd⟩ := distinct_object_iff.mp h
    cases ho : base.asObject? with
    | some members =>
      obtain rfl := asObject?_eq_some_iff.mp ho
      rw [merge_object, merge_object, object.injEq, change_eq_self_iff hn,
        nullsMeetObjects_object_iff hn]
      refine forall₂_congr fun m hm => ?_
      rw [lookup_change_of_mem hn hm, ← ih m hm (hd m hm)]
      cases hnull : m.2.isNull with
      | true => simp [isNull_iff.mp hnull, merge_null]
      | false => simp [eq_comm]
    | none =>
      rw [merge_eq_patch ho, merge_object, object.injEq, change_eq_self_iff hn,
        nullsMeetObjects_iff_of_asObject?_eq_none hn ho]
      have hnone : Json.null.asObject? = none := rfl
      refine forall₂_congr fun m hm => ?_
      rw [lookup_of_mem hn hm, ← ih m hm (hd m hm), merge_eq_patch hnone]
      cases hnull : m.2.isNull with
      | true => simp
      | false => simp [eq_comm]

/-- A patch whose members have different names is merged by the rules of merge patches exactly when
every member that is null in it belongs to an object that meets one of the value; and exactly then
merging it again changes nothing, and no member that is null in it is left. -/
theorem merge_tfae (h : patch.Distinct) (base : Json) :
    List.TFAE [
      merge base patch = mergePatch base patch,
      LacksNulls patch (merge base patch),
      NullsMeetObjects base patch,
      merge (merge base patch) patch = merge base patch] := by
  tfae_have 1 → 2 := fun he => he ▸ lacksNulls_mergePatch h base
  tfae_have 2 → 3 := nullsMeetObjects_of_lacksNulls h
  tfae_have 3 → 1 := merge_eq_mergePatch h
  tfae_have 4 ↔ 3 := merge_merge_eq_merge_iff h base
  tfae_finish

/-- A patch that takes a member away from an inner object, and adds one with an object. -/
def innerPatch : Json :=
  .object [("a", .object [("b", .null), ("c", .bool true)]), ("d", .object [("e", .string "f")])]

/-- Merged into a value that has the inner object it follows the rules. -/
theorem innerPatch_merge_tfae :
    innerPatch.Distinct ∧
      merge (.object [("a", .object [("b", .string "x")])]) innerPatch =
        .object [("a", .object [("c", .bool true)]), ("d", .object [("e", .string "f")])] ∧
      merge (merge (.object [("a", .object [("b", .string "x")])]) innerPatch) innerPatch =
        merge (.object [("a", .object [("b", .string "x")])]) innerPatch := by
  have hd : innerPatch.Distinct := by simp [innerPatch, Distinct, DistinctMembers]
  have htfae := merge_tfae hd (.object [("a", .object [("b", .string "x")])])
  refine ⟨hd, rfl, (htfae.out 0 3).mp rfl⟩

/-- Merged into a value that lacks it the null is left, until the patch is merged again. -/
theorem innerPatch_leaves_null :
    merge (.object []) innerPatch ≠ mergePatch (.object []) innerPatch ∧
      merge (merge (.object []) innerPatch) innerPatch ≠ merge (.object []) innerPatch := by
  have hnull : at? ["a", "b"] (merge (.object []) innerPatch) = some .null := rfl
  refine ⟨fun h => ?_, fun h => ?_⟩
  · have hnone : at? ["a", "b"] (mergePatch (.object []) innerPatch) = none := rfl
    rw [← h, hnull] at hnone
    exact absurd hnone (Option.some_ne_none _)
  · have hnone : at? ["a", "b"] (merge (merge (.object []) innerPatch) innerPatch) = none := rfl
    rw [h, hnull] at hnone
    exact absurd hnone (Option.some_ne_none _)

end TypedClient.Json
