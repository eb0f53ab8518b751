import TypedClient.Proofs.Json.Distinct

/-!
# The order of members

Members that are taken away leave the others in their order, and members that are added
come after all of these in the order of the patch. So the order of members after a merge
is fixed by both orders before it, whatever the loop through the patch does in between;
this holds in every object that a patch changes.
-/

namespace TypedClient.Json

/-- Whether a patch takes the member of a name away. -/
def takesAway (patch : List (String × Json)) (name : String) : Bool :=
  (lookup name patch).any isNull

/-- The names of the members that a patch leaves, in their order. -/
def namesLeft (members patch : List (String × Json)) : List String :=
  (members.map Prod.fst).filter fun name => !takesAway patch name

/-- The names of the members that a patch adds, in its order. -/
def namesAdded (members patch : List (String × Json)) : List String :=
  ((patch.filter fun m => !m.2.isNull).map Prod.fst).filter (· ∉ members.map Prod.fst)

section Names

variable {members patch rest : List (String × Json)} {name : String} {value : Json}

theorem takesAway_cons (key : String) :
    takesAway ((name, value) :: rest) key =
      if name = key then value.isNull else takesAway rest key := by
  rw [takesAway, lookup]
  split <;> rfl

theorem takesAway_of_not_mem (h : name ∉ patch.map Prod.fst) : takesAway patch name = false := by
  rw [takesAway, lookup_eq_none_iff.mpr h, Option.any_none]

theorem map_fst_erase : (erase name members).map Prod.fst =
    (members.map Prod.fst).filter (· ≠ name) := by
  rw [erase, List.filter_map]
  rfl

/-- A member that is null in a patch leaves the names without its own. -/
theorem namesLeft_erase (hnull : value.isNull = true) :
    namesLeft (erase name members) rest = namesLeft members ((name, value) :: rest) := by
  rw [namesLeft, namesLeft, map_fst_erase, List.filter_filter]
  apply List.filter_congr
  intro key _
  rw [takesAway_cons]
  by_cases hk : name = key
  · simp [hk, hnull]
  · simp [hk, Ne.symm hk]

/-- A member that is not null takes no name away. -/
theorem namesLeft_cons_of_not_null (hname : name ∉ rest.map Prod.fst)
    (hnull : value.isNull = false) :
    namesLeft members ((name, value) :: rest) = namesLeft members rest := by
  apply List.filter_congr
  intro key _
  rw [takesAway_cons]
  by_cases hk : name = key
  · subst hk
    rw [if_pos rfl, hnull, takesAway_of_not_mem hname]
  · rw [if_neg hk]

/-- What a patch adds depends on the names only that it has itself. -/
theorem namesAdded_congr {members' : List (String × Json)}
    (h : ∀ key ∈ rest.map Prod.fst, key ∈ members'.map Prod.fst ↔ key ∈ members.map Prod.fst) :
    namesAdded members' rest = namesAdded members rest := by
  apply List.filter_congr
  intro key hkey
  have hmem : key ∈ rest.map Prod.fst := (List.filter_sublist.map Prod.fst).subset hkey
  rw [decide_eq_decide, not_iff_not]
  exact h key hmem

theorem namesAdded_cons_of_null (hnull : value.isNull = true) :
    namesAdded members ((name, value) :: rest) = namesAdded members rest := by
  rw [namesAdded, List.filter_cons_of_neg (by simp [hnull])]
  rfl

theorem namesAdded_cons_of_mem (hnull : value.isNull = false)
    (h : name ∈ members.map Prod.fst) :
    namesAdded members ((name, value) :: rest) = namesAdded members rest := by
  rw [namesAdded, List.filter_cons_of_pos (by simp [hnull]), List.map_cons,
    List.filter_cons_of_neg (by simpa using h)]
  rfl

theorem namesAdded_cons_of_not_mem (hnull : value.isNull = false)
    (h : name ∉ members.map Prod.fst) :
    namesAdded members ((name, value) :: rest) = name :: namesAdded members rest := by
  rw [namesAdded, List.filter_cons_of_pos (by simp [hnull]), List.map_cons,
    List.filter_cons_of_pos (by simpa using h)]
  rfl

/-- After a change stand the names of the members that are left, and then of those that are added.
What the first member of the patch makes of the names is handed on to the rest of it. -/
theorem map_fst_change {f : Option Json → Json → Json} (hn : (patch.map Prod.fst).Nodup) :
    (change f members patch).map Prod.fst = namesLeft members patch ++ namesAdded members patch := by
  induction patch generalizing members with
  | nil =>
    have hall : namesLeft members [] = members.map Prod.fst :=
      List.filter_eq_self.mpr fun _ _ => rfl
    rw [change, hall]
    exact (List.append_nil _).symm
  | cons m rest ih =>
    obtain ⟨name, value⟩ := m
    obtain ⟨hname, hrest⟩ := List.nodup_cons.mp hn
    have hne : ∀ key ∈ rest.map Prod.fst, key ≠ name := by
      rintro key hkey rfl
      exact hname hkey
    rw [change, ih hrest]
    cases hnull : value.isNull with
    | true =>
      rw [if_pos rfl, namesLeft_erase hnull, namesAdded_cons_of_null hnull]
      congr 1
      apply namesAdded_congr
      intro key hkey
      rw [map_fst_erase, List.mem_filter, decide_eq_true_iff]
      exact and_iff_left (hne key hkey)
    | false =>
      rw [if_neg Bool.false_ne_true, namesLeft_cons_of_not_null hname hnull, namesLeft,
        map_fst_insert]
      by_cases hmem : name ∈ members.map Prod.fst
      · rw [if_pos hmem, namesAdded_cons_of_mem hnull hmem]
        congr 1
        apply namesAdded_congr
        intro key _
        rw [map_fst_insert, if_pos hmem]
      · have hstays : [name].filter (fun key => !takesAway rest key) = [name] := by
          rw [List.filter_cons_of_pos (by simp [takesAway_of_not_mem hname]), List.filter_nil]
        rw [if_neg hmem, namesAdded_cons_of_not_mem hnull hmem, List.filter_append, hstays,
          List.append_assoc, List.singleton_append]
        congr 2
        apply namesAdded_congr
        intro key hkey
        rw [map_fst_insert, if_neg hmem, List.mem_append, List.mem_singleton]
        exact or_iff_left (hne key hkey)

end Names

/-! ### Places in a merged value -/

/-- What is found at a path is found in the member of its first name. -/
theorem exists_of_at?_cons {name : String} {path : List String} {value found : Json}
    (h : at? (name :: path) value = some found) :
    ∃ members inner, value = .object members ∧ lookup name members = some inner ∧
      at? path inner = some found := by
  cases ho : value.asObject? with
  | none =>
    rw [at?_cons_of_asObject?_eq_none ho] at h
    contradiction
  | some members =>
    obtain rfl := asObject?_eq_some_iff.mp ho
    rw [at?_object, Option.bind_eq_some_iff] at h
    obtain ⟨inner, hl, hat⟩ := h
    exact ⟨members, inner, rfl, hl, hat⟩

/-- What is found at a path has members of different names throughout. -/
theorem Distinct.at? {value found : Json} (h : value.Distinct) {path : List String}
    (hat : at? path value = some found) : found.Distinct := by
  induction path generalizing value with
  | nil =>
    obtain rfl := Option.some.inj hat
    exact h
  | cons name path ih =>
    obtain ⟨members, inner, rfl, hl, hinner⟩ := exists_of_at?_cons hat
    exact ih (h.lookup hl) hinner

/-- In a value that is null nothing else is found. -/
theorem isNull_of_at? {value found : Json} {path : List String}
    (hat : at? path value = some found) (h : value.isNull = true) : found.isNull = true := by
  obtain rfl := isNull_iff.mp h
  cases path with
  | nil =>
    obtain rfl := Option.some.inj hat
    exact h
  | cons name path =>
    obtain ⟨members, inner, hobject, -⟩ := exists_of_at?_cons hat
    contradiction

/-- A merge goes on as a merge at every place where both sides have a value, unless the patch has
null there. -/
theorem at?_merge {base patch old value : Json} (hd : patch.Distinct) {path : List String}
    (hb : at? path base = some old) (hp : at? path patch = some value)
    (hvalue : value.isNull = false) : at? path (merge base patch) = some (merge old value) := by
  induction path generalizing base patch with
  | nil =>
    obtain rfl := Option.some.inj hb
    obtain rfl := Option.some.inj hp
    rfl
  | cons name path ih =>
    obtain ⟨members, inner, rfl, hl, hinner⟩ := exists_of_at?_cons hb
    obtain ⟨changes, change, rfl, hc, hchange⟩ := exists_of_at?_cons hp
    have hnull : change.isNull = false := by
      by_contra hnull
      rw [isNull_of_at? hchange (Bool.of_not_eq_false hnull)] at hvalue
      contradiction
    rw [merge_object, at?_object, lookup_change (distinct_object_iff.mp hd).1, hc]
    dsimp only
    rw [hnull, if_neg Bool.false_ne_true, hl, Option.bind_some, Option.getD_some]
    exact ih (hd.lookup hc) hinner hchange

/-! ### What a merge keeps -/

/-- What is made of the members of an object that a patch is merged into. -/
structure MergedInOrder (members patch merged : List (String × Json)) : Prop where
  /-- The names that the patch leaves stand first, and then those that it adds, each in the order in
  which they stood. -/
  names : merged.map Prod.fst = namesLeft members patch ++ namesAdded members patch
  /-- No name stands there twice. -/
  nodup : (merged.map Prod.fst).Nodup
  /-- A member that the patch does not mention is as it was. -/
  unmentioned : ∀ name ∉ patch.map Prod.fst, lookup name merged = lookup name members
  /-- A member of both has the value that the patch for it makes of its own. -/
  shared : ∀ name old value, lookup name members = some old → lookup name patch = some value →
    value.isNull = false → lookup name merged = some (merge old value)
  /-- A member that is added is as the patch has it. -/
  added : ∀ name value, lookup name members = none → lookup name patch = some value →
    value.isNull = false → lookup name merged = some value

/-- Two objects are merged in order. -/
theorem exists_mergedInOrder {members patch : List (String × Json)}
    (hb : (object members).Distinct) (hp : (object patch).Distinct) :
    ∃ merged, merge (object members) (object patch) = object merged ∧
      MergedInOrder members patch merged := by
  have hn := (distinct_object_iff.mp hp).1
  have hmerged := hb.merge hp
  rw [merge_object] at hmerged ⊢
  refine ⟨_, rfl, map_fst_change hn, (distinct_object_iff.mp hmerged).1, ?_, ?_, ?_⟩
  · intro name hname
    rw [lookup_change hn, lookup_eq_none_iff.mpr hname]
  · intro name old value hold hvalue hnull
    rw [lookup_change hn, hvalue]
    dsimp only
    rw [hnull, if_neg Bool.false_ne_true, hold, Option.getD_some]
  · intro name value hnone hvalue hnull
    rw [lookup_change hn, hvalue]
    dsimp only
    rw [hnull, if_neg Bool.false_ne_true, hnone, Option.getD_none, merge_eq_patch rfl]

/-- Wherever a value and a patch for it both have an object, the merged value has one that keeps the
order of members and all that the patch does not mention: the members that are left come first in
their order, then the new ones in the order of the patch, and a member of both is merged in its
turn. No name stands twice. The objects may be the value and the patch themselves, for the path of
no names. -/
theorem merge_keeps_order {base patch : Json} (hb : base.Distinct) (hp : patch.Distinct)
    (path : List String) (members changes : List (String × Json))
    (hmembers : at? path base = some (.object members))
    (hchanges : at? path patch = some (.object changes)) :
    ∃ merged, at? path (merge base patch) = some (.object merged) ∧
      MergedInOrder members changes merged := by
  obtain ⟨merged, hmerged, horder⟩ := exists_mergedInOrder (hb.at? hmembers) (hp.at? hchanges)
  refine ⟨merged, ?_, horder⟩
  rw [at?_merge hp hmembers hchanges rfl, hmerged]

/-- A schema of two properties, the first of which has three keywords. -/
def widgetSchema : Json :=
  .object [("type", .string "object"), ("properties", .object [
    ("size", .object [("type", .string "integer"), ("format", .string "int32"),
      ("minimum", .bool false)]),
    ("name", .object [("type", .string "string")])])]

/-- A patch that takes a keyword and a property away, changes a keyword before it adds others, and
adds a property. -/
def widgetPatch : Json :=
  .object [("properties", .object [
    ("name", .null),
    ("label", .object [("type", .string "string")]),
    ("size", .object [("enum", .array []), ("format", .null), ("minimum", .bool true),
      ("title", .string "Size")])])]

/-- The keywords of the property that stays: those that are left keep their places, and those that
are added follow. -/
theorem widgetPatch_keeps_order :
    widgetSchema.Distinct ∧ widgetPatch.Distinct ∧
    (∃ members, at? ["properties", "size"] widgetSchema = some (.object members)) ∧
    (∃ changes, at? ["properties", "size"] widgetPatch = some (.object changes)) ∧
    ∃ merged, at? ["properties", "size"] (merge widgetSchema widgetPatch) =
      some (.object merged) ∧ merged.map Prod.fst = ["type", "minimum", "enum", "title"] := by
  have hb : widgetSchema.Distinct := by simp [widgetSchema, Distinct, DistinctMembers]
  have hp : widgetPatch.Distinct := by
    simp [widgetPatch, Distinct, DistinctMembers, DistinctItems]
  obtain ⟨merged, hmerged, horder⟩ :=
    merge_keeps_order hb hp ["properties", "size"] _ _ rfl rfl
  exact ⟨hb, hp, ⟨_, rfl⟩, ⟨_, rfl⟩, merged, hmerged, horder.names.trans (by decide)⟩

end TypedClient.Json
