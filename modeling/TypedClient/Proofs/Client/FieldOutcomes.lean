import TypedClient.Proofs.Client.Fresh

/-!
# Outcomes of fields

Of the fields that are asked for, the first of each key that is not reserved is
declared. An outcome says of every field whether it is, and `outcomeOf` is the one that
`freshness` gives for fields under their keys: it has what `keepFresh` keeps and what
`leftOut` leaves out as its two parts.
-/

namespace TypedClient.Client

/-- The key of a field. -/
def Field.key (f : Field) : String := f.head.key

/-- What becomes of fields: each with whether it is declared, which it is exactly if its key is
neither reserved nor that of a field before. -/
structure IsOutcome (asked : List Field) (outcome : List (Field × Bool)) : Prop where
  /-- Each field has an outcome. -/
  fields : outcome.map Prod.fst = asked
  /-- The first field of a key that is not reserved is declared, and no other. -/
  isDeclared_iff : ∀ before f isDeclared after, outcome = before ++ (f, isDeclared) :: after →
    (isDeclared = true ↔ f.key ∉ reservedKeys ∧ f.key ∉ before.map fun o => o.1.key)

/-- The fields that are declared. -/
def declaredFields (outcome : List (Field × Bool)) : List Field :=
  (outcome.filter Prod.snd).map Prod.fst

/-- The fields that are not declared. -/
def undeclaredFields (outcome : List (Field × Bool)) : List Field :=
  (outcome.filter fun o => !o.2).map Prod.fst

@[simp] theorem declaredFields_append (first others : List (Field × Bool)) :
    declaredFields (first ++ others) = declaredFields first ++ declaredFields others := by
  rw [declaredFields, List.filter_append, List.map_append, declaredFields, declaredFields]

@[simp] theorem undeclaredFields_append (first others : List (Field × Bool)) :
    undeclaredFields (first ++ others) = undeclaredFields first ++ undeclaredFields others := by
  rw [undeclaredFields, List.filter_append, List.map_append, undeclaredFields, undeclaredFields]

theorem mem_of_mem_declaredFields {outcome : List (Field × Bool)} {f : Field}
    (h : f ∈ declaredFields outcome) : f ∈ outcome.map Prod.fst :=
  (List.filter_sublist.map Prod.fst).subset h

theorem length_outcome (outcome : List (Field × Bool)) :
    outcome.length = (declaredFields outcome).length + (undeclaredFields outcome).length := by
  induction outcome with
  | nil => rfl
  | cons o rest ih =>
    obtain ⟨f, isDeclared⟩ := o
    have hrest : rest.length =
        (rest.filter Prod.snd).length + (rest.filter fun o => !o.2).length := by
      simpa [declaredFields, undeclaredFields] using ih
    cases isDeclared <;> simp [declaredFields, undeclaredFields, hrest] <;> omega

/-- The outcome of fields under keys that are their own. -/
def outcomeOf (entries : List (String × Field)) : List (Field × Bool) :=
  (freshness reservedKeys entries).map fun e => (e.1.2, e.2)

theorem isOutcome_outcomeOf (asked : List Field) :
    IsOutcome asked (outcomeOf (asked.map fun f => (f.key, f))) where
  fields := map_fst_freshBy
  isDeclared_iff := fun _ _ _ _ h => isFresh_freshBy_iff h

/-- The keys of the fields that are declared are those of the entries that are kept. -/
theorem map_key_declaredFields_outcomeOf (asked : List Field) :
    (declaredFields (outcomeOf (asked.map fun f => (f.key, f)))).map Field.key =
      (keepFresh reservedKeys (asked.map fun f => (f.key, f))).map Prod.fst := by
  rw [declaredFields, outcomeOf, keepFresh_eq_filter, List.filter_map, List.map_map, List.map_map,
    List.map_map]
  exact List.map_congr_left fun e he => (key_of_mem_freshness (List.mem_of_mem_filter he)).symm

/-- Fields of different keys are declared unless their keys are taken. -/
theorem outcome_of_nodup {fields : List Field} (h : (fields.map Field.key).Nodup)
    (taken : List String) :
    ((freshness taken (fields.map fun f => (f.key, f))).map fun e => (e.1.2, e.2)) =
      fields.map fun f => (f, decide (f.key ∉ taken)) := by
  have hkeys : ((fields.map fun f => (f.key, f)).map Prod.fst).Nodup := by
    rw [List.map_map]
    exact h
  rw [freshness_of_nodup hkeys, List.map_map, List.map_map]
  rfl

theorem declaredFields_map (fields : List Field) (holds : Field → Bool) :
    declaredFields (fields.map fun f => (f, holds f)) = fields.filter holds := by
  rw [declaredFields, List.filter_map, List.map_map]
  exact List.map_id _

theorem undeclaredFields_map (fields : List Field) (holds : Field → Bool) :
    undeclaredFields (fields.map fun f => (f, holds f)) = fields.filter fun f => !holds f := by
  rw [undeclaredFields, List.filter_map, List.map_map]
  exact List.map_id _

end TypedClient.Client
