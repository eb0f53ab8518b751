import TypedClient.Client.Transliteration
import TypedClient.Proofs.Client.Locality
import TypedClient.Proofs.Client.PathParameters

/-!
# The names under which arguments are sent

The arguments of a method have different keys, but they are sent under the names that
the service knows. A key is the name itself or the other name for it, so two arguments
share a name only if one has each. That takes an other name that is used up with the
first: as long as other names stay in force, one name has one key.
-/

namespace TypedClient.Client

open TypedClient.Api
open TypedClient.Script

/-- The keys of the object in which a method sends its arguments, read from its implementation. A
method that sends none has no such object. -/
def Method.sentKeys? (m : Method) : Option (List String) :=
  (caller? m.implementation).bind fun c =>
    match c.call.lookup "params" with
    | none => some []
    | some value => (object? value).map (List.map Prod.fst)

/-- Whether another name for an argument is still to be used. -/
def InForce (r : Resolver) (id name other : String) : Prop :=
  r.replacement? id name = some other ∧ ¬ (r.mode = .consume ∧ (id, name) ∈ r.consumed)

/-- Whether an operation has two arguments for one name: one under the other name for it, which is
used up with that, and one under the name itself. -/
def SplitsName (r : Resolver) (operation : Operation) : Prop :=
  r.mode = .consume ∧ ∃ p q : Parameter, ∃ other,
    p.name = q.name ∧ other ≠ q.name ∧ InForce r operation.operationId q.name other ∧
      (other, p) ∈ keptParameters r operation ∧ (q.name, q) ∈ keptParameters r operation

/-! ### Keys of names -/

section Keys

variable {r : Resolver} {id : String}

/-- The key for a name is the other name for it while that is in force, and else the name. -/
theorem keyFor_fst_eq (name : String) :
    (r.keyFor id name).1 = name ∨ InForce r id name (r.keyFor id name).1 := by
  rw [Resolver.keyFor, InForce]
  split
  · exact Or.inl rfl
  · next other hreplacement hmode =>
    refine Or.inr ⟨hreplacement, fun h => ?_⟩
    rw [hmode] at h
    exact absurd h.1 (by decide)
  · next other hreplacement hmode =>
    split
    · exact Or.inl rfl
    · next hfree => exact Or.inr ⟨hreplacement, fun h => hfree (List.contains_iff_mem.mpr h.2)⟩

theorem keyFor_of_persistent (h : r.mode = .persistent) (name : String) :
    r.keyFor id name = ((r.replacement? id name).getD name, r) := by
  rw [Resolver.keyFor, h]
  cases r.replacement? id name <;> rfl

/-- What has been used up stays so. -/
theorem consumed_subset_keyFor (name : String) : r.consumed ⊆ (r.keyFor id name).2.consumed := by
  rw [Resolver.keyFor]
  split
  · exact fun _ h => h
  · exact fun _ h => h
  · split
    · exact fun _ h => h
    · exact fun _ h => List.mem_cons_of_mem _ h

/-- Another name that is in force after a look-up was in force before. -/
theorem InForce.of_keyFor {looked name other : String}
    (h : InForce (r.keyFor id looked).2 id name other) : InForce r id name other := by
  have hgone := goneOn_keyFor r id looked
  refine ⟨?_, fun hused => h.2 ⟨hgone.mode.trans hused.1, consumed_subset_keyFor looked hused.2⟩⟩
  have hreplacement := h.1
  rwa [Resolver.replacement?, hgone.overrides] at hreplacement

/-- Each key is the name of its parameter, or the other name for that. -/
theorem eq_or_inForce_of_mem_resolveKeys {parameters : List Parameter} {key : String}
    {p : Parameter} (h : (key, p) ∈ (resolveKeys r id parameters).1) :
    key = p.name ∨ InForce r id p.name key := by
  induction parameters generalizing r with
  | nil => exact absurd h List.not_mem_nil
  | cons first rest ih =>
    rcases List.mem_cons.mp h with he | h
    · obtain ⟨rfl, rfl⟩ := Prod.mk.inj he
      exact keyFor_fst_eq p.name
    · exact (ih h).imp_right InForce.of_keyFor

/-- As long as other names stay in force, a name has one key. -/
theorem eq_getD_of_mem_resolveKeys (hmode : r.mode = .persistent) {parameters : List Parameter}
    {key : String} {p : Parameter} (h : (key, p) ∈ (resolveKeys r id parameters).1) :
    key = (r.replacement? id p.name).getD p.name := by
  induction parameters with
  | nil => exact absurd h List.not_mem_nil
  | cons first rest ih =>
    rw [resolveKeys, keyFor_of_persistent hmode] at h
    rcases List.mem_cons.mp h with he | h
    · obtain ⟨rfl, rfl⟩ := Prod.mk.inj he
      rfl
    · exact ih h

end Keys

/-! ### Names of arguments -/

section Compile

variable (r : Resolver) (endpoint : Endpoint)

/-- The arguments are sent under the names of the parameters that are kept. -/
theorem sentKeys?_compile [NameStyle] :
    (compile r endpoint).1.method.sentKeys? =
      some ((keptParameters r endpoint.operation).map fun k => k.2.name) := by
  have hread := isReadable_compile r endpoint
  have hroute := Method.readTemplate_route (compile r endpoint).1.method fun a ha =>
    (isBinding_iff.mp (hread.binding a ha)).1
  have hlength : ((keptParameters r endpoint.operation).map fun k => k.2.name).length ≤
      ((argumentLocals r endpoint.operation).map fun l => [Token.word l]).length := by
    rw [argumentLocals, List.length_map, List.length_map, length_freeBindings, List.length_map]
  rw [Method.sentKeys?, Method.caller?_implementation hread hroute, Option.bind_some]
  dsimp only
  rw [Method.lookup_params, compile_arguments, isEmpty_makeArguments]
  by_cases hempty : keptParameters r endpoint.operation = []
  · simp [hempty]
  · have hkept : (keptParameters r endpoint.operation).isEmpty = false := by simpa using hempty
    rw [hkept, if_neg Bool.false_ne_true]
    dsimp only
    rw [Method.object?_paramsTokens hread, compile_arguments, map_sent_makeArguments,
      ← argumentLocals, Option.map_some, List.map_fst_zip hlength]

end Compile

section Operation

variable {r : Resolver} {operation : Operation}

theorem eq_or_inForce_of_mem_keptParameters {key : String} {p : Parameter}
    (h : (key, p) ∈ keptParameters r operation) :
    key = p.name ∨ InForce r operation.operationId p.name key :=
  eq_or_inForce_of_mem_resolveKeys ((keepFresh_sublist _ _).subset h)

/-- Of two arguments for one name one has the name as its key and the other the other name. -/
theorem splitsName_of_mem_keptParameters {a b : String × Parameter}
    (ha : a ∈ keptParameters r operation) (hb : b ∈ keptParameters r operation) (hne : a ≠ b)
    (hname : a.2.name = b.2.name) : SplitsName r operation := by
  obtain ⟨akey, p⟩ := a
  obtain ⟨bkey, q⟩ := b
  dsimp only at hname
  have hkeys : akey ≠ bkey := fun he =>
    hne (List.inj_on_of_nodup_map (nodup_keys_keepFresh _ _) ha hb he)
  have hmode : r.mode = .consume := by
    cases hm : r.mode with
    | consume => rfl
    | persistent =>
      have hp := eq_getD_of_mem_resolveKeys hm ((keepFresh_sublist _ _).subset ha)
      have hq := eq_getD_of_mem_resolveKeys hm ((keepFresh_sublist _ _).subset hb)
      exact absurd (hp.trans (hname ▸ hq.symm)) hkeys
  refine ⟨hmode, ?_⟩
  rcases eq_or_inForce_of_mem_keptParameters ha with rfl | hp
  · rcases eq_or_inForce_of_mem_keptParameters hb with rfl | hq
    · exact absurd hname hkeys
    · exact ⟨q, p, bkey, hname.symm, hkeys.symm, hname ▸ hq, hb, ha⟩
  · rcases eq_or_inForce_of_mem_keptParameters hb with rfl | hq
    · exact ⟨p, q, akey, hname, hkeys, hname ▸ hp, ha, hb⟩
    · have hsame : some akey = some bkey := hp.1.symm.trans (hname ▸ hq.1)
      exact absurd (Option.some.inj hsame) hkeys

theorem nodup_names_keptParameters_iff :
    ((keptParameters r operation).map fun k => k.2.name).Nodup ↔ ¬ SplitsName r operation := by
  have hkept : (keptParameters r operation).Nodup := (nodup_keys_keepFresh _ _).of_map _
  rw [List.nodup_map_iff_inj_on hkept]
  constructor
  · rintro hinj ⟨-, p, q, other, hname, hother, -, hp, hq⟩
    exact hother (congrArg Prod.fst (hinj _ hp _ hq hname))
  · intro h a ha b hb hname
    by_contra hne
    exact h (splitsName_of_mem_keptParameters ha hb hne hname)

end Operation

/-- A method sends its arguments in an object whose keys are different from each other, unless one
name has two arguments: one under its other name, which is used up with that, and one under the name
itself. -/
theorem sentKeys_nodup_iff [NameStyle] (r : Resolver) (endpoint : Endpoint) :
    ∃ keys, (compile r endpoint).1.method.sentKeys? = some keys ∧
      (keys.Nodup ↔ ¬ SplitsName r endpoint.operation) :=
  ⟨_, sentKeys?_compile r endpoint, nodup_names_keptParameters_iff⟩

/-- The parameters `id` in the path and in the query are both sent as `id` when the first of them
uses up the other name. -/
theorem sentKeys_itemEndpoint_clash :
    letI := usualStyle
    ¬ ∃ keys, (compile (.new [("get-item", ⟨[("id", "itemId")], none, none⟩)] .consume)
        (itemEndpoint [idParameter .path, idParameter .query])).1.method.sentKeys? = some keys ∧
      keys.Nodup := by
  let : NameStyle := usualStyle
  rintro ⟨keys, hkeys, hnodup⟩
  rw [sentKeys?_compile] at hkeys
  obtain rfl := Option.some.inj hkeys
  exact absurd hnodup (by decide)

end TypedClient.Client
