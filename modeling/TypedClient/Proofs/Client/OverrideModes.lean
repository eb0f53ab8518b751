import TypedClient.Client.Transliteration
import TypedClient.Proofs.Client.RequestFields
import TypedClient.Proofs.Client.Visits

/-!
# The modes of overrides

In the mode `consume` another name for an argument is used up by its first look-up. Each
operation that is compiled looks up the names of its parameters once, in order, and no
other operation that is compiled has its id. So the mode makes no difference if the
parameters of each of them have different names: `resolveKeys` then gives each parameter
the key that it has when nothing is used up (`resolveKeys_of_nodup`).
-/

namespace TypedClient.Client

open TypedClient.Api

/-- Whether the parameters of an operation have different names. -/
def HasDistinctNames (operation : Operation) : Prop :=
  (operation.parameters.map Parameter.name).Nodup

instance (operation : Operation) : Decidable (HasDistinctNames operation) :=
  inferInstanceAs (Decidable (List.Nodup _))

/-! ### Keys of names that are looked up once -/

/-- Whether the other name for an argument has been used up. -/
def IsUsedUp (r : Resolver) (id name : String) : Prop :=
  r.mode = .consume ∧ (id, name) ∈ r.consumed

/-- The key for an argument as long as nothing is used up. -/
def firstKey (r : Resolver) (id name : String) : String := (r.replacement? id name).getD name

section Keys

variable {r : Resolver} {id : String}

theorem keyFor_of_not_isUsedUp {name : String} (h : ¬ IsUsedUp r id name) :
    (r.keyFor id name).1 = firstKey r id name := by
  rw [Resolver.keyFor, firstKey]
  cases r.replacement? id name with
  | none => rfl
  | some other =>
    cases hmode : r.mode with
    | persistent => rfl
    | consume =>
      have hfree : ¬ r.consumed.contains (id, name) = true := by
        intro hmem
        exact h ⟨hmode, List.contains_iff_mem.mp hmem⟩
      dsimp only
      rw [if_neg hfree]
      rfl

/-- A look-up uses up the name that is looked up, and no other. -/
theorem isUsedUp_of_keyFor {looked name : String}
    (h : IsUsedUp (r.keyFor id looked).2 id name) : IsUsedUp r id name ∨ name = looked := by
  obtain ⟨hmode, hmem⟩ := h
  rw [(goneOn_keyFor r id looked).mode] at hmode
  rw [Resolver.keyFor] at hmem
  split at hmem
  · exact Or.inl ⟨hmode, hmem⟩
  · exact Or.inl ⟨hmode, hmem⟩
  · split at hmem
    · exact Or.inl ⟨hmode, hmem⟩
    · rcases List.mem_cons.mp hmem with he | hmem
      · exact Or.inr (Prod.mk.inj he).2
      · exact Or.inl ⟨hmode, hmem⟩

theorem firstKey_keyFor (looked : String) : firstKey (r.keyFor id looked).2 = firstKey r := by
  funext other name
  rw [firstKey, firstKey, Resolver.replacement?, Resolver.replacement?,
    (goneOn_keyFor r id looked).overrides]

/-- Parameters of different names whose other names are still to be used have the keys that they
have when nothing is used up. -/
theorem resolveKeys_of_nodup {parameters : List Parameter}
    (hnodup : (parameters.map Parameter.name).Nodup)
    (hfree : ∀ p ∈ parameters, ¬ IsUsedUp r id p.name) :
    (resolveKeys r id parameters).1 = parameters.map fun p => (firstKey r id p.name, p) := by
  induction parameters generalizing r with
  | nil => rfl
  | cons p rest ih =>
    obtain ⟨hp, hrest⟩ := List.nodup_cons.mp hnodup
    have hfree' : ∀ q ∈ rest, ¬ IsUsedUp (r.keyFor id p.name).2 id q.name := by
      intro q hq hused
      rcases isUsedUp_of_keyFor hused with hused | hname
      · exact hfree q (List.mem_cons_of_mem _ hq) hused
      · exact hp (hname ▸ List.mem_map_of_mem hq)
    rw [resolveKeys]
    dsimp only
    rw [keyFor_of_not_isUsedUp (hfree p List.mem_cons_self), ih hrest hfree', firstKey_keyFor,
      List.map_cons]

end Keys

/-! ### Operations in either mode -/

theorem resultsNode_congr {r r' : Resolver} (h : r'.overrides = r.overrides) :
    resultsNode r' = resultsNode r := by
  have hpatched : r'.patchedAnswer = r.patchedAnswer := by
    funext id schema
    rw [Resolver.patchedAnswer, Resolver.patchedAnswer, h]
  funext operation
  rw [resultsNode, resultsNode, hpatched]

/-- Beyond the keys of its parameters, an operation takes from a resolver its overrides only. -/
theorem compile_congr [NameStyle] {r s : Resolver} {endpoint : Endpoint}
    (hoverrides : r.overrides = s.overrides)
    (hkeys : (resolveKeys r endpoint.operation.operationId endpoint.operation.parameters).1 =
      (resolveKeys s endpoint.operation.operationId endpoint.operation.parameters).1) :
    (compile r endpoint).1 = (compile s endpoint).1 := by
  have hleft :
      (resolveKeys r endpoint.operation.operationId endpoint.operation.parameters).2.overrides =
      (resolveKeys s endpoint.operation.operationId endpoint.operation.parameters).2.overrides := by
    rw [(goneOn_resolveKeys r _ _).overrides, (goneOn_resolveKeys s _ _).overrides, hoverrides]
  rw [compile, compile]
  dsimp only
  rw [hkeys, resultsNode_congr hleft, bodyPart_congr hleft]

section Modes

variable {overrides : Overrides}

/-- An operation whose parameters have different names is compiled to the same in both modes. -/
theorem compiledFirst_consume [NameStyle] {endpoint : Endpoint}
    (h : HasDistinctNames endpoint.operation) :
    compiledFirst overrides .consume endpoint = compiledFirst overrides .persistent endpoint := by
  have hnew : ∀ mode id name, ¬ IsUsedUp (.new overrides mode) id name :=
    fun _ _ _ hused => absurd hused.2 List.not_mem_nil
  have hkeys (mode : OverrideMode) :
      (resolveKeys (.new overrides mode) endpoint.operation.operationId
        endpoint.operation.parameters).1 =
        endpoint.operation.parameters.map fun p =>
          (firstKey (.new overrides mode) endpoint.operation.operationId p.name, p) :=
    resolveKeys_of_nodup h fun p _ => hnew mode _ p.name
  refine compile_congr rfl ?_
  rw [hkeys, hkeys]
  rfl

/-- What is counted at a visit is the same in both modes if the operation is skipped or its
parameters have different names. -/
theorem visitTally_consume [NameStyle] {visit : Endpoint × Bool}
    (h : visit.2 = true → HasDistinctNames visit.1.operation) :
    visitTally overrides .consume visit = visitTally overrides .persistent visit := by
  obtain ⟨endpoint, isFirst⟩ := visit
  cases isFirst with
  | false => rfl
  | true => rw [visitTally, visitTally, compiledFirst_consume (h rfl)]

/-- Both modes build the same if the parameters of each operation that is compiled have different
names. -/
theorem build_consume [NameStyle] {document : Document} (overrides : Overrides)
    (h : ∀ endpoint ∈ firstsOfNames [] document.endpoints, HasDistinctNames endpoint.operation) :
    (build document overrides .consume).methods = (build document overrides .persistent).methods ∧
      (build document overrides .consume).tally =
        (build document overrides .persistent).tally := by
  rw [← compiledVisits_visits] at h
  constructor
  · rw [methods_build_eq_map, methods_build_eq_map]
    exact List.map_congr_left fun e he => by rw [compiledFirst_consume (h e he)]
  · have hvisits : (visits document).map (visitTally overrides .consume) =
        (visits document).map (visitTally overrides .persistent) := by
      refine List.map_congr_left fun visit hv => visitTally_consume fun hfirst => ?_
      exact h visit.1 (List.mem_map_of_mem (List.mem_filter.mpr ⟨hv, hfirst⟩))
    rw [tally_build, tally_build, hvisits]

/-- Whether other names for arguments are used up or stay in force makes no difference to the text
of a client, to its counts and to its warnings, unless two parameters of an operation that is
compiled have one name. -/
theorem generate_consume [NameStyle] (document : Document) (template : Template)
    (overrides : Overrides)
    (h : ∀ endpoint ∈ firstsOfNames [] document.endpoints, HasDistinctNames endpoint.operation) :
    generate document template overrides .consume =
      generate document template overrides .persistent := by
  obtain ⟨hmethods, htally⟩ := build_consume overrides h
  rw [generate, generate, hmethods, htally]

/-- A document with two operations that are compiled and share the name of a parameter. A third one,
which is skipped, has two parameters of one name. -/
def itemsDocument : Document where
  host := none
  basePath := none
  paths := [
    ("/item/\x7bid\x7d",
      { delete := none
        get := some ⟨"get-item", none, none,
          [idParameter .path, ⟨"rev", none, false, .query, some "string", none, none⟩], none, []⟩
        post := none
        put := some ⟨"put-item", none, none, [idParameter .path], none, []⟩ }),
    ("/items/\x7bid\x7d",
      { delete := none
        get := some ⟨"get item", none, none, [idParameter .path, idParameter .query], none, []⟩
        post := none
        put := none })]

/-- Overrides that give every name of that document another one. -/
def itemsOverrides : Overrides :=
  [("get-item", ⟨[("id", "itemId"), ("rev", "revision")], none, none⟩),
    ("put-item", renameId "target"), ("get item", renameId "other")]

/-- The operation that is skipped uses nothing up, and the others look each name up once. -/
theorem generate_consume_itemsDocument :
    letI := usualStyle
    (∀ endpoint ∈ firstsOfNames [] itemsDocument.endpoints,
      HasDistinctNames endpoint.operation) ∧
    ((build itemsDocument itemsOverrides .consume).methods.map fun m =>
      m.arguments.map Argument.key) = [["itemId", "revision"], ["target"]] ∧
    generate itemsDocument ⟨[.slot .methods, .slot .requestTypes, .slot .responseTypes]⟩
        itemsOverrides .consume =
      generate itemsDocument ⟨[.slot .methods, .slot .requestTypes, .slot .responseTypes]⟩
        itemsOverrides .persistent := by
  let : NameStyle := usualStyle
  have hnames : ∀ endpoint ∈ firstsOfNames [] itemsDocument.endpoints,
      HasDistinctNames endpoint.operation := by
    decide
  exact ⟨hnames, by decide, generate_consume _ _ _ hnames⟩

end Modes

end TypedClient.Client
