import TypedClient.Client.Transliteration
import TypedClient.Proofs.Client.Building

/-!
# Operations are compiled by themselves

A build hands one resolver on from operation to operation. What an operation becomes
depends on its own override alone: a name is used up only for the operation that has
asked for it, and no two operations that are compiled have one id. So a build has the
methods that the first operation of each method name has by itself.
-/

namespace TypedClient.Client

open TypedClient.Api

/-- The override of one operation, if there is one, and no other. -/
def overrideOf (overrides : Overrides) (id : String) : Overrides :=
  (overrides.get? id).toList.map (id, ·)

/-- The method that an operation has when it is compiled by itself. -/
def compiledAlone [NameStyle] (overrides : Overrides) (mode : OverrideMode) (endpoint : Endpoint) :
    Method :=
  (compile (.new (overrideOf overrides endpoint.operation.operationId) mode) endpoint).1.method

/-! ### Resolvers that answer alike -/

/-- Two resolvers that answer alike for an operation. -/
structure SameFor (id : String) (r s : Resolver) : Prop where
  /-- Other names stay in force as long. -/
  mode : r.mode = s.mode
  /-- Both have the same override for the operation. -/
  override : r.overrides.get? id = s.overrides.get? id
  /-- The same of its names have been used up. -/
  consumed : ∀ name, (id, name) ∈ r.consumed ↔ (id, name) ∈ s.consumed

namespace SameFor

variable {id : String} {r s : Resolver}

/-- Both give an argument the same key, and go on to answer alike. -/
theorem keyFor (h : SameFor id r s) (name : String) :
    (r.keyFor id name).1 = (s.keyFor id name).1 ∧
      SameFor id (r.keyFor id name).2 (s.keyFor id name).2 := by
  have hreplacement : r.replacement? id name = s.replacement? id name := by
    rw [Resolver.replacement?, Resolver.replacement?, h.override]
  have hmode := h.mode
  rw [Resolver.keyFor, Resolver.keyFor, hreplacement, hmode]
  cases s.replacement? id name with
  | none => exact ⟨rfl, h⟩
  | some other =>
    cases s.mode with
    | persistent => exact ⟨rfl, h⟩
    | consume =>
      have hcontains : r.consumed.contains (id, name) = s.consumed.contains (id, name) := by
        rw [Bool.eq_iff_iff, List.contains_iff_mem, List.contains_iff_mem]
        exact h.consumed name
      dsimp only
      rw [hcontains]
      split
      · exact ⟨rfl, h⟩
      · refine ⟨rfl, rfl, h.override, fun n => ?_⟩
        rw [List.mem_cons, List.mem_cons, h.consumed n]

theorem resolveKeys (h : SameFor id r s) (parameters : List Parameter) :
    (resolveKeys r id parameters).1 = (resolveKeys s id parameters).1 ∧
      SameFor id (resolveKeys r id parameters).2 (resolveKeys s id parameters).2 := by
  induction parameters generalizing r s with
  | nil => exact ⟨rfl, h⟩
  | cons p rest ih =>
    obtain ⟨hkey, hnext⟩ := h.keyFor p.name
    obtain ⟨hothers, hlast⟩ := ih hnext
    rw [Client.resolveKeys, Client.resolveKeys]
    dsimp only
    rw [hkey, hothers]
    exact ⟨rfl, hlast⟩

theorem resultsNode {operation : Operation} (h : SameFor operation.operationId r s) :
    resultsNode r operation = resultsNode s operation := by
  rw [Client.resultsNode, Client.resultsNode]
  cases operation.answerSchema? with
  | none => rfl
  | some schema =>
    dsimp only
    rw [Resolver.patchedAnswer, Resolver.patchedAnswer, h.override]

theorem bodyPart {operation : Operation} (h : SameFor operation.operationId r s) (name : String)
    (taken : List String) : bodyPart r operation name taken = bodyPart s operation name taken := by
  rw [Client.bodyPart, Client.bodyPart]
  cases operation.requestSchema? with
  | none => rfl
  | some schema =>
    dsimp only
    rw [Resolver.patchedBody, Resolver.patchedBody, h.override]

/-- An operation is compiled to the same with both. -/
theorem compile [NameStyle] {endpoint : Endpoint} (h : SameFor endpoint.operation.operationId r s) :
    (compile r endpoint).1 = (compile s endpoint).1 := by
  obtain ⟨hkeyed, hleft⟩ := h.resolveKeys endpoint.operation.parameters
  rw [Client.compile, Client.compile]
  dsimp only
  rw [hkeyed, hleft.resultsNode, hleft.bodyPart]

end SameFor

/-! ### What compiling uses up -/

/-- A resolver that has gone on from another by answering for an operation. -/
structure GoneOn (id : String) (r s : Resolver) : Prop where
  /-- The overrides are the same. -/
  overrides : s.overrides = r.overrides
  /-- Other names stay in force as long. -/
  mode : s.mode = r.mode
  /-- What has been used up was before or is of the operation. -/
  consumed : ∀ entry ∈ s.consumed, entry ∈ r.consumed ∨ entry.1 = id

theorem goneOn_keyFor (r : Resolver) (id name : String) : GoneOn id r (r.keyFor id name).2 := by
  have hself : GoneOn id r r := ⟨rfl, rfl, fun _ he => Or.inl he⟩
  rw [Resolver.keyFor]
  split
  · exact hself
  · exact hself
  · split
    · exact hself
    · refine ⟨rfl, rfl, fun entry he => ?_⟩
      rcases List.mem_cons.mp he with rfl | he
      · exact Or.inr rfl
      · exact Or.inl he

theorem goneOn_resolveKeys (r : Resolver) (id : String) (parameters : List Parameter) :
    GoneOn id r (resolveKeys r id parameters).2 := by
  induction parameters generalizing r with
  | nil => exact ⟨rfl, rfl, fun _ he => Or.inl he⟩
  | cons p rest ih =>
    have hfirst := goneOn_keyFor r id p.name
    have hrest := ih (r.keyFor id p.name).2
    refine ⟨hrest.overrides.trans hfirst.overrides, hrest.mode.trans hfirst.mode, ?_⟩
    intro entry he
    rcases hrest.consumed entry he with he | he
    · exact hfirst.consumed entry he
    · exact Or.inr he

/-- Compiling an operation uses up names of that operation only. -/
theorem goneOn_compile [NameStyle] (r : Resolver) (endpoint : Endpoint) :
    GoneOn endpoint.operation.operationId r (compile r endpoint).2 := by
  rw [compile]
  exact goneOn_resolveKeys r _ _

/-! ### The run of a build -/

namespace Build

/-- A build whose resolver has given answers for operations of its method names only. -/
structure AnsweredForNames [NameStyle] (overrides : Overrides) (mode : OverrideMode) (b : Build) :
    Prop where
  /-- The resolver has the overrides. -/
  overrides : b.resolver.overrides = overrides
  /-- The resolver has the mode. -/
  mode : b.resolver.mode = mode
  /-- Names have been used up only for operations whose method name is in use. -/
  consumed : ∀ entry ∈ b.resolver.consumed, methodName entry.1 ∈ b.names

variable {overrides : Overrides} {mode : OverrideMode} {b : Build} {endpoint : Endpoint}

theorem get?_overrideOf (overrides : Overrides) (id : String) :
    (overrideOf overrides id).get? id = overrides.get? id := by
  rw [overrideOf]
  cases overrides.get? id with
  | none => rfl
  | some entry => simp [Overrides.get?, Json.lookup]

/-- For an operation whose method name is free the resolver answers as a new one that has no other
override. -/
theorem AnsweredForNames.sameFor [NameStyle] (h : b.AnsweredForNames overrides mode)
    (hn : methodName endpoint.operation.operationId ∉ b.names) :
    SameFor endpoint.operation.operationId b.resolver
      (.new (overrideOf overrides endpoint.operation.operationId) mode) := by
  refine ⟨h.mode, ?_, fun name => ?_⟩
  · rw [h.overrides, Resolver.new, get?_overrideOf]
  · have hfree : (endpoint.operation.operationId, name) ∉ b.resolver.consumed :=
      fun he => hn (h.consumed (endpoint.operation.operationId, name) he)
    exact iff_of_false hfree List.not_mem_nil

theorem AnsweredForNames.add [NameStyle] (h : b.AnsweredForNames overrides mode)
    (endpoint : Endpoint) :
    (b.add endpoint).AnsweredForNames overrides mode := by
  by_cases hn : methodName endpoint.operation.operationId ∈ b.names
  · have hr : (b.add endpoint).resolver = b.resolver := by simp only [Build.add, hn, ite_true]
    refine ⟨hr ▸ h.overrides, hr ▸ h.mode, ?_⟩
    rw [hr, (add_of_mem hn).2]
    exact h.consumed
  · have hr : (b.add endpoint).resolver = (compile b.resolver endpoint).2 := by
      simp only [Build.add, hn, ite_false]
    have hgone := goneOn_compile b.resolver endpoint
    refine ⟨?_, ?_, ?_⟩
    · rw [hr, hgone.overrides, h.overrides]
    · rw [hr, hgone.mode, h.mode]
    · rw [hr, (add_of_not_mem hn).2]
      intro entry he
      rcases hgone.consumed entry he with he | he
      · exact List.mem_cons_of_mem _ (h.consumed entry he)
      · rw [he]
        exact List.mem_cons_self

end Build

/-- The operations that are the first of their method name, which is not taken. -/
def firstsOfNames [NameStyle] (taken : List String) (endpoints : List Endpoint) : List Endpoint :=
  (keepFresh taken (endpoints.map methodEntry)).map Prod.snd

theorem firstsOfNames_cons [NameStyle] (taken : List String) (endpoint : Endpoint)
    (rest : List Endpoint) :
    firstsOfNames taken (endpoint :: rest) =
      if methodName endpoint.operation.operationId ∈ taken then firstsOfNames taken rest
      else endpoint ::
        firstsOfNames (methodName endpoint.operation.operationId :: taken) rest := by
  rw [firstsOfNames, List.map_cons, methodEntry, keepFresh]
  split <;> rfl

/-- A run adds the methods of the first operations of the free method names, each compiled by
itself. -/
theorem Build.methods_foldl_add [NameStyle] {overrides : Overrides} {mode : OverrideMode}
    {b : Build} (h : b.AnsweredForNames overrides mode) (endpoints : List Endpoint) :
    (endpoints.foldl add b).methods =
      b.methods ++ (firstsOfNames b.names endpoints).map (compiledAlone overrides mode) := by
  induction endpoints generalizing b with
  | nil => simp [firstsOfNames, keepFresh]
  | cons e rest ih =>
    rw [List.foldl_cons, ih (h.add e), firstsOfNames_cons]
    by_cases hn : methodName e.operation.operationId ∈ b.names
    · obtain ⟨hm, hnames⟩ := add_of_mem hn
      rw [hm, hnames, if_pos hn]
    · obtain ⟨hm, hnames⟩ := add_of_not_mem hn
      rw [hm, hnames, if_neg hn, (h.sameFor hn).compile, List.map_cons, List.append_assoc]
      rfl

/-- The first operation of a document that has a method name. -/
def firstNamed? [NameStyle] (document : Document) (name : String) : Option Endpoint :=
  document.endpoints.find? fun e => methodName e.operation.operationId == name

/-- The method of a name among some methods. -/
def methodNamed? (methods : List Method) (name : String) : Option Method :=
  methods.find? fun m => m.name == name

theorem compiledAlone_name [NameStyle] (overrides : Overrides) (mode : OverrideMode)
    (endpoint : Endpoint) :
    (compiledAlone overrides mode endpoint).name = methodName endpoint.operation.operationId :=
  compile_name _ _

theorem find?_firstsOfNames [NameStyle] (taken : List String) (endpoints : List Endpoint)
    (name : String) :
    (firstsOfNames taken endpoints).find? (fun e => methodName e.operation.operationId == name) =
      if name ∈ taken then none
      else endpoints.find? fun e => methodName e.operation.operationId == name := by
  induction endpoints generalizing taken with
  | nil => simp [firstsOfNames, keepFresh]
  | cons e rest ih =>
    rw [firstsOfNames_cons, List.find?_cons]
    by_cases he : methodName e.operation.operationId = name
    · subst he
      split
      · next ht => rw [ih, if_pos ht]
      · simp
    · have hb : (methodName e.operation.operationId == name) = false := by simpa using he
      split
      · rw [ih, hb]
      · rw [List.find?_cons, hb]
        dsimp only
        rw [ih]
        simp only [List.mem_cons, Ne.symm he, false_or]

section Build

variable [NameStyle] (document : Document) (overrides : Overrides) (mode : OverrideMode)

theorem methods_build :
    (build document overrides mode).methods =
      (firstsOfNames [] document.endpoints).map (compiledAlone overrides mode) :=
  Build.methods_foldl_add ⟨rfl, rfl, fun _ he => absurd he List.not_mem_nil⟩ _

/-- The method of a name is that of the first operation with that name. -/
theorem methodNamed?_build (name : String) :
    methodNamed? (build document overrides mode).methods name =
      (firstNamed? document name).map (compiledAlone overrides mode) := by
  have hname : ((fun m : Method => m.name == name) ∘ compiledAlone overrides mode) =
      fun e => methodName e.operation.operationId == name := by
    funext e
    rw [Function.comp_apply, compiledAlone_name]
  rw [methodNamed?, methods_build, List.find?_map, hname, find?_firstsOfNames,
    if_neg List.not_mem_nil, firstNamed?]

end Build

theorem compiledAlone_congr [NameStyle] {overrides overrides' : Overrides} {mode : OverrideMode}
    {endpoint : Endpoint}
    (h : overrides.get? endpoint.operation.operationId =
      overrides'.get? endpoint.operation.operationId) :
    compiledAlone overrides mode endpoint = compiledAlone overrides' mode endpoint := by
  rw [compiledAlone, compiledAlone, overrideOf, overrideOf, h]

/-- A build has the methods that the first operation of each method name has when it is compiled by
itself, with its own override only. So the method of a name is the same in two documents with the
same first operation of that name and the same override for it. -/
theorem methods_local [NameStyle] (document : Document) (overrides : Overrides)
    (mode : OverrideMode) :
    (build document overrides mode).methods =
        (firstsOfNames [] document.endpoints).map (compiledAlone overrides mode) ∧
      ∀ (other : Document) (others : Overrides) (name : String),
        firstNamed? other name = firstNamed? document name →
        (∀ e ∈ firstNamed? document name,
          others.get? e.operation.operationId = overrides.get? e.operation.operationId) →
        methodNamed? (build other others mode).methods name =
          methodNamed? (build document overrides mode).methods name := by
  refine ⟨methods_build document overrides mode, fun other others name hfirst hsame => ?_⟩
  rw [methodNamed?_build, methodNamed?_build, hfirst]
  exact Option.map_congr fun e he => compiledAlone_congr (hsame e he)

/-- A document with operations that each have a parameter `id`. -/
def itemDocument (ids : List String) : Document where
  host := none
  basePath := none
  paths := ids.map fun id =>
    ("/" ++ id ++ "/\x7bid\x7d", ⟨none, some ⟨id, none, none,
      [⟨"id", none, false, .path, some "string", none, none⟩], none, []⟩, none, none⟩)

/-- An override that gives the parameter `id` another name. -/
def renameId (key : String) : Override := ⟨[("id", key)], none, none⟩

/-- An operation before it, with an override of its own, does not change the method `getItem`. -/
theorem methods_local_itemDocument :
    letI := usualStyle
    firstNamed? (itemDocument ["put-item", "get-item"]) "getItem" =
        firstNamed? (itemDocument ["get-item"]) "getItem" ∧
      methodNamed? (build (itemDocument ["put-item", "get-item"])
          [("put-item", renameId "target"), ("get-item", renameId "itemId")] .consume).methods
          "getItem" =
        methodNamed? (build (itemDocument ["get-item"]) [("get-item", renameId "itemId")]
          .consume).methods "getItem" := by
  let : NameStyle := usualStyle
  have hput : (methodName "put-item" == "getItem") = false := by decide
  have hget : (methodName "get-item" == "getItem") = true := by decide
  have hfirst : firstNamed? (itemDocument ["put-item", "get-item"]) "getItem" =
      firstNamed? (itemDocument ["get-item"]) "getItem" := by
    simp [firstNamed?, itemDocument, Document.endpoints, PathItem.endpoints, Verb.all,
      PathItem.operation?, hput, hget]
  refine ⟨hfirst, (methods_local _ _ _).2 _ _ _ hfirst fun e he => ?_⟩
  have hid : e.operation.operationId = "get-item" := by
    simp [firstNamed?, itemDocument, Document.endpoints, PathItem.endpoints, Verb.all,
      PathItem.operation?, hget] at he
    simp [← he]
  rw [hid]
  rfl

end TypedClient.Client
