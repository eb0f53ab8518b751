import TypedClient.Proofs.Api.SeenDocument
import TypedClient.Proofs.Client.Fresh
import TypedClient.Proofs.Schema.Seen
import TypedClient.Client.Generate

/-!
# Clients are made of what is seen

A client for a document is the client for what is seen of it (`generate_seen`), if no entry is
hidden whose media type announces JSON: each part of a method is made of what is seen of the
part of the document that it is for.
-/

namespace TypedClient.Api

open TypedClient.Json (lookup)

/-- What is seen of an operation with its verb and path. -/
def Endpoint.seen (hidden : String → Bool) (endpoint : Endpoint) : Endpoint :=
  { endpoint with operation := endpoint.operation.seen hidden }

variable {hidden : String → Bool}

theorem PathItem.operation?_seen (item : PathItem) (verb : Verb) :
    (item.seen hidden).operation? verb = (item.operation? verb).map (Operation.seen hidden) := by
  cases verb <;> rfl

theorem PathItem.endpoints_seen (path : String) (item : PathItem) :
    (item.seen hidden).endpoints path = (item.endpoints path).map (Endpoint.seen hidden) := by
  rw [endpoints, endpoints, List.map_filterMap]
  refine List.filterMap_congr fun verb _ => ?_
  rw [operation?_seen, Option.map_map, Option.map_map]
  rfl

theorem Document.endpoints_seen (document : Document) :
    (document.seen hidden).endpoints = document.endpoints.map (Endpoint.seen hidden) := by
  rw [endpoints, endpoints, seen, List.flatMap_map, List.map_flatMap]
  exact List.flatMap_congr fun entry _ => PathItem.endpoints_seen entry.1 entry.2

/-! ### Schemas -/

theorem lookup_filter_map {α β : Type} {name : String} (f : α → β)
    (members : List (String × α)) :
    lookup name ((members.filter fun m => m.1 == name).map fun m => (m.1, f m.2)) =
      (lookup name members).map f := by
  induction members with
  | nil => rfl
  | cons m rest ih =>
    rw [lookup]
    by_cases hk : m.1 = name
    · rw [List.filter_cons_of_pos (by simpa using hk), List.map_cons, lookup, if_pos hk, if_pos hk]
      rfl
    · rw [List.filter_cons_of_neg (by simpa using hk), if_neg hk, ih]

section Announced

variable (h : ∀ type, hidden type = true → announcesJson type = false)
include h

theorem Content.announcedSchema?_seen (content : Content) :
    (content.seen hidden).announcedSchema? = content.announcedSchema?.map View.schema.seen := by
  rw [announcedSchema?, announcedSchema?]
  induction content with
  | nil => rfl
  | cons entry rest ih =>
    rw [seen] at ih ⊢
    by_cases hj : announcesJson entry.1 = true
    · have hshown : hidden entry.1 = false := by
        by_contra hne
        simp [h entry.1 (by simpa using hne)] at hj
      rw [List.filter_cons_of_pos (by simpa using hshown), List.map_cons,
        List.find?_cons_of_pos (by exact hj), List.find?_cons_of_pos (by exact hj)]
      rfl
    · rw [List.find?_cons_of_neg (by exact hj), ← ih]
      by_cases hshown : hidden entry.1 = true
      · rw [List.filter_cons_of_neg (by simpa using hshown)]
      · rw [List.filter_cons_of_pos (by simpa using hshown), List.map_cons,
          List.find?_cons_of_neg (by exact hj)]

theorem Operation.requestSchema?_seen (operation : Operation) :
    (operation.seen hidden).requestSchema? = operation.requestSchema?.map View.schema.seen := by
  rw [requestSchema?, requestSchema?, seen]
  cases operation.requestBody with
  | none => rfl
  | some content => exact content.announcedSchema?_seen h

theorem Operation.answerSchema?_seen (operation : Operation) :
    (operation.seen hidden).answerSchema? = operation.answerSchema?.map View.schema.seen := by
  rw [answerSchema?, answerSchema?, seen]
  dsimp only
  rw [lookup_filter_map]
  cases lookup successCode operation.responses with
  | none => rfl
  | some content => exact content.announcedSchema?_seen h

end Announced

end TypedClient.Api

namespace TypedClient.Client

open TypedClient.Api
open TypedClient.Schema (Node Noted)

variable {hidden : String → Bool}

/-! ### Parameters -/

theorem parameterNode_seen (p : Parameter) : parameterNode p.seen = parameterNode p := by
  have hnode : Node.ofJson p.seen.declaredSchema = Node.ofJson p.declaredSchema := by
    rw [Parameter.declaredSchema, Parameter.declaredSchema, Parameter.seen]
    cases p.schema with
    | none => rfl
    | some schema => exact Node.ofJson_seen schema
  rw [parameterNode, parameterNode, hnode, Parameter.seen]

theorem parameterField_seen (key : String) (p : Parameter) :
    parameterField key p.seen = parameterField key p := by
  rw [parameterField, parameterField, parameterNode_seen]
  rfl

/-- What is seen of a parameter under its key. -/
def seenEntry (entry : String × Parameter) : String × Parameter := (entry.1, entry.2.seen)

theorem resolveKeys_seen (r : Resolver) (id : String) (parameters : List Parameter) :
    resolveKeys r id (parameters.map Parameter.seen) =
      ((resolveKeys r id parameters).1.map seenEntry, (resolveKeys r id parameters).2) := by
  induction parameters generalizing r with
  | nil => rfl
  | cons p rest ih =>
    rw [List.map_cons, resolveKeys, resolveKeys]
    dsimp only
    rw [ih]
    rfl

section Keyed

variable (keyed : List (String × Parameter))

theorem keepFresh_seen (taken : List String) :
    keepFresh taken (keyed.map seenEntry) = (keepFresh taken keyed).map seenEntry := by
  have hfresh := freshness_map (fun entry : String × Parameter => entry.2.seen) taken keyed
  rw [keepFresh_eq_filter, keepFresh_eq_filter]
  unfold seenEntry
  rw [hfresh, List.filter_map, List.map_map, List.map_map]
  rfl

theorem leftOut_seen (taken : List String) :
    leftOut taken (keyed.map seenEntry) = leftOut taken keyed := by
  have hfresh := freshness_map (fun entry : String × Parameter => entry.2.seen) taken keyed
  rw [leftOut_eq_filter, leftOut_eq_filter]
  unfold seenEntry
  rw [hfresh, List.filter_map, List.map_map]
  rfl

theorem map_fst_seen : (keyed.map seenEntry).map Prod.fst = keyed.map Prod.fst := by
  rw [List.map_map]
  rfl

theorem map_parameterField_seen :
    ((keyed.map seenEntry).map fun (key, p) => parameterField key p) =
      keyed.map fun (key, p) => parameterField key p := by
  rw [List.map_map]
  exact List.map_congr_left fun entry _ => parameterField_seen entry.1 entry.2

theorem makeArguments_seen [NameStyle] :
    makeArguments (keyed.map seenEntry) = makeArguments keyed := by
  rw [makeArguments, makeArguments, map_fst_seen, List.zip_map_left, List.map_map]
  refine List.map_congr_left fun entry _ => ?_
  obtain ⟨⟨key, p⟩, binding⟩ := entry
  exact congrArg (fun node : Node => Argument.mk p.name key binding node.description?)
    (parameterNode_seen p)

end Keyed

/-! ### Operations -/

section Announced

variable (h : ∀ type, hidden type = true → announcesJson type = false)
include h

theorem resultsNode_seen (r : Resolver) (operation : Operation) :
    resultsNode r (operation.seen hidden) = resultsNode r operation := by
  rw [resultsNode, resultsNode, operation.answerSchema?_seen h]
  cases operation.answerSchema? with
  | none => rfl
  | some schema =>
    exact Node.ofJson_patched (View.seen_merge (View.schema.seen_seen schema) _) _

theorem bodyPart_seen (r : Resolver) (operation : Operation) (name : String)
    (taken : List String) :
    bodyPart r (operation.seen hidden) name taken = bodyPart r operation name taken := by
  rw [bodyPart, bodyPart, operation.requestSchema?_seen h]
  cases operation.requestSchema? with
  | none => rfl
  | some schema =>
    have hnode : Node.ofJson (r.patchedBody operation.operationId (View.schema.seen schema)) =
        Node.ofJson (r.patchedBody operation.operationId schema) :=
      Node.ofJson_patched (View.schema.seen_seen schema) _
    rw [Option.map_some]
    dsimp only [Operation.seen]
    rw [hnode]

/-- An operation is compiled to what is made of what is seen of it. -/
theorem compile_seen [NameStyle] (r : Resolver) (endpoint : Endpoint) :
    compile r (endpoint.seen hidden) = compile r endpoint := by
  have hkeyed := resolveKeys_seen r endpoint.operation.operationId endpoint.operation.parameters
  have hoperation : (endpoint.seen hidden).operation = endpoint.operation.seen hidden := rfl
  have hid : (endpoint.operation.seen hidden).operationId = endpoint.operation.operationId := rfl
  have hparameters : (endpoint.operation.seen hidden).parameters =
      endpoint.operation.parameters.map Parameter.seen := rfl
  rw [compile, compile]
  dsimp only
  rw [hoperation, hid, hparameters, hkeyed]
  dsimp only
  rw [keepFresh_seen, leftOut_seen, map_parameterField_seen, makeArguments_seen, map_fst_seen,
    resultsNode_seen h, bodyPart_seen h, List.any_map, List.countP_map]
  rfl

/-- A build goes on with an operation as with what is seen of it. -/
theorem Build.add_seen [NameStyle] (b : Build) (endpoint : Endpoint) :
    b.add (endpoint.seen hidden) = b.add endpoint := by
  have hid : (endpoint.seen hidden).operation.operationId = endpoint.operation.operationId := rfl
  rw [Build.add, Build.add, hid, compile_seen h]

theorem build_seen [NameStyle] (document : Document) (overrides : Overrides) (mode : OverrideMode) :
    build (document.seen hidden) overrides mode = build document overrides mode := by
  have hunused : unusedOverrides overrides (document.endpoints.map (Endpoint.seen hidden)) =
      unusedOverrides overrides document.endpoints := by
    simp only [unusedOverrides, List.any_map]
    rfl
  have hadd : (fun b (endpoint : Endpoint) => b.add (endpoint.seen hidden)) = Build.add :=
    funext fun b => funext fun endpoint => b.add_seen h endpoint
  have hpaths : (document.seen hidden).paths.length = document.paths.length :=
    List.length_map ..
  rw [build, build, document.endpoints_seen, hunused, hpaths, List.foldl_map, hadd]

/-- A client for a document is made of what is seen of it. -/
theorem generate_seen [NameStyle] (document : Document) (template : Template)
    (overrides : Overrides) (mode : OverrideMode) :
    generate (document.seen hidden) template overrides mode =
      generate document template overrides mode := by
  rw [generate, generate, build_seen h]

end Announced

end TypedClient.Client
