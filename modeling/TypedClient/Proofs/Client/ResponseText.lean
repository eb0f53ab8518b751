import TypedClient.Client.Transliteration
import TypedClient.Proofs.Api.ReadSchemas
import TypedClient.Proofs.Client.CommentEnds
import TypedClient.Proofs.Client.OverrideModes
import TypedClient.Proofs.Client.RequestFields
import TypedClient.Proofs.Schema.NodeType

/-!
# The text of a response type

A response type declares whether a call succeeded and its results, neither of which may
be left out. The type of the results is that of the schema of a success after both its
patches, or any type if there is none. The schema's own description is blanked by the
first patch whatever it is, so a comment on the results has the text of the second patch.
-/

namespace TypedClient.Client

open TypedClient.Api
open TypedClient.Json (lookup)
open TypedClient.Schema (Node fieldType nodeType)
open TypedClient.Script

/-! ### Descriptions of patched schemas -/

theorem description?_ofJson (schema : Json) :
    (Node.ofJson schema).description? = (schema.get? "description").bind Json.asString? := by
  cases schema with
  | object members =>
    have hinfo : (Node.ofJson (.object members)).info = Node.infoOf members := by
      unfold Node.ofJson
      dsimp only
      split
      · split <;> rfl
      · split <;> rfl
      · rfl
    rw [Node.description?, hinfo]
    rfl
  | _ => rfl

/-- The description of a schema is blank after the first patch, whatever it was before. -/
theorem exists_merge_blankDescription (schema : Json) :
    ∃ members, schema.merge Resolver.blankDescription = .object members ∧
      lookup "description" members = some (.string "") := by
  rw [Resolver.blankDescription]
  cases schema with
  | object members =>
    refine ⟨_, Json.merge_object members _, ?_⟩
    have hnames : ([("description", Json.string "")].map Prod.fst).Nodup := List.nodup_singleton _
    rw [Json.lookup_change hnames]
    rfl
  | _ => exact ⟨_, Json.merge_eq_patch rfl _, rfl⟩

/-- The text that a patch gives as a description. -/
def patchText? (patch : Option Json) : Option String :=
  (patch.bind (Json.get? "description")).bind Json.asString?

/-- The description of a schema after both patches is the text of the second, if that is an object
that has one, and blank or none otherwise. -/
theorem description?_patched {patch : Option Json} (h : ∀ p ∈ patch, p.Distinct) (schema : Json) :
    (Node.ofJson (Resolver.patched (schema.merge Resolver.blankDescription) patch)).description?.getD
      "" = (patchText? patch).getD "" := by
  obtain ⟨members, hmerge, hblank⟩ := exists_merge_blankDescription schema
  rw [description?_ofJson, hmerge, patchText?]
  cases patch with
  | none =>
    rw [Resolver.patched, Json.get?, hblank]
    rfl
  | some patch =>
    rw [Resolver.patched, Option.bind_some]
    cases patch with
    | object changes =>
      have hnames := (Json.distinct_object_iff.mp (h _ rfl)).1
      rw [Json.merge_object, Json.get?, Json.get?, Json.lookup_change hnames, hblank]
      cases lookup "description" changes with
      | none => rfl
      | some value =>
        have hvalue : Json.merge ((some (Json.string "")).getD .null) value = value :=
          Json.merge_eq_patch rfl value
        dsimp only
        rw [hvalue]
        cases value <;> rfl
    | _ => rfl

/-- A comment block depends on the text of its description only. -/
theorem commentBlock_congr {a b : Option String} (h : a.getD "" = b.getD "") (level : Nat) :
    commentBlock a level = commentBlock b level := by
  rw [commentBlock, commentBlock, commentBody, commentBody, h]

/-! ### Results -/

/-- The patch for the response of an operation. -/
def answerPatch? (r : Resolver) (operationId : String) : Option Json :=
  (r.overrides.get? operationId).bind Override.responsePatch

theorem distinct_answerPatch?_of_read {bytes : List UInt8} {r : Resolver}
    (hr : Overrides.read bytes = .ok r.overrides) (operationId : String) :
    ∀ patch ∈ answerPatch? r operationId, patch.Distinct :=
  Overrides.distinct_responsePatch hr operationId

/-- Whether the patch for the response of an operation is an object whose description is a text that
is not blank. -/
def GivesText (r : Resolver) (operationId : String) : Prop :=
  ∃ members text, answerPatch? r operationId = some (.object members) ∧
    lookup "description" members = some (.string text) ∧
    ∃ c ∈ text.toList, Text.isBlank c = false

theorem givesText_iff {r : Resolver} {operationId : String} :
    GivesText r operationId ↔
      ∃ c ∈ ((patchText? (answerPatch? r operationId)).getD "").toList, Text.isBlank c = false := by
  constructor
  · rintro ⟨members, text, hpatch, htext, hblank⟩
    rw [hpatch, patchText?, Option.bind_some, Json.get?, htext]
    exact hblank
  · rintro ⟨c, hc, hblank⟩
    cases hp : patchText? (answerPatch? r operationId) with
    | none => simp [hp] at hc
    | some text =>
      rw [hp] at hc
      obtain ⟨value, hvalue, htext⟩ := Option.bind_eq_some_iff.mp hp
      obtain ⟨patch, hpatch, hlookup⟩ := Option.bind_eq_some_iff.mp hvalue
      cases patch with
      | object members =>
        cases value with
        | string content =>
          obtain rfl := Option.some.inj htext
          exact ⟨members, content, hpatch, hlookup, c, hc, hblank⟩
        | _ => simp [Json.asString?] at htext
      | _ => simp [Json.get?] at hlookup

/-- The comment on the results of an operation. -/
def resultsComment (r : Resolver) (operation : Operation) : List String :=
  commentBlock (resultsNode r operation).description? 1

/-- The type of the results of an operation: that of the patched schema of a success, or any type if
there is none. -/
def resultsTree (r : Resolver) (operation : Operation) : TypeTree :=
  match operation.answerSchema? with
  | none => .name "any"
  | some schema => nodeType 0 (.ofJson (r.patchedAnswer operation.operationId schema))

theorem nodeType_resultsNode (r : Resolver) (operation : Operation) :
    nodeType 0 (resultsNode r operation) = resultsTree r operation := by
  rw [resultsNode, resultsTree]
  cases operation.answerSchema? <;> rfl

/-- The comment on the results has the text of the patch, if there is a schema of a success. -/
theorem resultsComment_eq {r : Resolver} {operation : Operation}
    (h : ∀ patch ∈ answerPatch? r operation.operationId, patch.Distinct) :
    resultsComment r operation =
      if operation.answerSchema?.isSome then
        commentBlock (patchText? (answerPatch? r operation.operationId)) 1 else [] := by
  rw [resultsComment, resultsNode]
  cases operation.answerSchema? with
  | none =>
    have hnone : commentBlock none 1 = [] := by decide
    exact hnone
  | some schema =>
    have htext := description?_patched h schema
    dsimp only
    rw [Resolver.patchedAnswer, ← answerPatch?, commentBlock_congr htext]
    rfl

/-- There is a comment on the results if and only if there is a schema of a success and its patch
gives a text. -/
theorem resultsComment_ne_nil_iff {r : Resolver} {operation : Operation}
    (h : ∀ patch ∈ answerPatch? r operation.operationId, patch.Distinct) :
    resultsComment r operation ≠ [] ↔
      operation.answerSchema?.isSome ∧ GivesText r operation.operationId := by
  rw [resultsComment_eq h, givesText_iff]
  split
  · next hsome =>
    rw [ne_eq, commentBlock_eq_nil_iff]
    simp [hsome]
  · next hnone => simp [hnone]

/-! ### The envelope -/

/-- The type of an answer has two fields, and is noted on for its results only. -/
theorem fieldType_answerNode (path : List String) (results : Node) :
    fieldType path (answerNode results) =
      ⟨.record [(⟨none, "success", false⟩, .name "boolean"),
          (⟨results.description?, "results", false⟩,
            (fieldType (path ++ ["results"]) results).value)],
        (fieldType (path ++ ["results"]) results).notes⟩ := by
  have hfields : fieldType path (answerNode results) =
      ⟨.record [(⟨none, "success", false⟩, .name "boolean"),
          (⟨results.description?, "results", false⟩,
            (fieldType (path ++ ["results"]) results).value)],
        [] ++ ((fieldType (path ++ ["results"]) results).notes ++ [])⟩ := rfl
  rw [hfields, List.nil_append, List.append_nil]

theorem nodeType_answerNode (results : Node) :
    nodeType 0 (answerNode results) =
      .record [(⟨"success", false⟩, .name "boolean"), (⟨"results", false⟩, nodeType 0 results)] :=
  rfl

/-- The response type of a name for results. -/
def answerType (name : String) (results : Node) : ResponseType :=
  ⟨name, (fieldType [name] (answerNode results)).value⟩

theorem lines_answerType (name : String) (results : Node) :
    (answerType name results).lines =
      [name ++ " = \x7b", "\tsuccess: boolean;"] ++ commentBlock results.description? 1 ++
        (fieldType [name, "results"] results).value.lines 1 "\tresults: " ";" ++ ["\x7d;"] := by
  have hnone : commentBlock none 0 = [] ∧ commentBlock none 1 = [] := by decide
  have hkeys : keyText "success" = "success" ∧ keyText "results" = "results" := by decide
  have hsuccess : FieldHead.front 1 ⟨none, "success", false⟩ ++ "boolean" ++ ";" =
      "\tsuccess: boolean;" := by
    rw [FieldHead.front, hkeys.1]
    rfl
  have hresults : FieldHead.front 1 ⟨results.description?, "results", false⟩ = "\tresults: " := by
    rw [FieldHead.front, hkeys.2]
    rfl
  have hfields : (answerType name results).type =
      .record [(⟨none, "success", false⟩, .name "boolean"),
        (⟨results.description?, "results", false⟩, (fieldType [name, "results"] results).value)] := by
    rw [answerType, fieldType_answerNode]
    rfl
  have hname : indent 0 ++ name ++ " = " ++ "\x7b" = name ++ " = \x7b" := by
    rw [String.append_assoc, String.append_assoc]
    exact String.empty_append
  rw [ResponseType.lines, aliasLines, hfields, TypeExpr.lines, TypeExpr.fieldLines,
    TypeExpr.fieldLines, TypeExpr.fieldLines, TypeExpr.lines, hresults, hsuccess, hnone.1,
    hnone.2, answerType, hname]
  simp only [List.nil_append, List.append_nil, List.append_assoc, List.cons_append]
  rfl

/-- The text of a response type is one declaration of a record with two members. -/
theorem isDeclaration_answerType_iff {name : String} (hn : isIdentifier name.toList = true)
    (results : Node) (declared : Declared) :
    IsDeclaration (answerType name results).text declared ↔
      declared = .named name (.record [(⟨"success", false⟩, .name "boolean"),
        (⟨"results", false⟩, nodeType 0 results)]) := by
  obtain ⟨htree, hreadable⟩ := Schema.fieldType_spec [name] (answerNode results)
  have hread := isDeclaration_alias 0 none hn hreadable
  rw [htree, nodeType_answerNode] at hread
  exact isDeclaration_iff hread declared

/-- The operation with a method and a path, but no schema for a response. -/
def withoutAnswer (endpoint : Endpoint) : Endpoint :=
  { endpoint with operation := { endpoint.operation with responses := [] } }

/-- Whether the response of what an operation is compiled to declares its results. -/
structure DeclaresResults [NameStyle] (r : Resolver) (endpoint : Endpoint) (c : Compiled) :
    Prop where
  /-- There are two fields, for success and for the results, perhaps with a comment on the results
  between them. -/
  lines : c.method.response.lines =
    [c.method.response.name ++ " = \x7b", "\tsuccess: boolean;"] ++
      resultsComment r endpoint.operation ++
      (fieldType [c.method.response.name, "results"] (resultsNode r endpoint.operation)).value.lines
        1 "\tresults: " ";" ++ ["\x7d;"]
  /-- Neither may be left out, and the results have the type of their schema. -/
  text : ∀ declared, IsDeclaration c.method.response.text declared ↔
    declared = .named c.method.response.name (.record [
      (⟨"success", false⟩, .name "boolean"),
      (⟨"results", false⟩, resultsTree r endpoint.operation)])
  /-- The notes on the results are the only warnings that the operation would not have without a
  schema for them. -/
  warned : ∃ front back, c.warnings =
      front ++ (fieldType [c.method.response.name, "results"]
        (resultsNode r endpoint.operation)).notes.map
          (Warning.ofNote endpoint.operation.operationId) ++ back ∧
    (compile r (withoutAnswer endpoint)).1.warnings = front ++ back
  /-- Without a schema nothing is noted. -/
  silent : endpoint.operation.answerSchema? = none → ∀ path,
    fieldType path (resultsNode r endpoint.operation) = .plain .any
  /-- The comment has the text of the patch. -/
  comment : resultsComment r endpoint.operation =
    if endpoint.operation.answerSchema?.isSome then
      commentBlock (patchText? (answerPatch? r endpoint.operation.operationId)) 1 else []
  /-- There is one exactly if there is a schema and its patch gives a text. -/
  commented : resultsComment r endpoint.operation ≠ [] ↔
    endpoint.operation.answerSchema?.isSome ∧ GivesText r endpoint.operation.operationId

section Response

variable [NameStyle] (r : Resolver) (endpoint : Endpoint)

/-- The response of an operation is the type of an answer with its results. -/
theorem compile_response :
    (compile r endpoint).1.method.response =
      answerType (compile r endpoint).1.method.response.name
        (resultsNode r endpoint.operation) := by
  rw [compile, answerType]
  dsimp only
  rw [resultsNode_congr (goneOn_resolveKeys r _ _).overrides]

/-- The warnings on types are those on arguments, on the results and on the body, in that order;
only those on the results depend on the responses of the operation. -/
theorem exists_warnings_compile :
    ∃ front back, (compile r endpoint).1.warnings =
        front ++ (fieldType [(compile r endpoint).1.method.response.name, "results"]
          (resultsNode r endpoint.operation)).notes.map
            (Warning.ofNote endpoint.operation.operationId) ++ back ∧
      (compile r (withoutAnswer endpoint)).1.warnings = front ++ back := by
  have hleft := resultsNode_congr
    (goneOn_resolveKeys r endpoint.operation.operationId endpoint.operation.parameters).overrides
  have hnone (s : Resolver) : resultsNode s (withoutAnswer endpoint).operation = .named "any" := rfl
  rw [compile, compile]
  dsimp only
  rw [fieldType_answerNode, fieldType_answerNode, hleft, hnone]
  simp only [List.map_append, List.append_assoc]
  exact ⟨_, _, rfl, rfl⟩

end Response

/-- The response of every operation declares its results. -/
theorem declaresResults_compile [NameStyle] {r : Resolver} {endpoint : Endpoint}
    (h : ∀ patch ∈ answerPatch? r endpoint.operation.operationId, patch.Distinct) :
    DeclaresResults r endpoint (compile r endpoint).1 where
  lines := by
    rw [compile_response]
    exact lines_answerType _ _
  text := by
    intro declared
    have hname : isIdentifier (compile r endpoint).1.method.response.name.toList = true := by
      rw [compile_response_name]
      exact isIdentifier_responseNameFor _
    rw [compile_response, ← nodeType_resultsNode]
    exact isDeclaration_answerType_iff hname _ declared
  warned := exists_warnings_compile r endpoint
  silent := by
    intro hnone path
    rw [resultsNode, hnone]
    rfl
  comment := resultsComment_eq h
  commented := resultsComment_ne_nil_iff h

/-- An operation that lists items, with responses. -/
def listEndpoint (responses : List (String × Content)) : Endpoint where
  path := "/items"
  verb := .get
  operation := ⟨"list-items", none, none, [], none, responses⟩

/-- A patch that describes its response. -/
def listOverrides : Overrides :=
  [("list-items", ⟨[], none, some (.object [("description", .string "All items.")])⟩)]

/-- The patch for a schema with another description describes the results. -/
theorem listEndpoint_declares_results :
    letI := usualStyle
    let endpoint := listEndpoint [("200", [("application/json", some (.object
      [("type", .string "array"), ("description", .string "A page of items."),
        ("items", .object [("type", .string "string")])]))])]
    let r : Resolver := .new listOverrides .consume
    (∀ patch ∈ answerPatch? r endpoint.operation.operationId, patch.Distinct) ∧
    DeclaresResults r endpoint (compile r endpoint).1 ∧
    (compile r endpoint).1.method.response.lines =
      ["HighSystemsResponseListItems = \x7b", "\tsuccess: boolean;", "\t/**", "\t * All items.",
        "\t */", "\tresults: string[];", "\x7d;"] := by
  let : NameStyle := usualStyle
  intro endpoint r
  have hpatch : ∀ patch ∈ answerPatch? r endpoint.operation.operationId, patch.Distinct := by
    rintro patch hp
    obtain rfl := Option.some.inj (show some _ = some patch from hp)
    simp [Json.Distinct, Json.DistinctMembers]
  exact ⟨hpatch, declaresResults_compile hpatch, by decide⟩

/-- Without a schema the same patch describes nothing. -/
theorem listEndpoint_without_schema_not_commented :
    letI := usualStyle
    let endpoint := listEndpoint []
    let r : Resolver := .new listOverrides .consume
    ¬(resultsComment r endpoint.operation ≠ [] ↔ GivesText r endpoint.operation.operationId) ∧
    (compile r endpoint).1.method.response.lines =
      ["HighSystemsResponseListItems = \x7b", "\tsuccess: boolean;", "\tresults: any;",
        "\x7d;"] := by
  let : NameStyle := usualStyle
  intro endpoint r
  have hgives : GivesText r endpoint.operation.operationId :=
    ⟨_, _, rfl, rfl, 'A', by decide, by decide⟩
  have hcomment : resultsComment r endpoint.operation = [] := by decide
  exact ⟨fun h => h.mpr hgives hcomment, by decide⟩

end TypedClient.Client
