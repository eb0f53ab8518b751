import TypedClient.Client.Transliteration
import TypedClient.Proofs.Api.ReadSchemas
import TypedClient.Proofs.Client.FieldOutcomes
import TypedClient.Proofs.Client.Locality
import TypedClient.Proofs.Client.PathParameters
import TypedClient.Proofs.Client.RequestText
import TypedClient.Proofs.Schema.NodeType
import TypedClient.Proofs.Schema.Properties

/-!
# What becomes of the fields that are asked for

Every parameter and every property of a request body asks for a field of the request.
A field is declared if its key is neither reserved nor that of a field before it, and is
reported otherwise, so that none is lost and none counts twice: what is declared and
what is reported are the two parts of one list, each in its order. That the properties
have different names is so of every body that is read, and of every patch for it.
-/

namespace TypedClient.Client

open TypedClient.Api
open TypedClient.Schema (Node)
open TypedClient.Script

/-! ### Fields that are asked for -/

/-- The fields for the properties of the request body, whether they are declared or not. A body
that is no object with properties has none. -/
def bodyFields (r : Resolver) (operation : Operation) : List Field :=
  match operation.requestSchema? with
  | none => []
  | some schema =>
    match Node.ofJson (r.patchedBody operation.operationId schema) with
    | .object _ properties required =>
      properties.map fun p => (p.2.field p.1 (required.contains p.1)).value
    | _ => []

/-- The fields that an operation asks for: one for each parameter, under its key, then those for
the properties of its body. -/
def askedFields (r : Resolver) (operation : Operation) : List Field :=
  ((resolveKeys r operation.operationId operation.parameters).1.map fun k =>
    (parameterField k.1 k.2).value) ++ bodyFields r operation

/-- Whether no object within the schema of the request body, and within its patch, has two members
of one name. -/
structure HasDistinctBody (r : Resolver) (operation : Operation) : Prop where
  /-- The schema has none. -/
  schema : ∀ schema ∈ operation.requestSchema?, schema.Distinct
  /-- The patch has none. -/
  patch : ∀ patch ∈ (r.overrides.get? operation.operationId).bind Override.requestPatch,
    patch.Distinct

/-- The operation and the key of a field that is reported as left out. -/
def Warning.duplicateField? : Warning → Option (String × String)
  | .duplicateField id key => some (id, key)
  | _ => none

/-- Whether a method declares the fields with one outcome, and its warnings report those with the
other, for an operation. -/
structure Compiled.Conserves (c : Compiled) (id : String) (outcome : List (Field × Bool)) :
    Prop where
  /-- The request has the fields that are declared, and those for the call. -/
  fields : c.method.request.fields = declaredFields outcome ++ RequestType.callFields
  /-- The others are reported by their keys. -/
  reported : c.warnings.filterMap Warning.duplicateField? =
    (undeclaredFields outcome).map fun f => (id, f.key)
  /-- No two fields of the request have one key. -/
  nodup : (c.method.request.fields.map Field.key).Nodup
  /-- Each field is written as a property of its key. -/
  written : ∀ f ∈ c.method.request.fields, ∀ declared,
    IsDeclaration ("\n".intercalate (f.lines 1)) declared ↔
      declared = .property f.head.member f.type.tree
  /-- All fields together are written as the members of the type, if there are no others. -/
  text : ¬ c.method.request.AllowsAnyKey → ∀ declared,
    IsDeclaration c.method.request.text declared ↔
      declared = .named c.method.request.name
        (.record (c.method.request.fields.map Field.member))

/-! ### Parameters -/

section Parameters

variable (keyed : List (String × Parameter))

/-- The fields for parameters under their keys. -/
def parameterEntries : List (String × Field) :=
  keyed.map fun k => (k.1, (parameterField k.1 k.2).value)

theorem outcomeOf_parameterEntries :
    outcomeOf (parameterEntries keyed) =
      (freshness reservedKeys keyed).map fun e =>
        ((parameterField e.1.1 e.1.2).value, e.2) := by
  rw [outcomeOf, parameterEntries, freshness_map fun k => (parameterField k.1 k.2).value,
    List.map_map]
  rfl

/-- The parameters that are kept are declared. -/
theorem declaredFields_parameterEntries :
    declaredFields (outcomeOf (parameterEntries keyed)) =
      (keepFresh reservedKeys keyed).map fun k => (parameterField k.1 k.2).value := by
  rw [declaredFields, outcomeOf_parameterEntries, keepFresh_eq_filter, List.filter_map,
    List.map_map, List.map_map]
  rfl

theorem map_key_undeclaredFields_parameterEntries :
    (undeclaredFields (outcomeOf (parameterEntries keyed))).map Field.key =
      leftOut reservedKeys keyed := by
  rw [undeclaredFields, outcomeOf_parameterEntries, leftOut_eq_filter, List.filter_map,
    List.map_map, List.map_map]
  rfl

end Parameters

/-! ### Bodies -/

/-- The properties of a body are declared unless their key is taken, and are left out otherwise. -/
theorem bodyPart_eq_filter (r : Resolver) (operation : Operation) (name : String)
    (taken : List String) :
    (bodyPart r operation name taken).fields.list =
        (bodyFields r operation).filter (fun f => f.key ∉ taken) ∧
      (bodyPart r operation name taken).skipped =
        ((bodyFields r operation).filter fun f => f.key ∈ taken).map Field.key := by
  rw [bodyPart, bodyFields]
  cases operation.requestSchema? with
  | none => exact ⟨rfl, rfl⟩
  | some schema =>
    dsimp only
    cases Node.ofJson (r.patchedBody operation.operationId schema) with
    | object info properties required =>
      dsimp only
      rw [BodyFields.list, Schema.fields_eq_map, List.filter_map, List.filter_map, List.map_map]
      exact ⟨rfl, rfl⟩
    | _ => exact ⟨rfl, rfl⟩

theorem bodyPart_congr {r r' : Resolver} (h : r'.overrides = r.overrides) :
    bodyPart r' = bodyPart r := by
  have hpatched : r'.patchedBody = r.patchedBody := by
    funext id schema
    rw [Resolver.patchedBody, Resolver.patchedBody, h]
  funext operation name taken
  rw [bodyPart, bodyPart, hpatched]

/-- What is read, from a document and from overrides, has no object with two members of one name. -/
theorem hasDistinctBody_of_read {bytes patches : List UInt8} {document : Document} {r : Resolver}
    (hd : Document.read bytes = .ok document) (hr : Overrides.read patches = .ok r.overrides)
    {endpoint : Endpoint} (he : endpoint ∈ document.endpoints) :
    HasDistinctBody r endpoint.operation where
  schema := Document.distinct_requestSchema? hd he
  patch := Overrides.distinct_requestPatch hr _

/-- The properties of a body ask for fields of different keys. -/
theorem nodup_keys_bodyFields {r : Resolver} {operation : Operation}
    (h : HasDistinctBody r operation) : ((bodyFields r operation).map Field.key).Nodup := by
  rw [bodyFields]
  cases hs : operation.requestSchema? with
  | none => exact List.nodup_nil
  | some schema =>
    have hschema := h.schema schema hs
    have hpatched : (r.patchedBody operation.operationId schema).Distinct := by
      rw [Resolver.patchedBody]
      cases hp : (r.overrides.get? operation.operationId).bind Override.requestPatch with
      | none => exact hschema
      | some patch => exact hschema.merge (h.patch patch hp)
    dsimp only
    cases hn : Node.ofJson (r.patchedBody operation.operationId schema) with
    | object info properties required =>
      have hnodup := Node.nodup_keys_of_ofJson hpatched hn
      rw [List.map_map]
      exact hnodup
    | _ => exact List.nodup_nil

/-! ### Requests -/

section Compile

variable (r : Resolver) (endpoint : Endpoint)

theorem bodyPart_resolveKeys :
    bodyPart (resolveKeys r endpoint.operation.operationId endpoint.operation.parameters).2 =
      bodyPart r :=
  bodyPart_congr (goneOn_resolveKeys r _ _).overrides

/-- The fields that are reported are the parameters, then the properties, that are left out. -/
theorem filterMap_duplicateField?_warnings [NameStyle] :
    (compile r endpoint).1.warnings.filterMap Warning.duplicateField? =
      (leftOut reservedKeys
          (resolveKeys r endpoint.operation.operationId endpoint.operation.parameters).1 ++
        (bodyPart r endpoint.operation
          (requestNameFor (typeStem (methodName endpoint.operation.operationId)))
          ((keptParameters r endpoint.operation).map Prod.fst ++ reservedKeys)).skipped).map
        fun key => (endpoint.operation.operationId, key) := by
  have hnotes (notes : List Schema.Note) :
      (notes.map (Warning.ofNote endpoint.operation.operationId)).filterMap
        Warning.duplicateField? = [] := by
    simp [Warning.ofNote, Warning.duplicateField?]
  have hunknown (names : List String) :
      (names.map (Warning.unknownPlaceholder endpoint.operation.operationId)).filterMap
        Warning.duplicateField? = [] := by
    simp [Warning.duplicateField?]
  have hkeys (keys : List String) :
      (keys.map (Warning.duplicateField endpoint.operation.operationId)).filterMap
        Warning.duplicateField? = keys.map fun key => (endpoint.operation.operationId, key) := by
    rw [List.filterMap_map, ← List.filterMap_eq_map]
    rfl
  rw [← bodyPart_resolveKeys r endpoint, compile, keptParameters]
  dsimp only
  rw [List.filterMap_append, List.filterMap_append, hnotes, hunknown, hkeys, List.nil_append,
    List.append_nil]

end Compile

/-! ### Conservation -/

/-- The keys that the parameters leave free for properties are those that no parameter has, whether
it is kept or not. -/
theorem mem_keys_keptParameters_append (r : Resolver) (operation : Operation) (key : String) :
    key ∈ (keptParameters r operation).map Prod.fst ++ reservedKeys ↔
      key ∈ (resolveKeys r operation.operationId operation.parameters).1.map Prod.fst ++
        reservedKeys := by
  rw [List.mem_append, List.mem_append, keptParameters, mem_keys_keepFresh]
  tauto

/-- The outcome of all fields that an operation asks for is that of its parameters, and that of the
properties of its body when the keys of the parameters are taken. -/
theorem outcomeOf_askedFields {r : Resolver} {operation : Operation}
    (h : HasDistinctBody r operation) :
    outcomeOf ((askedFields r operation).map fun f => (f.key, f)) =
      outcomeOf (parameterEntries (resolveKeys r operation.operationId operation.parameters).1) ++
        (bodyFields r operation).map fun f =>
          (f, decide (f.key ∉ (keptParameters r operation).map Prod.fst ++ reservedKeys)) := by
  have hentries : (askedFields r operation).map (fun f => (f.key, f)) =
      parameterEntries (resolveKeys r operation.operationId operation.parameters).1 ++
        (bodyFields r operation).map fun f => (f.key, f) := by
    rw [askedFields, List.map_append, List.map_map]
    rfl
  have hkeys : (parameterEntries
      (resolveKeys r operation.operationId operation.parameters).1).map Prod.fst =
        (resolveKeys r operation.operationId operation.parameters).1.map Prod.fst := by
    rw [parameterEntries, List.map_map]
    rfl
  rw [hentries, outcomeOf, freshness_append, List.map_append, ← outcomeOf, hkeys,
    outcome_of_nodup (nodup_keys_bodyFields h)]
  -- The keys of all parameters are taken here, but only those of the kept ones in the body.
  simp only [← mem_keys_keptParameters_append]

/-- Each parameter has a key, in order. -/
theorem map_snd_resolveKeys (r : Resolver) (id : String) (parameters : List Parameter) :
    (resolveKeys r id parameters).1.map Prod.snd = parameters := by
  induction parameters generalizing r with
  | nil => rfl
  | cons p rest ih => rw [resolveKeys, List.map_cons, ih]

theorem length_askedFields (r : Resolver) (operation : Operation) :
    (askedFields r operation).length =
      operation.parameters.length + (bodyFields r operation).length := by
  have hkeyed := congrArg List.length
    (map_snd_resolveKeys r operation.operationId operation.parameters)
  rw [List.length_map] at hkeyed
  rw [askedFields, List.length_append, List.length_map, hkeyed]

/-- Every field that is asked for has a type that can be read. -/
theorem isReadable_of_mem_askedFields {r : Resolver} {operation : Operation} {f : Field}
    (h : f ∈ askedFields r operation) : f.type.IsReadable := by
  rcases List.mem_append.mp h with h | h
  · obtain ⟨k, -, rfl⟩ := List.mem_map.mp h
    exact (Schema.fieldType_spec [k.1] (parameterNode k.2)).2
  · rw [bodyFields] at h
    cases hs : operation.requestSchema? with
    | none => simp [hs] at h
    | some schema =>
      rw [hs] at h
      dsimp only at h
      split at h
      · obtain ⟨p, -, rfl⟩ := List.mem_map.mp h
        exact (Schema.fieldType_spec [p.1] p.2).2
      · exact absurd h List.not_mem_nil

theorem isReadable_of_mem_callFields {f : Field} (h : f ∈ RequestType.callFields) :
    f.type.IsReadable := by
  rcases List.mem_cons.mp h with rfl | h
  · show isBinding "AxiosRequestConfig" = true
    decide
  · obtain rfl := List.mem_singleton.mp h
    show isBinding "boolean" = true
    decide

section Conservation

variable [NameStyle] {r : Resolver} {endpoint : Endpoint}

/-- The request has the fields that are declared, and those for the call. -/
theorem fields_compile (h : HasDistinctBody r endpoint.operation) :
    (compile r endpoint).1.method.request.fields =
      declaredFields (outcomeOf ((askedFields r endpoint.operation).map fun f => (f.key, f))) ++
        RequestType.callFields := by
  rw [RequestType.fields_eq_append, compile_request_arguments, compile_request_body,
    bodyPart_resolveKeys, (bodyPart_eq_filter _ _ _ _).1, outcomeOf_askedFields h,
    declaredFields_append, declaredFields_parameterEntries, declaredFields_map, keptParameters]

/-- The warnings report the fields that are not declared. -/
theorem duplicateFields_compile (h : HasDistinctBody r endpoint.operation) :
    (compile r endpoint).1.warnings.filterMap Warning.duplicateField? =
      (undeclaredFields
        (outcomeOf ((askedFields r endpoint.operation).map fun f => (f.key, f)))).map
          fun f => (endpoint.operation.operationId, f.key) := by
  have hpairs (fields : List Field) :
      fields.map (fun f => (endpoint.operation.operationId, f.key)) =
        (fields.map Field.key).map fun key => (endpoint.operation.operationId, key) := by
    rw [List.map_map]
    rfl
  have hnot : ∀ taken : List String, (fun f : Field => !decide (f.key ∉ taken)) =
      fun f => decide (f.key ∈ taken) := by
    intro taken
    funext f
    simp
  rw [filterMap_duplicateField?_warnings, (bodyPart_eq_filter _ _ _ _).2, outcomeOf_askedFields h,
    undeclaredFields_append, undeclaredFields_map, hpairs, List.map_append (f := Field.key),
    map_key_undeclaredFields_parameterEntries, hnot]

/-- No two fields of a request have one key. -/
theorem nodup_keys_fields_compile (h : HasDistinctBody r endpoint.operation) :
    ((compile r endpoint).1.method.request.fields.map Field.key).Nodup := by
  have hcall : RequestType.callFields.map Field.key = reservedKeys := rfl
  rw [fields_compile h, List.map_append, map_key_declaredFields_outcomeOf, hcall,
    List.nodup_append]
  refine ⟨nodup_keys_keepFresh _ _, by decide, ?_⟩
  rintro key hkey other hreserved rfl
  exact (mem_keys_keepFresh.mp hkey).1 hreserved

/-- Every parameter and every property of the body of an operation, in this order, is either
declared as one field of the request, before the two for the call, or reported by one warning with
its key, so that the numbers add up. Of those with one key the first is declared, unless the key is
reserved, so that the fields have different keys; and these fields are what is read in the text of
the request type. -/
theorem compile_conserves_fields (r : Resolver) (endpoint : Endpoint)
    (h : HasDistinctBody r endpoint.operation) :
    ∃ outcome, IsOutcome (askedFields r endpoint.operation) outcome ∧
      (compile r endpoint).1.Conserves endpoint.operation.operationId outcome ∧
      endpoint.operation.parameters.length + (bodyFields r endpoint.operation).length + 2 =
        (compile r endpoint).1.method.request.fields.length +
          ((compile r endpoint).1.warnings.filterMap Warning.duplicateField?).length := by
  have hfields := fields_compile h
  have hreported := duplicateFields_compile h
  have hreadable : ∀ f ∈ (compile r endpoint).1.method.request.fields, f.type.IsReadable := by
    intro f hf
    rw [hfields] at hf
    rcases List.mem_append.mp hf with hf | hf
    · have hasked := mem_of_mem_declaredFields hf
      rw [(isOutcome_outcomeOf _).fields] at hasked
      exact isReadable_of_mem_askedFields hasked
    · exact isReadable_of_mem_callFields hf
  refine ⟨_, isOutcome_outcomeOf _, ?_, ?_⟩
  · constructor
    · exact hfields
    · exact hreported
    · exact nodup_keys_fields_compile h
    · intro f hf
      exact isDeclaration_iff (isDeclaration_field 1 (hreadable f hf))
    · intro hclosed
      refine RequestType.isDeclaration_text_iff hclosed ?_ hreadable
      rw [compile_request_name]
      exact isIdentifier_requestNameFor _
  · have hcall : RequestType.callFields.length = 2 := rfl
    have houtcome := congrArg List.length
      (isOutcome_outcomeOf (askedFields r endpoint.operation)).fields
    rw [List.length_map, length_outcome, length_askedFields] at houtcome
    rw [hfields, hreported, List.length_append, List.length_map]
    omega

end Conservation

/-- An operation with a parameter of a reserved key and a body one of whose properties has the key
of a parameter. -/
def editEndpoint : Endpoint where
  path := "/item/\x7bid\x7d"
  verb := .post
  operation :=
    { operationId := "edit-item"
      summary := none
      description := none
      parameters :=
        [⟨"limit", none, false, .query, some "integer", none, none⟩,
          ⟨"requestOptions", none, false, .header, some "string", none, none⟩,
          ⟨"offset", none, false, .query, some "integer", none, none⟩, idParameter .path]
      requestBody := some [("application/json", some (.object [("type", .string "object"),
        ("properties", .object [("id", .object [("type", .string "integer")]),
          ("first-name", .object [("type", .string "string")])]),
        ("required", .array [.string "first-name"])]))]
      responses := [] }

/-- Overrides that give two parameters of that operation one key, and its body two more properties,
one of a reserved key. -/
def editOverrides : Overrides :=
  [("edit-item", ⟨[("offset", "limit")],
    some (.object [("properties", .object [("returnAxios", .object [("type", .string "boolean")]),
      ("note", .object [("type", .string "string")])])]), none⟩)]

/-- Four of its eight fields are declared, and the others are reported. -/
theorem editEndpoint_conserves_fields :
    letI := usualStyle
    HasDistinctBody (.new editOverrides .consume) editEndpoint.operation ∧
    (compile (.new editOverrides .consume) editEndpoint).1.method.request.fields.map Field.key =
      ["limit", "id", "first-name", "note", "requestOptions", "returnAxios"] ∧
    (compile (.new editOverrides .consume) editEndpoint).1.warnings.filterMap
        Warning.duplicateField? =
      [("edit-item", "requestOptions"), ("edit-item", "limit"), ("edit-item", "id"),
        ("edit-item", "returnAxios")] ∧
    ∃ outcome,
      IsOutcome (askedFields (.new editOverrides .consume) editEndpoint.operation) outcome ∧
      (compile (.new editOverrides .consume) editEndpoint).1.Conserves "edit-item" outcome := by
  let : NameStyle := usualStyle
  have hbody : HasDistinctBody (.new editOverrides .consume) editEndpoint.operation := by
    constructor
    · rintro schema hs
      obtain rfl := Option.some.inj (show some _ = some schema from hs)
      simp [Json.Distinct, Json.DistinctMembers, Json.DistinctItems]
    · rintro patch hp
      obtain rfl := Option.some.inj (show some _ = some patch from hp)
      simp [Json.Distinct, Json.DistinctMembers]
  obtain ⟨outcome, houtcome, hconserves, -⟩ := compile_conserves_fields _ _ hbody
  exact ⟨hbody, by decide, by decide, outcome, houtcome, hconserves⟩

end TypedClient.Client
