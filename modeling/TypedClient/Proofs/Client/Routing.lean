import TypedClient.Proofs.Client.Building
import TypedClient.Proofs.Client.MethodReading
import TypedClient.Proofs.Client.RouteReading
import TypedClient.Proofs.Naming.Styles

/-!
# Where a method sends what it is given

The implementation of a compiled method is read back from its text. It takes each
parameter that is kept from the key of that parameter into a local of its own, and
sends that local under the name that the service knows. It takes the rest of the
request as the body exactly if the operation has one, and every field that the request
declares for the body is in that rest.
-/

namespace TypedClient.Client

open TypedClient.Api
open TypedClient.Script

/-- The parameters that a method has arguments for, each under its key. -/
def keptParameters (r : Resolver) (operation : Operation) : List (String × Parameter) :=
  keepFresh reservedKeys (resolveKeys r operation.operationId operation.parameters).1

/-- The locals of the arguments. -/
def argumentLocals [NameStyle] (r : Resolver) (operation : Operation) : List String :=
  freeBindings reservedLocals ((keptParameters r operation).map Prod.fst)

/-- The keys of the fields that are declared for a body. -/
def BodyFields.keys : BodyFields → List String
  | .fields declared => declared.map fun f => f.head.key
  | _ => []

/-- What a caller takes and sends, given the parameters under their keys, the local for each,
whether there is a body, and the keys of the fields that are declared for it. -/
structure Routes (kept : List (String × Parameter)) (locals : List String) (hasBody : Bool)
    (bodyKeys : List String) (c : Caller) : Prop where
  /-- There is a local for each parameter. -/
  length_locals : locals.length = kept.length
  /-- No local is used for anything else. -/
  nodup_locals : (locals ++ reservedLocals).Nodup
  /-- Each local is taken from the key of its parameter. -/
  taken : c.pattern.entries = (kept.map Prod.fst).zip locals ++
    [(requestOptionsKey, requestOptionsKey), (returnAxiosKey, returnAxiosKey)]
  /-- What is left of the request is taken if there is a body. -/
  rest : c.pattern.rest = if hasBody then some bodyLocal else none
  /-- The call has these properties and no others. -/
  sent : c.call.map Prod.fst = ["method", "url"] ++ (if hasBody then ["data"] else []) ++
    (if kept.isEmpty then [] else ["params"])
  /-- The body is sent as what is left of the request. -/
  data : c.call.lookup "data" = if hasBody then some [.word bodyLocal] else none
  /-- Each local is sent under the name of its parameter. -/
  params : (c.call.lookup "params").map object? = if kept.isEmpty then none
    else some (some ((kept.map fun k => k.2.name).zip (locals.map fun l => [.word l])))
  /-- No field of the body is taken for anything else. -/
  left : ∀ key ∈ bodyKeys, key ∉ c.pattern.entries.map Prod.fst

section Compile

variable [NameStyle] (r : Resolver) (endpoint : Endpoint)

@[simp] theorem compile_arguments :
    (compile r endpoint).1.method.arguments =
      makeArguments (keptParameters r endpoint.operation) := by
  rw [compile, keptParameters]

theorem compile_request_body :
    (compile r endpoint).1.method.request.body =
      (bodyPart (resolveKeys r endpoint.operation.operationId endpoint.operation.parameters).2
        endpoint.operation (requestNameFor (typeStem (methodName endpoint.operation.operationId)))
        ((keptParameters r endpoint.operation).map Prod.fst ++ reservedKeys)).fields := by
  rw [compile, keptParameters]

end Compile

/-! ### Arguments -/

section Arguments

variable [NameStyle] (kept : List (String × Parameter))

theorem map_taken_makeArguments :
    (makeArguments kept).map (fun a => (a.key, a.binding)) =
      (kept.map Prod.fst).zip (freeBindings reservedLocals (kept.map Prod.fst)) := by
  rw [makeArguments, List.map_map, List.zip_map_left]
  rfl

theorem map_sent_makeArguments :
    (makeArguments kept).map (fun a => (a.serviceName, [Token.word a.binding])) =
      (kept.map fun k => k.2.name).zip
        ((freeBindings reservedLocals (kept.map Prod.fst)).map fun l => [Token.word l]) := by
  rw [makeArguments, List.map_map, List.zip_map]
  rfl

/-- What does not depend on the binding of an argument is that of its parameter. -/
theorem map_makeArguments {α : Type} {f : Argument → α} {g : String × Parameter → α}
    (h : ∀ k binding, f ⟨k.2.name, k.1, binding, (parameterNode k.2).description?⟩ = g k) :
    (makeArguments kept).map f = kept.map g := by
  have hlength : kept.length ≤ (freeBindings reservedLocals (kept.map Prod.fst)).length := by
    rw [length_freeBindings, List.length_map]
  have hkept := congrArg (List.map g) (List.map_fst_zip hlength)
  rw [List.map_map] at hkept
  rw [makeArguments, List.map_map, ← hkept]
  apply List.map_congr_left
  intro bound _
  exact h bound.1 bound.2

theorem isEmpty_makeArguments : (makeArguments kept).isEmpty = kept.isEmpty := by
  cases kept <;> rfl

variable {kept}

theorem isBinding_of_mem_makeArguments {a : Argument} (h : a ∈ makeArguments kept) :
    isBinding a.binding = true := by
  obtain ⟨⟨⟨key, p⟩, binding⟩, hm, rfl⟩ := List.mem_map.mp h
  exact isBinding_of_mem_freeBindings (List.of_mem_zip hm).2

end Arguments

/-! ### Bodies -/

theorem map_key_fieldTypes (path : List String) (required : Schema.Required)
    (properties : List (String × Schema.Node)) :
    (Schema.fieldTypes path required properties).value.map (fun f => f.1.key) =
      properties.map Prod.fst := by
  induction properties with
  | nil => rfl
  | cons property rest ih =>
    obtain ⟨name, node⟩ := property
    rw [Schema.fieldTypes, List.map_cons, List.map_cons, ih]

/-- Each property has a field of its key. -/
theorem map_key_fields (required : Schema.Required) (properties : List (String × Schema.Node)) :
    (Schema.fields required properties).value.map (fun f => f.head.key) =
      properties.map Prod.fst := by
  have hf : (Schema.fields required properties).value =
      (Schema.fieldTypes [] required properties).value.map fun f => ⟨f.1, f.2⟩ := rfl
  rw [hf, List.map_map, ← map_key_fieldTypes [] required properties]
  rfl

/-- A method has a body exactly if its operation has. -/
theorem isBody_bodyPart (r : Resolver) (operation : Operation) (name : String)
    (takenKeys : List String) :
    (bodyPart r operation name takenKeys).fields.isBody = operation.requestSchema?.isSome := by
  rw [bodyPart]
  cases operation.requestSchema? with
  | none => rfl
  | some schema =>
    dsimp only
    split <;> rfl

/-- No field of a body has a key that is taken. -/
theorem not_mem_of_mem_keys_bodyPart {r : Resolver} {operation : Operation} {name key : String}
    {takenKeys : List String} (h : key ∈ (bodyPart r operation name takenKeys).fields.keys) :
    key ∉ takenKeys := by
  rw [bodyPart] at h
  cases hs : operation.requestSchema? with
  | none => simp [hs, BodyFields.keys] at h
  | some schema =>
    rw [hs] at h
    dsimp only at h
    cases hn : Schema.Node.ofJson (r.patchedBody operation.operationId schema) with
    | object info properties required =>
      rw [hn, BodyFields.keys, map_key_fields] at h
      obtain ⟨p, hp, rfl⟩ := List.mem_map.mp h
      simpa using (List.mem_filter.mp hp).2
    | primitive info typeName literals => simp [hn, BodyFields.keys] at h
    | array info items => simp [hn, BodyFields.keys] at h
    | arrayOfUnknown info => simp [hn, BodyFields.keys] at h
    | objectOfUnknown info required => simp [hn, BodyFields.keys] at h

/-! ### Routing -/

theorem isWord_of_isIdentifier {text : String} (h : isIdentifier text.toList = true) : IsWord text :=
  ⟨ne_empty_of_isIdentifier h, fun _ => inIdentifier_of_mem_identifier h⟩

/-- A compiled method can be read. -/
theorem isReadable_compile [NameStyle] (r : Resolver) (endpoint : Endpoint) :
    (compile r endpoint).1.method.IsReadable where
  name := by
    rw [compile_name]
    exact isWord_of_isIdentifier (isIdentifier_methodName _)
  request := by
    rw [compile_request_name]
    exact isWord_of_isIdentifier (isIdentifier_requestNameFor _)
  response := by
    rw [compile_response_name]
    exact isWord_of_isIdentifier (isIdentifier_responseNameFor _)
  binding := by
    rw [compile_arguments]
    exact fun _ => isBinding_of_mem_makeArguments

/-- A compiled method can be read, and takes and sends what it is given as its parameters say. -/
theorem routes_compile [NameStyle] (r : Resolver) (endpoint : Endpoint) :
    ∃ c, caller? (compile r endpoint).1.method.implementation = some c ∧
      Routes (keptParameters r endpoint.operation) (argumentLocals r endpoint.operation)
        endpoint.operation.requestSchema?.isSome (compile r endpoint).1.method.request.body.keys
        c := by
  have hread := isReadable_compile r endpoint
  have hroute := Method.readTemplate_route (compile r endpoint).1.method fun a ha =>
    (isBinding_iff.mp (hread.binding a ha)).1
  have hbody : (compile r endpoint).1.method.hasBody =
      endpoint.operation.requestSchema?.isSome := by
    rw [Method.hasBody, compile_request_body, isBody_bodyPart]
  have htaken : (compile r endpoint).1.method.requestPattern.entries =
      ((keptParameters r endpoint.operation).map Prod.fst).zip
        (argumentLocals r endpoint.operation) ++
        [(requestOptionsKey, requestOptionsKey), (returnAxiosKey, returnAxiosKey)] := by
    rw [Method.requestPattern, compile_arguments, map_taken_makeArguments, argumentLocals]
  refine ⟨_, Method.caller?_implementation hread hroute, ?_⟩
  constructor
  · rw [argumentLocals, length_freeBindings, List.length_map]
  · rw [List.nodup_append]
    refine ⟨nodup_freeBindings _ _, by decide, ?_⟩
    rintro a ha b hb rfl
    exact not_mem_of_mem_freeBindings ha hb
  · exact htaken
  · rw [Method.requestPattern, hbody]
  · rw [Method.map_fst_callProperties, hbody, compile_arguments, isEmpty_makeArguments]
  · rw [Method.lookup_data, hbody]
  · rw [Method.lookup_params, compile_arguments, isEmpty_makeArguments]
    split
    · rfl
    · rw [Option.map_some, Method.object?_paramsTokens hread, compile_arguments,
        map_sent_makeArguments, argumentLocals]
  · intro key hk hm
    rw [compile_request_body] at hk
    refine not_mem_of_mem_keys_bodyPart hk ?_
    rw [htaken, List.map_append, List.map_fst_zip] at hm
    · exact hm
    · rw [argumentLocals, length_freeBindings]

end TypedClient.Client
