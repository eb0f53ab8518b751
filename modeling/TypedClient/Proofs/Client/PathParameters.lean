import TypedClient.Client.Transliteration
import TypedClient.Proofs.Client.Routing

/-!
# Placeholders of parameters

A placeholder takes the value of the first argument that the service knows by its name.
If that is a parameter in the path, or another that is required, the request must have a
value for it. A placeholder whose parameters are all left out stays as it is and is
reported.
-/

namespace TypedClient.Client

open TypedClient.Api
open TypedClient.Script

/-- The first parameter of a name that a method has an argument for, with its key. -/
def firstKept? (r : Resolver) (operation : Operation) (name : String) :
    Option (String × Parameter) :=
  (keptParameters r operation).find? fun k => k.2.name == name

/-- Whether a request must have a value for a key. -/
def RequestType.Requires (request : RequestType) (key : String) : Prop :=
  key ∈ request.arguments.map (fun f => f.head.key) ∧
    ∀ f ∈ request.arguments, f.head.key = key → f.head.isOptional = false

/-- Whether the route, read as a template literal, has the value of a binding in place of every
placeholder of a name. -/
def Method.Interpolates (m : Method) (name binding : String) : Prop :=
  ∀ before run after,
    pieces m.path.toList = before ++ .text run :: .placeholder name.toList :: after →
      readTemplate m.route.toList =
        some (routeItems m.binding? before ++
          (run.map .char ++ .value binding.toList :: routeItems m.binding? after))

/-- Whether every placeholder of a name has the value of an argument for which a request must have
one, and is not reported. -/
def Compiled.Fills (c : Compiled) (id name : String) : Prop :=
  (∃ a ∈ c.method.arguments, c.method.request.Requires a.key ∧
    c.method.Interpolates name a.binding) ∧
  .unknownPlaceholder id name ∉ c.warnings

/-- Whether every placeholder of a name is text of the route, and is reported. -/
def Compiled.Leaves (c : Compiled) (id name : String) : Prop :=
  (Piece.placeholder name.toList).part c.method.binding? =
      .text (Piece.placeholder name.toList).chars ∧
    .unknownPlaceholder id name ∈ c.warnings

/-! ### Routes in parts -/

/-- What a route says before a run of text stands by itself. -/
theorem routeItems_append {binding? : String → Option String} {parts : List Piece}
    (h : Alternating parts) {before after : List Piece} {run : List Char}
    (he : parts = before ++ .text run :: after) :
    routeItems binding? parts =
      routeItems binding? before ++ routeItems binding? (.text run :: after) := by
  induction h generalizing before with
  | last first =>
    cases before with
    | nil =>
      rw [he]
      rfl
    | cons part before => simp at he
  | @more first name rest hname hrest ih =>
    match before with
    | [] =>
      rw [he]
      rfl
    | [part] => simp at he
    | part :: next :: before =>
      obtain ⟨rfl, rfl, hr⟩ := by simpa using he
      rw [routeItems, routeItems, ih hr, List.append_assoc]

/-- A placeholder that has a binding is interpolated wherever it stands. -/
theorem interpolates_of_binding? {m : Method} {name binding : String}
    (h : ∀ a ∈ m.arguments, isIdentifier a.binding.toList = true)
    (hb : m.binding? name = some binding) : m.Interpolates name binding := by
  intro before run after he
  have hname : m.binding? (String.ofList name.toList) = some binding := by
    rw [String.ofList_toList, hb]
  rw [m.readTemplate_route h, routeItems_append (alternating_pieces m.path.toList) he, routeItems,
    segmentItems, hname]
  simp

theorem mem_unknownPlaceholders {binding? : String → Option String} {path : List Char}
    {name : String} :
    name ∈ unknownPlaceholders binding? path ↔
      .placeholder name.toList ∈ pieces path ∧ binding? name = none := by
  rw [unknownPlaceholders, List.mem_filterMap]
  constructor
  · rintro ⟨piece, hp, he⟩
    cases piece with
    | text run => simp at he
    | placeholder chars =>
      dsimp only at he
      split at he
      · simp at he
      · next hs =>
        obtain rfl := Option.some.inj he
        rw [String.toList_ofList]
        exact ⟨hp, by simpa using hs⟩
  · rintro ⟨hp, hb⟩
    refine ⟨_, hp, ?_⟩
    dsimp only
    rw [String.ofList_toList, hb]
    rfl

/-! ### Arguments of a name -/

theorem map_named_makeArguments [NameStyle] (kept : List (String × Parameter)) :
    (makeArguments kept).map (fun a => (a.key, a.serviceName)) =
      kept.map fun k => (k.1, k.2.name) :=
  map_makeArguments kept fun _ _ => rfl

/-- The first argument of a name is that of the first parameter of the name. -/
theorem find?_makeArguments [NameStyle] (kept : List (String × Parameter)) (name : String) :
    ((makeArguments kept).find? fun a => a.serviceName == name).map Argument.key =
      (kept.find? fun k => k.2.name == name).map Prod.fst := by
  have h := congrArg (List.find? fun n : String × String => n.2 == name)
    (map_named_makeArguments kept)
  rw [List.find?_map, List.find?_map] at h
  have hkeys := congrArg (Option.map Prod.fst) h
  rwa [Option.map_map, Option.map_map] at hkeys

section Compile

variable [NameStyle] (r : Resolver) (endpoint : Endpoint)

@[simp] theorem compile_path : (compile r endpoint).1.method.path = endpoint.path := by
  rw [compile]

theorem compile_request_arguments :
    (compile r endpoint).1.method.request.arguments =
      (keptParameters r endpoint.operation).map fun k => (parameterField k.1 k.2).value := by
  rw [compile, keptParameters]
  dsimp only
  rw [List.map_map]
  rfl

/-- The warnings are about types, then fields, then the placeholders without a binding. -/
theorem exists_warnings_eq : ∃ notes fields, (compile r endpoint).1.warnings =
    List.map (Warning.ofNote endpoint.operation.operationId) notes ++
      List.map (Warning.duplicateField endpoint.operation.operationId) fields ++
      (unknownPlaceholders (compile r endpoint).1.method.binding? endpoint.path.toList).map
        (Warning.unknownPlaceholder endpoint.operation.operationId) := by
  rw [compile]
  exact ⟨_, _, rfl⟩

/-- The placeholders that are reported are those without a binding. -/
theorem unknownPlaceholder_mem_warnings {name : String} :
    .unknownPlaceholder endpoint.operation.operationId name ∈ (compile r endpoint).1.warnings ↔
      name ∈ unknownPlaceholders (compile r endpoint).1.method.binding? endpoint.path.toList := by
  obtain ⟨notes, fields, hw⟩ := exists_warnings_eq r endpoint
  rw [hw]
  simp [Warning.ofNote]

/-- The field for a parameter that is required must be given. -/
theorem requires_of_mem_keptParameters {k : String × Parameter}
    (hk : k ∈ keptParameters r endpoint.operation) (hr : k.2.isRequired = true) :
    (compile r endpoint).1.method.request.Requires k.1 := by
  rw [RequestType.Requires, compile_request_arguments, List.map_map]
  refine ⟨List.mem_map.mpr ⟨k, hk, rfl⟩, fun f hf he => ?_⟩
  obtain ⟨other, ho, rfl⟩ := List.mem_map.mp hf
  have hsame : other = k :=
    List.inj_on_of_nodup_map (nodup_keys_keepFresh _ _) ho hk he
  have hoptional : (parameterField other.1 other.2).value.head.isOptional =
      !other.2.isRequired := rfl
  rw [hoptional, hsame, hr]
  rfl

end Compile

theorem isIdentifier_of_mem_arguments [NameStyle] {r : Resolver} {endpoint : Endpoint}
    {a : Argument} (ha : a ∈ (compile r endpoint).1.method.arguments) :
    isIdentifier a.binding.toList = true :=
  (isBinding_iff.mp ((isReadable_compile r endpoint).binding a ha)).1

/-- A placeholder is filled if the first of its parameters that is kept is required. -/
theorem fills_of_firstKept? [NameStyle] {r : Resolver} {endpoint : Endpoint} {name : String}
    {k : String × Parameter} (hf : firstKept? r endpoint.operation name = some k)
    (hr : k.2.isRequired = true) :
    (compile r endpoint).1.Fills endpoint.operation.operationId name := by
  have hkey := find?_makeArguments (keptParameters r endpoint.operation) name
  rw [← firstKept?, hf, Option.map_some, Option.map_eq_some_iff] at hkey
  obtain ⟨a, hfind, hkey⟩ := hkey
  rw [← compile_arguments] at hfind
  have hbinding : (compile r endpoint).1.method.binding? name = some a.binding := by
    rw [Method.binding?, hfind, Option.map_some]
  refine ⟨⟨a, List.mem_of_find?_eq_some hfind, ?_, ?_⟩, ?_⟩
  · rw [hkey]
    exact requires_of_mem_keptParameters r endpoint (List.mem_of_find?_eq_some hf) hr
  · exact interpolates_of_binding? (fun _ => isIdentifier_of_mem_arguments) hbinding
  · rw [unknownPlaceholder_mem_warnings, mem_unknownPlaceholders, hbinding]
    simp

/-- A placeholder is left if none of its parameters is kept. -/
theorem leaves_of_firstKept? [NameStyle] {r : Resolver} {endpoint : Endpoint} {name : String}
    (hp : .placeholder name.toList ∈ pieces endpoint.path.toList)
    (hf : firstKept? r endpoint.operation name = none) :
    (compile r endpoint).1.Leaves endpoint.operation.operationId name := by
  have hkey := find?_makeArguments (keptParameters r endpoint.operation) name
  rw [← firstKept?, hf, Option.map_none, Option.map_eq_none_iff] at hkey
  have hbinding : (compile r endpoint).1.method.binding? name = none := by
    rw [Method.binding?, compile_arguments, hkey, Option.map_none]
  refine ⟨?_, ?_⟩
  · rw [Piece.part, String.ofList_toList, hbinding]
  · rw [unknownPlaceholder_mem_warnings, mem_unknownPlaceholders]
    exact ⟨hp, hbinding⟩

/-- A placeholder that is the name of a parameter in the path is filled if the first parameter of
that name that is kept is this one or a required one, and is left if none is kept. -/
theorem placeholders_filled [NameStyle] (r : Resolver) (endpoint : Endpoint) :
    ∀ p ∈ endpoint.operation.parameters, p.location = .path →
      .placeholder p.name.toList ∈ pieces endpoint.path.toList →
      (∀ k ∈ firstKept? r endpoint.operation p.name, k.2 = p ∨ k.2.isRequired = true →
        (compile r endpoint).1.Fills endpoint.operation.operationId p.name) ∧
      (firstKept? r endpoint.operation p.name = none →
        (compile r endpoint).1.Leaves endpoint.operation.operationId p.name) := by
  intro p _ hl hp
  refine ⟨fun k hk hr => fills_of_firstKept? hk ?_, leaves_of_firstKept? hp⟩
  rcases hr with rfl | hr
  · rw [Parameter.isRequired, hl]
    exact Bool.or_true _
  · exact hr

/-- An operation on the path `/item/{id}` with some parameters. -/
def itemEndpoint (parameters : List Parameter) : Endpoint where
  path := "/item/\x7bid\x7d"
  verb := .get
  operation := ⟨"get-item", none, none, parameters, none, []⟩

/-- A parameter `id`. -/
def idParameter (location : Location) : Parameter :=
  ⟨"id", none, false, location, some "string", none, none⟩

/-- The parameter in the path is kept before the one in the query, whatever becomes of that. -/
theorem placeholders_filled_itemEndpoint :
    letI := usualStyle
    firstKept? (.new [("get-item", ⟨[("id", "itemId")], none, none⟩)] .consume)
        (itemEndpoint [idParameter .path, idParameter .query]).operation "id" =
      some ("itemId", idParameter .path) ∧
    (compile (.new [("get-item", ⟨[("id", "itemId")], none, none⟩)] .consume)
      (itemEndpoint [idParameter .path, idParameter .query])).1.Fills "get-item" "id" := by
  let : NameStyle := usualStyle
  have hf : firstKept? (.new [("get-item", ⟨[("id", "itemId")], none, none⟩)] .consume)
      (itemEndpoint [idParameter .path, idParameter .query]).operation "id" =
        some ("itemId", idParameter .path) := by
    rfl
  refine ⟨hf, (placeholders_filled _ _ (idParameter .path) ?_ rfl ?_).1 _ hf (Or.inl rfl)⟩
  · exact List.mem_cons_self
  · decide

/-- Whether every placeholder that is the name of a parameter in the path is filled. -/
def FillsPathParameters [NameStyle] (r : Resolver) (endpoint : Endpoint) : Prop :=
  ∀ p ∈ endpoint.operation.parameters, p.location = .path →
    .placeholder p.name.toList ∈ pieces endpoint.path.toList →
    (compile r endpoint).1.Fills endpoint.operation.operationId p.name

/-- Some are not filled: where a parameter in the query has taken the key before, and where the key
is reserved. -/
theorem placeholders_not_filled :
    letI := usualStyle
    ¬ FillsPathParameters (.new [] .persistent)
        (itemEndpoint [idParameter .query, idParameter .path]) ∧
      ¬ FillsPathParameters (.new [("get-item", ⟨[("id", "requestOptions")], none, none⟩)]
        .persistent) (itemEndpoint [idParameter .path]) := by
  let : NameStyle := usualStyle
  have hp : .placeholder (idParameter .path).name.toList ∈
      pieces (itemEndpoint []).path.toList := by decide
  refine ⟨fun h => ?_, fun h => ?_⟩
  · obtain ⟨⟨a, -, ⟨hkey, hrequired⟩, -⟩, -⟩ :=
      h (idParameter .path) (by simp [itemEndpoint]) rfl hp
    have hheads : (compile (.new [] .persistent) (itemEndpoint
        [idParameter .query, idParameter .path])).1.method.request.arguments.map Field.head =
        [⟨none, "id", true⟩] := by decide
    obtain ⟨f, hf, he⟩ := List.mem_map.mp hkey
    have hoptional := hrequired f hf he
    have hhead := List.mem_map_of_mem (f := Field.head) hf
    rw [hheads, List.mem_singleton] at hhead
    rw [hhead] at hoptional
    exact absurd hoptional (by decide)
  · have hreported : .unknownPlaceholder "get-item" "id" ∈
        (compile (.new [("get-item", ⟨[("id", "requestOptions")], none, none⟩)] .persistent)
          (itemEndpoint [idParameter .path])).1.warnings := by decide
    exact (h (idParameter .path) List.mem_cons_self rfl hp).2 hreported

end TypedClient.Client
