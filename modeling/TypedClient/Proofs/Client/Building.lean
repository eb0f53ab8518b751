import TypedClient.Client.Generate
import TypedClient.Proofs.Client.Fresh

/-!
# The methods of a build

A build makes a method for the first operation of each method name, in the order of
the document, and every method it makes is one that `compile` made for an operation.
-/

namespace TypedClient.Client

open TypedClient.Api

variable [NameStyle]

/-- The method that an operation would have, with the operation. -/
def methodEntry (endpoint : Endpoint) : String × Endpoint :=
  (methodName endpoint.operation.operationId, endpoint)

section Compile

variable (r : Resolver) (endpoint : Endpoint)

@[simp] theorem compile_name :
    (compile r endpoint).1.method.name = methodName endpoint.operation.operationId := by
  rw [compile]

@[simp] theorem compile_request_name :
    (compile r endpoint).1.method.request.name =
      requestNameFor (typeStem (methodName endpoint.operation.operationId)) := by
  rw [compile]

@[simp] theorem compile_response_name :
    (compile r endpoint).1.method.response.name =
      responseNameFor (typeStem (methodName endpoint.operation.operationId)) := by
  rw [compile]

end Compile

namespace Build

/-- An operation whose method name is in use changes neither the methods nor the names. -/
theorem add_of_mem {b : Build} {endpoint : Endpoint}
    (h : methodName endpoint.operation.operationId ∈ b.names) :
    (b.add endpoint).methods = b.methods ∧ (b.add endpoint).names = b.names := by
  simp only [add, h, ite_true, and_self]

/-- Any other operation adds its method at the end. -/
theorem add_of_not_mem {b : Build} {endpoint : Endpoint}
    (h : methodName endpoint.operation.operationId ∉ b.names) :
    (b.add endpoint).methods = b.methods ++ [(compile b.resolver endpoint).1.method] ∧
      (b.add endpoint).names = methodName endpoint.operation.operationId :: b.names := by
  simp only [add, h, ite_false, and_self]

/-- The methods made for operations have the free method names among theirs, each once. -/
theorem map_name_foldl_add (b : Build) (endpoints : List Endpoint) :
    (endpoints.foldl add b).methods.map Method.name =
      b.methods.map Method.name ++
        (keepFresh b.names (endpoints.map methodEntry)).map Prod.fst := by
  induction endpoints generalizing b with
  | nil => simp [keepFresh]
  | cons e rest ih =>
    rw [List.foldl_cons, ih, List.map_cons, methodEntry, keepFresh]
    by_cases h : methodName e.operation.operationId ∈ b.names
    · obtain ⟨hm, hn⟩ := add_of_mem h
      rw [hm, hn, if_pos h]
    · obtain ⟨hm, hn⟩ := add_of_not_mem h
      rw [hm, hn, if_neg h]
      simp

/-- A method that a build ends with was there from the start or was compiled. -/
theorem mem_methods_foldl_add {b : Build} {endpoints : List Endpoint} {m : Method}
    (h : m ∈ (endpoints.foldl add b).methods) :
    m ∈ b.methods ∨ ∃ r, ∃ e ∈ endpoints, m = (compile r e).1.method := by
  induction endpoints generalizing b with
  | nil => exact Or.inl h
  | cons e rest ih =>
    rcases ih h with hb | ⟨r, e', he', rfl⟩
    · by_cases hn : methodName e.operation.operationId ∈ b.names
      · rw [(add_of_mem hn).1] at hb
        exact Or.inl hb
      · rw [(add_of_not_mem hn).1, List.mem_append, List.mem_singleton] at hb
        exact hb.imp_right fun hm => ⟨b.resolver, e, by simp, hm⟩
    · exact Or.inr ⟨r, e', by simp [he'], rfl⟩

end Build

section Document

variable (document : Document) (overrides : Overrides) (mode : OverrideMode)

/-- The method names of a build, in order. -/
theorem map_name_build :
    (build document overrides mode).methods.map Method.name =
      (keepFresh [] (document.endpoints.map methodEntry)).map Prod.fst :=
  Build.map_name_foldl_add _ _

/-- No two methods of a build have one name. -/
theorem nodup_map_name_build :
    ((build document overrides mode).methods.map Method.name).Nodup := by
  rw [map_name_build]
  exact nodup_keys_keepFresh _ _

/-- The method names of a build are those of the operations of the document. -/
theorem mem_map_name_build {name : String} :
    name ∈ (build document overrides mode).methods.map Method.name ↔
      ∃ e ∈ document.endpoints, methodName e.operation.operationId = name := by
  rw [map_name_build, mem_keys_keepFresh]
  simp [methodEntry]

variable {document overrides mode}

/-- Every method of a build was compiled for an operation of the document. -/
theorem exists_compile_of_mem_build {m : Method}
    (h : m ∈ (build document overrides mode).methods) :
    ∃ r, ∃ e ∈ document.endpoints, m = (compile r e).1.method :=
  (Build.mem_methods_foldl_add h).resolve_left (by simp)

end Document

end TypedClient.Client
