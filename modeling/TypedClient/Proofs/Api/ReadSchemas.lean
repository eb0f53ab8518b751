import TypedClient.Api.Document
import TypedClient.Api.Override
import TypedClient.Proofs.Json.ReadDistinct

/-!
# Schemas that are read

The schema of a request body in a document that has been read, and the patches for it and
for a response in overrides that have been read, have no object with two members of one
name.
-/

namespace TypedClient.Api

open TypedClient.Json (mem_of_lookup map_eq_ok_iff Shape.distinct_of_readText)

theorem Content.distinct_announcedSchema? {content : contentFields.Carrier}
    (h : contentFields.Distinct content) :
    ∀ schema ∈ (Content.ofFields content).announcedSchema?, schema.Distinct := by
  intro schema hs
  obtain ⟨entry, hfind, hschema⟩ := Option.bind_eq_some_iff.mp hs
  obtain ⟨⟨type, media⟩, hm, rfl⟩ := List.mem_map.mp (List.mem_of_find?_eq_some hfind)
  exact (h.1.2 _ hm).1 schema hschema

theorem Operation.distinct_requestSchema? {fields : operationFields.Carrier}
    (h : operationFields.Distinct fields) :
    ∀ schema ∈ (Operation.ofFields fields).requestSchema?, schema.Distinct := by
  obtain ⟨operationId, summary, description, parameters, requestBody, responses, _⟩ := fields
  obtain ⟨-, -, -, -, hbody, -, -⟩ := h
  intro schema hs
  obtain ⟨content, hcontent, hschema⟩ := Option.bind_eq_some_iff.mp hs
  obtain ⟨body, rfl, rfl⟩ := Option.map_eq_some_iff.mp hcontent
  exact Content.distinct_announcedSchema? (hbody body rfl) schema hschema

theorem PathItem.exists_of_operation? {fields : pathItemFields.Carrier}
    (h : pathItemFields.Distinct fields) {verb : Verb} {operation : Operation}
    (ho : (PathItem.ofFields fields).operation? verb = some operation) :
    ∃ members, operationFields.Distinct members ∧ operation = Operation.ofFields members := by
  obtain ⟨delete, get, post, put, _⟩ := fields
  obtain ⟨hdelete, hget, hpost, hput, -⟩ := h
  have hread (read : Option operationFields.Carrier)
      (hall : ∀ members, read = some members → operationFields.Distinct members)
      (hsome : read.map Operation.ofFields = some operation) :
      ∃ members, operationFields.Distinct members ∧ operation = Operation.ofFields members := by
    obtain ⟨members, hm, rfl⟩ := Option.map_eq_some_iff.mp hsome
    exact ⟨members, hall members hm, rfl⟩
  cases verb with
  | delete => exact hread delete hdelete ho
  | get => exact hread get hget ho
  | post => exact hread post hpost ho
  | put => exact hread put hput ho

/-- The schema of the request body of an operation in a document that is read. -/
theorem Document.distinct_requestSchema? {bytes : List UInt8} {document : Document}
    (h : Document.read bytes = .ok document) {endpoint : Endpoint}
    (he : endpoint ∈ document.endpoints) :
    ∀ schema ∈ endpoint.operation.requestSchema?, schema.Distinct := by
  obtain ⟨⟨host, basePath, paths, _⟩, hread, rfl⟩ := map_eq_ok_iff.mp h
  obtain ⟨-, -, ⟨-, hpaths⟩, -⟩ := Shape.distinct_of_readText hread
  obtain ⟨item, hitem, he⟩ := List.mem_flatMap.mp he
  obtain ⟨⟨path, fields⟩, hm, rfl⟩ := List.mem_map.mp hitem
  obtain ⟨verb, -, hendpoint⟩ := List.mem_filterMap.mp he
  obtain ⟨operation, ho, rfl⟩ := Option.map_eq_some_iff.mp hendpoint
  obtain ⟨members, hmembers, rfl⟩ := PathItem.exists_of_operation? (hpaths _ hm) ho
  exact Operation.distinct_requestSchema? hmembers

/-- What is overridden for an operation in overrides that are read. -/
theorem Overrides.exists_of_get? {bytes : List UInt8} {overrides : Overrides}
    (h : Overrides.read bytes = .ok overrides) {operationId : String} {override : Override}
    (ho : overrides.get? operationId = some override) :
    ∃ fields, overrideFields.Distinct fields ∧ override = Override.ofFields fields := by
  obtain ⟨entries, hread, rfl⟩ := map_eq_ok_iff.mp h
  obtain ⟨-, hentries⟩ := Shape.distinct_of_readText hread
  obtain ⟨⟨id, fields⟩, hm, he⟩ := List.mem_map.mp (mem_of_lookup ho)
  exact ⟨fields, hentries _ hm, (Prod.mk.inj he).2.symm⟩

/-- The patch for the schema of a request body in overrides that are read. -/
theorem Overrides.distinct_requestPatch {bytes : List UInt8} {overrides : Overrides}
    (h : Overrides.read bytes = .ok overrides) (operationId : String) :
    ∀ patch ∈ (overrides.get? operationId).bind Override.requestPatch, patch.Distinct := by
  intro patch hp
  obtain ⟨override, ho, hpatch⟩ := Option.bind_eq_some_iff.mp hp
  obtain ⟨⟨⟨renames, requestPatch, _⟩, ⟨responsePatch, _⟩, _⟩, hfields, rfl⟩ :=
    Overrides.exists_of_get? h ho
  obtain ⟨⟨-, hrequest, -⟩, -⟩ := hfields
  exact hrequest patch hpatch

/-- The patch for the schema of a response in overrides that are read. -/
theorem Overrides.distinct_responsePatch {bytes : List UInt8} {overrides : Overrides}
    (h : Overrides.read bytes = .ok overrides) (operationId : String) :
    ∀ patch ∈ (overrides.get? operationId).bind Override.responsePatch, patch.Distinct := by
  intro patch hp
  obtain ⟨override, ho, hpatch⟩ := Option.bind_eq_some_iff.mp hp
  obtain ⟨⟨⟨renames, requestPatch, _⟩, ⟨responsePatch, _⟩, _⟩, hfields, rfl⟩ :=
    Overrides.exists_of_get? h ho
  obtain ⟨-, ⟨hresponse, -⟩, -⟩ := hfields
  exact hresponse patch hpatch

end TypedClient.Api
