import TypedClient.Proofs.Api.Additions

/-!
# What is seen of a document

`Document.seen` leaves of a document what a client is made of. It is what `documentView` leaves of
the members that a document is read from (`Document.ofCarrier_seen`).
-/

namespace TypedClient.Api

open TypedClient.Json (Fields Shape seenRecord)

variable (hidden : String → Bool)

/-- What is seen of a parameter. -/
def Parameter.seen (p : Parameter) : Parameter :=
  { p with schema := p.schema.map View.schema.seen }

/-- What is seen of content: the schemas of the entries that are not hidden. -/
def Content.seen (content : Content) : Content :=
  (content.filter fun entry => !hidden entry.1).map fun entry =>
    (entry.1, entry.2.map View.schema.seen)

/-- What is seen of an operation: of its responses only the one that means success. -/
def Operation.seen (operation : Operation) : Operation :=
  { operation with
    parameters := operation.parameters.map Parameter.seen
    requestBody := operation.requestBody.map (Content.seen hidden)
    responses := (operation.responses.filter fun response => response.1 == successCode).map
      fun response => (response.1, Content.seen hidden response.2) }

/-- What is seen of the operations on a path. -/
def PathItem.seen (item : PathItem) : PathItem :=
  ⟨item.delete.map (Operation.seen hidden), item.get.map (Operation.seen hidden),
    item.post.map (Operation.seen hidden), item.put.map (Operation.seen hidden)⟩

/-- What is seen of a document. -/
def Document.seen (document : Document) : Document :=
  { document with paths := document.paths.map fun path => (path.1, path.2.seen hidden) }

/-! ### Members that are read -/

/-- What is seen of values under names is what is seen of what they make, if that holds of each. -/
theorem View.map_entries_map {α β : Type} (entry : View) (seen : View → α → α) (make : α → β)
    (seenMade : β → β) (h : ∀ value, make (seen entry value) = seenMade (make value))
    (members : List (String × α)) :
    ((View.map hidden entry).entries seen members).map (fun m => (m.1, make m.2)) =
      ((members.map fun m => (m.1, make m.2)).filter fun m => !hidden m.1).map
        fun m => (m.1, seenMade m.2) := by
  induction members with
  | nil => rfl
  | cons m rest ih =>
    obtain ⟨name, value⟩ := m
    rw [List.map_cons]
    cases hname : hidden name with
    | true =>
      rw [View.entries_cons_of_none (View.member_map_of_hidden hname), ih,
        List.filter_cons_of_neg (by simpa using hname)]
    | false =>
      rw [View.entries_cons_of_some (View.member_map_of_shown hname), List.map_cons, ih,
        List.filter_cons_of_pos (by simpa using hname), List.map_cons, h]

theorem Parameter.ofFields_seen (p : parameterFields.Carrier) :
    Parameter.ofFields (parameterFields.seen parameterView p) = (Parameter.ofFields p).seen :=
  rfl

theorem Content.ofFields_seen (content : contentFields.Carrier) :
    Content.ofFields (contentFields.seen (contentView hidden) content) =
      (Content.ofFields content).seen hidden :=
  View.map_entries_map hidden mediaTypeView
    (Shape.record "MediaTypeObject" mediaTypeFields).seen Prod.fst
    (Option.map View.schema.seen) (fun _ => rfl) content.1

section Make

variable {α β : Type} {seen : α → α} {make : α → β} {seenMade : β → β}
  (h : ∀ value, make (seen value) = seenMade (make value))
include h

theorem map_map_seen (values : List α) :
    (values.map seen).map make = (values.map make).map seenMade := by
  rw [List.map_map, List.map_map]
  exact List.map_congr_left fun value _ => h value

theorem option_map_map_seen (value : Option α) :
    (value.map seen).map make = (value.map make).map seenMade := by
  rw [Option.map_map, Option.map_map]
  exact Option.map_congr fun value _ => h value

end Make

theorem Operation.ofFields_seen (operation : operationFields.Carrier) :
    Operation.ofFields (operationFields.seen (operationView hidden) operation) =
      (Operation.ofFields operation).seen hidden := by
  obtain ⟨operationId, summary, description, parameters, requestBody, responses, u⟩ := operation
  have hparameters := map_map_seen Parameter.ofFields_seen parameters
  have hbody := option_map_map_seen (Content.ofFields_seen hidden) requestBody
  have hresponses := View.map_entries_map (fun status => status != successCode)
    (contentView hidden) (Shape.record "Response" contentFields).seen Content.ofFields
    (Content.seen hidden) (Content.ofFields_seen hidden) responses
  simp only [bne, Bool.not_not] at hresponses
  exact congr (congr (congrArg (Operation.mk operationId summary description) hparameters) hbody)
    hresponses

theorem PathItem.ofFields_seen (item : pathItemFields.Carrier) :
    PathItem.ofFields (pathItemFields.seen (pathItemView hidden) item) =
      (PathItem.ofFields item).seen hidden := by
  obtain ⟨delete, get, post, put, u⟩ := item
  have hoperation := option_map_map_seen (Operation.ofFields_seen hidden)
  exact congr (congr (congr (congrArg PathItem.mk (hoperation delete)) (hoperation get))
    (hoperation post)) (hoperation put)

/-- What is left of the members that a document is read from is what is seen of the document. -/
theorem Document.ofCarrier_seen (document : Document.shape.Carrier) :
    Document.ofCarrier (Document.shape.seen (documentView hidden) document) =
      (Document.ofCarrier document).seen hidden := by
  obtain ⟨host, basePath, paths, u⟩ := document
  have hpaths := View.map_entries_map (fun _ => false) (pathItemView hidden)
    (Shape.record "PathItem" pathItemFields).seen PathItem.ofFields (PathItem.seen hidden)
    (PathItem.ofFields_seen hidden) paths
  simp only [Bool.not_false, List.filter_true] at hpaths
  exact congrArg (Document.mk host basePath) hpaths

end TypedClient.Api
