import TypedClient.Proofs.Client.RequestFields
import TypedClient.Proofs.Client.SignatureReading

/-!
# Options that may be left out

Whether the options of a method may be left out is found from the parameters that are
kept and from the properties of the body whose key is free, and the fields of the request
are declared elsewhere. Both agree for every operation: the options may be left out
exactly if the request type, as it is read back, declares nothing that must be there.
-/

namespace TypedClient.Client

open TypedClient.Api
open TypedClient.Script

/-- Whether a method asks for its options as its request type does, which declares these members. -/
structure Method.AsksFor (m : Method) (members : List Member) : Prop where
  /-- The request type declares the members and nothing else. -/
  declared : ∀ name others, IsOpenRecord m.request.text name others ↔
    name = m.request.name ∧ others = members
  /-- The text of the method has its signatures, and then its implementation, after the comment. -/
  written : m.text = "\n".intercalate (m.commentLines ++ m.signatures ++ [m.implementation])
  /-- The options of the first signature and of the last may be left out exactly if every member
  may, and those of the signature for the whole answer may not. -/
  signatures : List.Forall₂ (fun text s => ∀ other, IsSignature text other ↔ other = s) m.signatures
    [⟨m.name, members.all Member.isOptional, m.request.name, ⟨returnAxiosKey, true⟩, "false",
        m.bareTokens⟩,
      ⟨m.name, false, m.request.name, ⟨returnAxiosKey, false⟩, "true", m.envelopedTokens⟩,
      ⟨m.name, members.all Member.isOptional, m.request.name, ⟨returnAxiosKey, true⟩, "boolean",
        m.eitherTokens⟩]
  /-- An empty object stands in for the options exactly if every member may be left out. -/
  implementation : options? m.implementation =
    some (m.request.name, members.all Member.isOptional)

/-! ### What must be there -/

theorem all_isOptional_map_field (fields : List Field) :
    ((fields.map RequestEntry.field).map RequestEntry.member).all Member.isOptional =
      fields.all fun f => f.head.isOptional := by
  rw [List.all_map, List.all_map]
  rfl

/-- All members of a request may be left out if all fields for arguments and for the body may. -/
theorem RequestType.all_isOptional (request : RequestType) :
    (request.entries.map RequestEntry.member).all Member.isOptional =
      (request.arguments.all (fun f => f.head.isOptional) &&
        request.body.list.all fun f => f.head.isOptional) := by
  have hbody : (request.bodyEntries.map RequestEntry.member).all Member.isOptional =
      request.body.list.all fun f => f.head.isOptional := by
    rw [RequestType.bodyEntries]
    cases request.body with
    | none => rfl
    | fields declared => exact all_isOptional_map_field declared
    | anything => rfl
  have hcall : callFields.all (fun f => f.head.isOptional) = true := by decide
  rw [RequestType.entries, List.map_append, List.map_append, List.all_append, List.all_append,
    all_isOptional_map_field, all_isOptional_map_field, hbody, hcall, Bool.and_true]

/-- A body asks for a field exactly if one of the fields that it declares must be there. -/
theorem isRequired_bodyPart (r : Resolver) (operation : Operation) (name : String)
    (taken : List String) :
    (bodyPart r operation name taken).isRequired =
      (bodyPart r operation name taken).fields.list.any fun f => !f.head.isOptional := by
  rw [bodyPart]
  cases operation.requestSchema? with
  | none => rfl
  | some schema =>
    dsimp only
    cases Schema.Node.ofJson (r.patchedBody operation.operationId schema) with
    | object info properties required =>
      dsimp only
      rw [BodyFields.list, Schema.fields_eq_map, List.any_map]
      refine congrArg (List.any _) (funext fun p => ?_)
      exact (Bool.not_not _).symm
    | _ => rfl

section Compile

variable [NameStyle] (r : Resolver) (endpoint : Endpoint)

theorem compile_optionsOptional :
    (compile r endpoint).1.method.optionsOptional =
      !((keptParameters r endpoint.operation).any (fun k => k.2.isRequired) ||
        (bodyPart r endpoint.operation
          (requestNameFor (typeStem (methodName endpoint.operation.operationId)))
          ((keptParameters r endpoint.operation).map Prod.fst ++ reservedKeys)).isRequired) := by
  rw [← bodyPart_resolveKeys r endpoint, compile, keptParameters]

/-- The options may be left out exactly if all members of the request may. -/
theorem compile_optionsOptional_eq_all :
    (compile r endpoint).1.method.optionsOptional =
      ((compile r endpoint).1.method.request.entries.map RequestEntry.member).all
        Member.isOptional := by
  have harguments : ((keptParameters r endpoint.operation).map fun k =>
      (parameterField k.1 k.2).value).all (fun f => f.head.isOptional) =
        !(keptParameters r endpoint.operation).any fun k => k.2.isRequired := by
    rw [List.all_map, List.not_any_eq_all_not]
    rfl
  rw [compile_optionsOptional, RequestType.all_isOptional, compile_request_arguments, harguments,
    compile_request_body, bodyPart_resolveKeys, isRequired_bodyPart, Bool.not_or,
    List.not_any_eq_all_not (l := BodyFields.list _)]
  simp only [Bool.not_not]

/-- The fields of a request have types that can be read. -/
theorem isReadable_of_mem_fields_compile {f : Field}
    (h : f ∈ (compile r endpoint).1.method.request.fields) : f.type.IsReadable := by
  rw [RequestType.fields_eq_append, compile_request_arguments, compile_request_body,
    bodyPart_resolveKeys, (bodyPart_eq_filter _ _ _ _).1, List.mem_append, List.mem_append] at h
  rcases h with (h | h) | h
  · obtain ⟨k, -, rfl⟩ := List.mem_map.mp h
    exact (Schema.fieldType_spec [k.1] (parameterNode k.2)).2
  · exact isReadable_of_mem_askedFields (List.mem_append_right _ (List.mem_of_mem_filter h))
  · exact isReadable_of_mem_callFields h

/-- The options of a method may be left out, in both signatures in which they may at all and in the
implementation, exactly if its request type declares nothing but properties that may be left out and
other keys. -/
theorem exists_asksFor_compile :
    ∃ members, (compile r endpoint).1.method.AsksFor members := by
  have hread := isReadable_compile r endpoint
  have hroute := Method.readTemplate_route (compile r endpoint).1.method fun a ha =>
    (isBinding_iff.mp (hread.binding a ha)).1
  refine ⟨(compile r endpoint).1.method.request.entries.map RequestEntry.member, ?_⟩
  constructor
  case declared =>
    refine RequestType.isOpenRecord_text_iff ?_ fun f => isReadable_of_mem_fields_compile r endpoint
    rw [compile_request_name]
    exact isIdentifier_requestNameFor _
  case written => exact Method.text_eq _
  case signatures =>
    rw [← compile_optionsOptional_eq_all]
    exact (Method.areSignatures_signatures hread).imp fun _ _ h => isSignature_iff h
  case implementation =>
    rw [← compile_optionsOptional_eq_all]
    exact Method.options?_implementation hread hroute

end Compile

end TypedClient.Client
