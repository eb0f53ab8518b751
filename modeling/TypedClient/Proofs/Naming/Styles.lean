import TypedClient.Proofs.Naming.Locals

/-!
# Names of methods and types in any style

The names of methods and types rest on how characters beyond ASCII are spelled and on how words
are joined. They are identifiers, whatever the operation is called, as long as joining words
brings in no character that no identifier has. Nothing depends on the spelling: what no
identifier has is masked after it.
-/

namespace TypedClient.Client

/-! ### Types apart -/

theorem requestNameFor_eq (stem : String) :
    requestNameFor stem = "HighSystemsRequest" ++ stem := rfl

theorem responseNameFor_eq (stem : String) :
    responseNameFor stem = "HighSystemsResponse" ++ stem := rfl

/-- No request type has the name of a response type. -/
theorem requestNameFor_ne_responseNameFor (a b : String) :
    requestNameFor a ≠ responseNameFor b := by
  intro h
  have hq : (requestNameFor a).toList[13]? = some 'q' := by
    rw [requestNameFor_eq, String.toList_append, List.getElem?_append_left (by simp)]
    simp
  have hs : (responseNameFor b).toList[13]? = some 's' := by
    rw [responseNameFor_eq, String.toList_append, List.getElem?_append_left (by simp)]
    simp
  rw [h, hs] at hq
  exact absurd hq (by decide)

/-! ### Identifiers -/

section Identifiers

variable [NameStyle]

/-- The words that are left of a name may be none, and may start with a digit. -/
theorem isIdentifier_methodName (operationId : String) :
    isIdentifier (methodName operationId).toList = true := by
  have hi := inIdentifier_of_mem_words operationId.toList
  rw [methodName]
  split
  · decide
  · next hne =>
    split
    · rw [toList_underscore_append, String.toList_ofList]
      exact isIdentifier_underscore hi
    · next hd =>
      rw [String.toList_ofList]
      refine isIdentifier_of_not_startsWithDigit hi ?_ hd
      exact fun hnil => hne (List.isEmpty_iff.mpr hnil)

/-- A stem is made of identifier characters. -/
theorem inIdentifier_of_mem_typeStem {method : String} (h : isIdentifier method.toList = true) :
    ∀ c ∈ (typeStem method).toList, inIdentifier c = true := by
  rw [typeStem, String.toList_ofList]
  exact NameStyle.pascalCase_inIdentifier _ fun _ hc => inIdentifier_of_mem_identifier h hc

/-- A stem makes a name of a type, whether or not the stem could name one itself. -/
theorem isIdentifier_append_typeStem {front : String} (hf : isIdentifier front.toList = true)
    (operationId : String) :
    isIdentifier (front ++ typeStem (methodName operationId)).toList = true := by
  rw [String.toList_append]
  exact isIdentifier_append hf
    (inIdentifier_of_mem_typeStem (isIdentifier_methodName operationId))

/-- The name of a request type is an identifier. -/
theorem isIdentifier_requestNameFor (id : String) :
    isIdentifier (requestNameFor (typeStem (methodName id))).toList = true := by
  rw [requestNameFor_eq]
  exact isIdentifier_append_typeStem (by decide) id

/-- The name of a response type is an identifier. -/
theorem isIdentifier_responseNameFor (id : String) :
    isIdentifier (responseNameFor (typeStem (methodName id))).toList = true := by
  rw [responseNameFor_eq]
  exact isIdentifier_append_typeStem (by decide) id

end Identifiers

/-- Whatever operations are called, their methods and types can be declared: the names are
identifiers, and no request type has the name of a response type. -/
structure AreDeclarable (methodName typeStem : String → String) : Prop where
  method (id : String) : isIdentifier (methodName id).toList = true
  request (id : String) : isIdentifier (requestNameFor (typeStem (methodName id))).toList = true
  response (id : String) : isIdentifier (responseNameFor (typeStem (methodName id))).toList = true
  distinct (id other : String) :
    requestNameFor (typeStem (methodName id)) ≠ responseNameFor (typeStem (methodName other))

/-- In every style, every operation gives a client names that it can declare. -/
theorem areDeclarable_in_every_style [NameStyle] : AreDeclarable methodName typeStem where
  method := isIdentifier_methodName
  request := isIdentifier_requestNameFor
  response := isIdentifier_responseNameFor
  distinct _ _ := requestNameFor_ne_responseNameFor _ _

/-- A name may leave no words, or words that start with a digit. -/
example :
    letI := NameStyle.ofSpelling id
    ["_?_", "2-go"].map methodName = ["operation", "_2Go"] := by
  decide +kernel

end TypedClient.Client
