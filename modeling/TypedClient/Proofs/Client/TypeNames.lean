import TypedClient.Client.Transliteration
import TypedClient.Proofs.Client.Building
import TypedClient.Proofs.Naming.Humps
import TypedClient.Proofs.Naming.Styles

/-!
# The names of the exported types

The names are read off the declarations that a client exports. A request type and a
response type never have one name, so two of them clash only if two methods have one
stem. `exportedNames_nodup_iff` says for which documents none do, in whatever way names
are spelled.
-/

namespace TypedClient.Client

open TypedClient.Api

/-- The name that a declaration gives to a type. -/
def declaredName (declaration : String) : String :=
  String.ofList (declaration.toList.takeWhile (· != ' '))

/-- The names that the exported declarations give, two for each method. -/
def exportedNames (methods : List Method) : List String :=
  methods.flatMap fun m => [declaredName m.request.text, declaredName m.response.text]

/-! ### Reading the names off -/

/-- A declaration that starts with a name and a space gives that name. -/
theorem declaredName_of_front {name rest : String} (h : ' ' ∉ name.toList) :
    declaredName (name ++ " " ++ rest) = name := by
  have ht : (name ++ " " ++ rest).toList.takeWhile (· != ' ') = name.toList := by
    rw [String.toList_append, String.toList_append, List.append_assoc,
      List.takeWhile_append_of_pos]
    · simp
    · intro c hc
      rw [bne_iff_ne]
      rintro rfl
      exact h hc
  rw [declaredName, ht, String.ofList_toList]

/-- The lines of a type start with the text that is put before it. -/
theorem TypeExpr.lines_front (type : TypeExpr) (level : Nat) (front back : String) :
    ∃ first rest, type.lines level front back = (front ++ first) :: rest :=
  match type with
  | .name text => ⟨text ++ back, [], by rw [TypeExpr.lines, String.append_assoc]⟩
  | .union first others =>
    ⟨" | ".intercalate ((first :: others).map Literal.text) ++ back, [], by
      rw [TypeExpr.lines, String.append_assoc]⟩
  | .group inner => by
    obtain ⟨first, rest, h⟩ := inner.lines_front level (front ++ "(") (")" ++ back)
    exact ⟨"(" ++ first, rest, by rw [TypeExpr.lines, h, String.append_assoc]⟩
  | .array element => by
    obtain ⟨first, rest, h⟩ := element.lines_front level front ("[]" ++ back)
    exact ⟨first, rest, by rw [TypeExpr.lines, h]⟩
  | .orFalse inner => by
    obtain ⟨first, rest, h⟩ := inner.lines_front level front (" | false" ++ back)
    exact ⟨first, rest, by rw [TypeExpr.lines, h]⟩
  | .record fields =>
    ⟨"\x7b", TypeExpr.fieldLines (level + 1) fields ++ [indent level ++ "\x7d" ++ back], by
      rw [TypeExpr.lines]; rfl⟩

private theorem intercalate_front (separator front : String) (lines : List String) :
    ∃ rest, separator.intercalate (front :: lines) = front ++ rest := by
  cases lines with
  | nil => exact ⟨"", by simp⟩
  | cons line lines =>
    exact ⟨separator ++ separator.intercalate (line :: lines), by
      rw [String.intercalate_cons_cons, String.append_assoc]⟩

theorem declaredName_request {request : RequestType} (h : ' ' ∉ request.name.toList) :
    declaredName request.text = request.name := by
  obtain ⟨rest, hr⟩ := intercalate_front "\n" (request.name ++ " = \x7b")
    (request.entries.flatMap RequestEntry.lines ++ ["\x7d;"])
  have ht : request.text = request.name ++ " " ++ ("= \x7b" ++ rest) := by
    have hs : " = \x7b" = " " ++ "= \x7b" := rfl
    rw [RequestType.text, RequestType.lines, List.append_assoc, List.singleton_append, hr, hs]
    simp only [String.append_assoc]
  rw [ht, declaredName_of_front h]

theorem declaredName_response {response : ResponseType} (h : ' ' ∉ response.name.toList) :
    declaredName response.text = response.name := by
  obtain ⟨first, lines, hl⟩ := response.type.lines_front 0 (indent 0 ++ response.name ++ " = ") ";"
  obtain ⟨rest, hr⟩ := intercalate_front "\n" (indent 0 ++ response.name ++ " = " ++ first) lines
  have ht : response.text = response.name ++ " " ++ ("= " ++ first ++ rest) := by
    rw [ResponseType.text, ResponseType.lines, aliasLines, hl]
    have hc : commentBlock none 0 = [] := rfl
    rw [hc, List.nil_append, hr]
    have hi : indent 0 = "" := rfl
    have hs : " = " = " " ++ "= " := rfl
    rw [hi, String.empty_append, hs]
    simp only [String.append_assoc]
  rw [ht, declaredName_of_front h]

/-! ### Clashes -/

/-- The names of the two types for a stem. -/
def typeNames (stem : String) : List String :=
  [requestNameFor stem, responseNameFor stem]

theorem nodup_typeNames (stem : String) : (typeNames stem).Nodup := by
  simp [typeNames, requestNameFor_ne_responseNameFor]

/-- Two stems share a type name only if they are the same. -/
theorem disjoint_typeNames_iff {a b : String} :
    (typeNames a).Disjoint (typeNames b) ↔ a ≠ b := by
  constructor
  · rintro h rfl
    exact h List.mem_cons_self List.mem_cons_self
  · intro hne name ha hb
    simp only [typeNames, List.mem_cons, List.not_mem_nil, or_false] at ha hb
    rcases ha with rfl | rfl
    · rcases hb with hb | hb
      · exact hne ((String.append_right_inj _).mp hb)
      · exact requestNameFor_ne_responseNameFor _ _ hb
    · rcases hb with hb | hb
      · exact requestNameFor_ne_responseNameFor _ _ hb.symm
      · exact hne ((String.append_right_inj _).mp hb)

/-- The names for some stems are distinct exactly when the stems are. -/
theorem nodup_flatMap_typeNames {stems : List String} :
    (stems.flatMap typeNames).Nodup ↔ stems.Nodup := by
  rw [List.nodup_flatMap]
  constructor
  · rintro ⟨-, h⟩
    exact h.imp disjoint_typeNames_iff.mp
  · intro h
    exact ⟨fun stem _ => nodup_typeNames stem, h.imp disjoint_typeNames_iff.mpr⟩

private theorem space_not_mem_of_stem [NameStyle] (front id : String) (h : ' ' ∉ front.toList) :
    ' ' ∉ (front ++ typeStem (methodName id)).toList := by
  rw [String.toList_append, List.mem_append]
  rintro (hf | hs)
  · exact h hf
  · exact absurd (inIdentifier_of_mem_typeStem (isIdentifier_methodName id) _ hs) (by decide)

/-- The names that a build exports are those for the stems of its methods. -/
theorem exportedNames_build [NameStyle] (document : Document) (overrides : Overrides)
    (mode : OverrideMode) :
    exportedNames (build document overrides mode).methods =
      (((build document overrides mode).methods.map Method.name).map typeStem).flatMap
        typeNames := by
  rw [exportedNames, List.map_map, List.flatMap_map]
  refine List.flatMap_congr fun m hm => ?_
  obtain ⟨r, e, -, rfl⟩ := exists_compile_of_mem_build hm
  rw [declaredName_request, declaredName_response]
  · rw [compile_request_name, compile_response_name, Function.comp_apply, compile_name, typeNames]
  · exact space_not_mem_of_stem "HighSystemsResponse" _ (by simp)
  · exact space_not_mem_of_stem "HighSystemsRequest" _ (by simp)

/-- The types that a client exports have distinct names exactly when no two operations of the
document have different method names that are the same up to case and have the same humps, however
names are spelled. -/
theorem exportedNames_nodup_iff (spell : List Char → List Char) (document : Document)
    (overrides : Overrides) (mode : OverrideMode) :
    letI := NameStyle.ofSpelling spell
    (exportedNames (build document overrides mode).methods).Nodup ↔
      ∀ e ∈ document.endpoints, ∀ f ∈ document.endpoints,
        SameHumps (methodName e.operation.operationId) (methodName f.operation.operationId) →
          methodName e.operation.operationId = methodName f.operation.operationId := by
  let : NameStyle := NameStyle.ofSpelling spell
  rw [exportedNames_build, nodup_flatMap_typeNames,
    List.nodup_map_iff_inj_on (nodup_map_name_build document overrides mode)]
  simp only [mem_map_name_build]
  constructor
  · intro h e he f hf hs
    exact h _ ⟨e, he, rfl⟩ _ ⟨f, hf, rfl⟩ ((typeStem_methodName_eq_iff spell _ _).mpr hs)
  · rintro h _ ⟨e, he, rfl⟩ _ ⟨f, hf, rfl⟩ hs
    exact h e he f hf ((typeStem_methodName_eq_iff spell _ _).mp hs)

/-- A document with an operation `a-b-c` and an operation `a-bc`. -/
def letterNames : Document :=
  let operation (id : String) : Operation := ⟨id, none, none, [], none, []⟩
  ⟨none, none, [("/x", ⟨none, some (operation "a-b-c"), none, some (operation "a-bc")⟩)]⟩

/-- The methods `aBC` and `aBc` share the stem `ABc`. -/
theorem letterNames_clash :
    letI := usualStyle
    ¬ (exportedNames (build letterNames [] .persistent).methods).Nodup := by
  let : NameStyle := usualStyle
  decide +kernel

end TypedClient.Client
