import TypedClient.Api.Document
import TypedClient.Proofs.Api.MediaTypeGrammar

/-!
# Entries that announce JSON

A body and an answer have the schema of the first entry of their content that is taken for
JSON, or none if that entry has none. These are the entries of media types that are JSON, and
one kind besides: of `application/json` with a suffix the suffix is overlooked.
-/

namespace TypedClient.Api

/-- Whether a text is a media type that is JSON: `application/json` without a suffix, or any with
the suffix `json`. -/
def IsJsonType (type : String) : Prop :=
  ∃ m : MediaType, m.IsWritten type.toList ∧
    (m.type = "application" ∧ m.subtype = "json" ∧ m.suffix = none ∨ m.suffix = some "json")

/-- Whether a text is the media type `application/json` with a suffix other than `json`. -/
def IsOverlooked (type : String) : Prop :=
  ∃ m : MediaType, m.IsWritten type.toList ∧ m.type = "application" ∧ m.subtype = "json" ∧
    ∃ suffix, m.suffix = some suffix ∧ suffix ≠ "json"

/-- Whether a schema is that of the first entry of a kind. There is none if that entry has none, or
if there is no such entry. -/
inductive UsesFirst (kind : String → Prop) : Content → Option Json → Prop
  /-- The first entry of the kind. -/
  | entry {before after : Content} {type : String} {schema? : Option Json}
    (hb : ∀ other ∈ before, ¬ kind other.1) (ht : kind type) :
    UsesFirst kind (before ++ (type, schema?) :: after) schema?
  /-- No entry of the kind. -/
  | missing {content : Content} (h : ∀ entry ∈ content, ¬ kind entry.1) :
    UsesFirst kind content none

theorem UsesFirst.congr {kind other : String → Prop} {content : Content} {schema? : Option Json}
    (h : UsesFirst kind content schema?) (hk : ∀ entry ∈ content, kind entry.1 ↔ other entry.1) :
    UsesFirst other content schema? := by
  cases h with
  | @entry before after type schema? hb ht =>
    refine .entry (fun entry he => ?_) ?_
    · rw [← hk entry (List.mem_append_left _ he)]
      exact hb entry he
    · exact (hk (type, schema?) (List.mem_append_right _ List.mem_cons_self)).mp ht
  | missing hnone =>
    refine .missing fun entry he => ?_
    rw [← hk entry he]
    exact hnone entry he

/-- The schema of a content is that of its first entry that announces JSON. -/
theorem usesFirst_announcedSchema? (content : Content) :
    UsesFirst (announcesJson · = true) content content.announcedSchema? := by
  rw [Content.announcedSchema?]
  cases hf : content.find? fun entry => announcesJson entry.1 with
  | none =>
    rw [Option.bind_none]
    exact .missing (List.find?_eq_none.mp hf)
  | some entry =>
    obtain ⟨ht, before, after, rfl, hb⟩ := List.find?_eq_some_iff_append.mp hf
    rw [Option.bind_some]
    exact .entry (fun other ho => by simpa using hb other ho) ht

/-- A text announces JSON if it is a media type that does. -/
theorem announcesJson_iff {type : String} :
    announcesJson type = true ↔ ∃ m : MediaType, m.IsWritten type.toList ∧
      (m.type = "application" ∧ m.subtype = "json" ∨ m.suffix = some "json") := by
  have hparse : announcesJson type = true ↔
      ∃ m, MediaType.parse? type.toList = some m ∧ m.isJson = true := by
    rw [announcesJson]
    cases MediaType.parse? type.toList <;> simp
  rw [hparse]
  refine exists_congr fun m => and_congr MediaType.parse?_eq_some_iff ?_
  rw [MediaType.isJson, Bool.or_eq_true, Bool.and_eq_true, beq_iff_eq, beq_iff_eq, beq_iff_eq]

/-- What announces JSON is JSON, or its suffix is overlooked. -/
theorem announcesJson_iff_or {type : String} :
    announcesJson type = true ↔ IsJsonType type ∨ IsOverlooked type := by
  rw [announcesJson_iff, IsJsonType, IsOverlooked, ← exists_or]
  refine exists_congr fun m => ?_
  rw [← and_or_left]
  refine and_congr_right fun _ => ?_
  cases m.suffix with
  | none => simp
  | some suffix =>
    by_cases hs : suffix = "json"
    · simp [hs]
    · simp [hs]

/-- No suffix that is overlooked is that of JSON. -/
theorem not_isJsonType_of_isOverlooked {type : String} (h : IsOverlooked type) :
    ¬ IsJsonType type := by
  obtain ⟨m, hm, -, -, suffix, hsuffix, hne⟩ := h
  rintro ⟨other, ho, hjson⟩
  obtain rfl := hm.unique ho
  rw [hsuffix] at hjson
  rcases hjson with ⟨-, -, hnone⟩ | hsome
  · cases hnone
  · exact hne (Option.some.inj hsome)

/-- A text announces JSON exactly if it is a media type that is JSON, save those whose suffix is
overlooked; and the schemas of a body and of an answer are those of the first entries of these
media types. -/
theorem schemas_of_first_json (operation : Operation) :
    (∀ type, (announcesJson type = true ↔ IsJsonType type) ↔ ¬ IsOverlooked type) ∧
      UsesFirst (fun type => IsJsonType type ∨ IsOverlooked type)
        (operation.requestBody.getD []) operation.requestSchema? ∧
      UsesFirst (fun type => IsJsonType type ∨ IsOverlooked type)
        ((Json.lookup successCode operation.responses).getD []) operation.answerSchema? := by
  have hfirst (content? : Option Content) :
      UsesFirst (fun type => IsJsonType type ∨ IsOverlooked type) (content?.getD [])
        (content?.bind Content.announcedSchema?) := by
    cases content? with
    | none => exact .missing fun _ he => absurd he List.not_mem_nil
    | some content => exact (usesFirst_announcedSchema? content).congr fun _ _ => announcesJson_iff_or
  refine ⟨fun type => ?_, hfirst operation.requestBody, hfirst _⟩
  rw [announcesJson_iff_or]
  constructor
  · intro h ho
    exact not_isJsonType_of_isOverlooked ho (h.mp (.inr ho))
  · intro ho
    exact or_iff_left ho

/-- An entry of `application/json` with the suffix of another syntax supplies the schema in place of
the entry that is JSON. -/
theorem suffixedType_supplies_schema :
    announcesJson "application/json+xml" = true ∧ ¬ IsJsonType "application/json+xml" ∧
      Content.announcedSchema?
        [("application/json+xml", some .null), ("application/json", none)] = some .null := by
  have hread : MediaType.parse? "application/json+xml".toList =
      some ⟨"application", "json", some "xml"⟩ := by decide
  refine ⟨by decide, ?_, rfl⟩
  apply not_isJsonType_of_isOverlooked
  exact ⟨_, MediaType.isWritten_of_parse? hread, rfl, rfl, "xml", rfl, by decide⟩

end TypedClient.Api
