import TypedClient.Client.Transliteration
import TypedClient.Proofs.Client.SeenParts

/-!
# Additions that no client shows

Two documents have the same client if one is the other with additions that `documentView` does
not look at: members of other names anywhere, responses of another status, entries of hidden
media types, and within schemas all that no node is made of. The media types that can be
hidden are those that do not announce JSON. One of them that announces it is no JSON as
documented: `application/json` with another suffix.
-/

namespace TypedClient.Client

open TypedClient.Api
open TypedClient.Json (Tree WrittenAs)

/-- Whether a media type is JSON as documented: `application/json` without a suffix, or any with the
suffix `json`. -/
def isDocumentedJson (m : MediaType) : Bool :=
  (m.type == "application" && m.subtype == "json" && m.suffix.isNone) || m.suffix == some "json"

/-- Whether a media type is `application/json` with a suffix. -/
def isSuffixedJson (m : MediaType) : Bool :=
  m.type == "application" && m.subtype == "json" && m.suffix.isSome

/-- Whether a text is a media type of a kind. -/
def isMediaType (kind : MediaType → Bool) (text : String) : Bool :=
  ((MediaType.parse? text.toList).map kind).getD false

/-- Whether every document that is read is written as a tree, and has the same client as any other
that is read with additions to the tree that are not looked at, with any template, overrides
and mode. Entries of hidden media types are not looked at. -/
def AdditionsUnseen [NameStyle] (hidden : String → Bool) : Prop :=
  ∀ bytes document, Document.read bytes = .ok document →
    ∃ tree, WrittenAs bytes tree ∧
      ∀ bytes' tree' document', WrittenAs bytes' tree' →
        (documentView hidden).Grows tree tree' → Document.read bytes' = .ok document' →
        ∀ template overrides mode,
          generate document' template overrides mode = generate document template overrides mode

/-- What announces JSON is JSON as documented or `application/json` with a suffix. -/
theorem announcesJson_eq (type : String) :
    announcesJson type =
      (isMediaType isDocumentedJson type || isMediaType isSuffixedJson type) := by
  rw [announcesJson, isMediaType, isMediaType]
  cases MediaType.parse? type.toList with
  | none => rfl
  | some m =>
    obtain ⟨kind, subtype, suffix⟩ := m
    simp only [Option.map_some, Option.getD_some, MediaType.isJson, isDocumentedJson,
      isSuffixedJson]
    cases suffix <;> cases kind == "application" <;> cases subtype == "json" <;> simp

/-- Additions to a tree that are not looked at change nothing of what is seen of the document. -/
theorem seen_eq_of_grows {hidden : String → Bool} {bytes bytes' : List UInt8}
    {tree tree' : Tree} {document document' : Document} (hw : WrittenAs bytes tree)
    (hw' : WrittenAs bytes' tree') (hg : (documentView hidden).Grows tree tree')
    (h : Document.read bytes = .ok document) (h' : Document.read bytes' = .ok document') :
    document.seen hidden = document'.seen hidden := by
  obtain ⟨fields, hfields, rfl⟩ := Json.map_eq_ok_iff.mp h
  obtain ⟨fields', hfields', rfl⟩ := Json.map_eq_ok_iff.mp h'
  rw [← Document.ofCarrier_seen, ← Document.ofCarrier_seen,
    Document.shape.seen_eq_of_grows hg (hw.decode_eq hfields) (hw'.decode_eq hfields')]

/-- Additions that are not looked at show in no client, if no media type is hidden that is JSON as
documented or `application/json` with a suffix. -/
theorem additions_unseen [NameStyle] (hidden : String → Bool)
    (h : ∀ type, hidden type = true →
      isMediaType isDocumentedJson type = false ∧ isMediaType isSuffixedJson type = false) :
    AdditionsUnseen hidden := by
  have hhidden : ∀ type, hidden type = true → announcesJson type = false := by
    intro type ht
    obtain ⟨hdocumented, hsuffixed⟩ := h type ht
    rw [announcesJson_eq, hdocumented, hsuffixed]
    rfl
  intro bytes document hread
  obtain ⟨fields, hfields, rfl⟩ := Json.map_eq_ok_iff.mp hread
  obtain ⟨tree, hw, -⟩ := Json.Shape.exists_tree_of_readText hfields
  refine ⟨tree, hw, fun bytes' tree' document' hw' hg hread' template overrides mode => ?_⟩
  rw [← generate_seen hhidden document', ← seen_eq_of_grows hw hw' hg hread hread',
    generate_seen hhidden]

/-- All that does not announce JSON can be hidden at once. -/
theorem additions_unseen_of_unannounced :
    letI := usualStyle
    (∀ type, (!announcesJson type) = true →
      isMediaType isDocumentedJson type = false ∧ isMediaType isSuffixedJson type = false) ∧
    AdditionsUnseen fun type => !announcesJson type := by
  let : NameStyle := usualStyle
  have h : ∀ type, (!announcesJson type) = true →
      isMediaType isDocumentedJson type = false ∧ isMediaType isSuffixedJson type = false := by
    intro type ht
    rw [announcesJson_eq] at ht
    simpa using ht
  exact ⟨h, additions_unseen _ h⟩

/-! ### A suffix that is looked over -/

/-- The text of a document with one operation, whose answer has given entries. -/
def answerText (entries : String) : List UInt8 :=
  ("\x7b\"paths\":\x7b\"/x\":\x7b\"get\":\x7b\"operationId\":\"x\",\"responses\":\x7b\"200\":" ++
    "\x7b\"content\":\x7b" ++ entries ++ "\x7d\x7d\x7d\x7d\x7d\x7d\x7d").toUTF8.toList

/-- The text of the entry of a media type with a schema that names a type. -/
def schemaText (type name : String) : String :=
  "\"" ++ type ++ "\":\x7b\"schema\":\x7b\"type\":\"" ++ name ++ "\"\x7d\x7d"

/-- An object with one member. -/
def singleTree (name : String) (value : Tree) : Tree := .object [(some name, value)]

/-- The tree of the entry of a media type with a schema that names a type. -/
def schemaTree (type name : String) : Option String × Tree :=
  (some type, singleTree "schema" (singleTree "type" (.scalar (.string (some name)))))

/-- The tree of a document with one operation, whose answer has given entries. -/
def answerTree (entries : List (Option String × Tree)) : Tree :=
  singleTree "paths" <| singleTree "/x" <| singleTree "get" <| .object
    [(some "operationId", .scalar (.string (some "x"))),
      (some "responses", singleTree "200" (singleTree "content" (.object entries)))]

/-- The number of warnings for a document, if it can be read. -/
def warningCount? [NameStyle] (bytes : List UInt8) : Option Nat :=
  (Document.read bytes).toOption.map fun document =>
    (build document [] .persistent).tally.warnings.length

theorem exists_of_warningCount? [NameStyle] {bytes : List UInt8} {count : Nat}
    (h : warningCount? bytes = some count) :
    ∃ document, Document.read bytes = .ok document ∧
      (build document [] .persistent).tally.warnings.length = count := by
  obtain ⟨document, hread, hcount⟩ := Option.map_eq_some_iff.mp h
  cases hr : Document.read bytes with
  | error fault => simp [hr, Except.toOption] at hread
  | ok read =>
    rw [hr] at hread
    obtain rfl := Option.some.inj hread
    exact ⟨read, rfl, hcount⟩

theorem singleTree_grows {view inner : View} {name : String} {value value' : Tree}
    (hm : view.member name = some inner) (h : inner.Grows value value') :
    view.Grows (singleTree name value) (singleTree name value') :=
  .object (.kept hm h .done)

/-- The entries of an answer may grow. -/
theorem answerTree_grows {hidden : String → Bool} {entries entries' : List (Option String × Tree)}
    (h : (View.map hidden mediaTypeView).MembersGrow entries entries') :
    (documentView hidden).Grows (answerTree entries) (answerTree entries') := by
  have hanswer : (contentView hidden).Grows (singleTree "content" (.object entries))
      (singleTree "content" (.object entries')) := singleTree_grows rfl (.object h)
  refine singleTree_grows rfl (singleTree_grows rfl (singleTree_grows rfl (.object ?_)))
  exact .kept rfl .same (.kept rfl (singleTree_grows rfl hanswer) .done)

/-- An entry that is no JSON as documented, for its suffix, is taken for JSON: it supplies the schema
in place of the entry after it. -/
theorem suffixedJson_seen :
    letI := usualStyle
    ¬ AdditionsUnseen fun type => !isMediaType isDocumentedJson type := by
  let : NameStyle := usualStyle
  have hcount : warningCount? (answerText (schemaText "application/json" "integer")) = some 0 := by
    decide +kernel
  have hcount' : warningCount? (answerText (schemaText "application/json+xml" "file" ++ "," ++
      schemaText "application/json" "integer")) = some 1 := by decide +kernel
  obtain ⟨document, hread, hnone⟩ := exists_of_warningCount? hcount
  obtain ⟨document', hread', hone⟩ := exists_of_warningCount? hcount'
  intro h
  obtain ⟨tree, hwritten, hunseen⟩ := h _ _ hread
  have hw : WrittenAs (answerText (schemaText "application/json" "integer"))
      (answerTree [schemaTree "application/json" "integer"]) := ⟨[], by decide +kernel⟩
  obtain rfl := hwritten.unique hw
  have hadded : (documentView fun type => !isMediaType isDocumentedJson type).Grows
      (answerTree [schemaTree "application/json" "integer"])
      (answerTree [schemaTree "application/json+xml" "file",
        schemaTree "application/json" "integer"]) :=
    answerTree_grows (.added (View.member_map_of_hidden (by decide +kernel))
      (.kept (View.member_map_of_shown (by decide +kernel)) .same .done))
  have hsame := hunseen _ _ _ ⟨[], by decide +kernel⟩ hadded hread' ⟨[]⟩ []
    .persistent
  have htally : (build document' [] .persistent).tally = (build document [] .persistent).tally :=
    congrArg ClientSource.tally hsame
  rw [htally, hnone] at hone
  exact absurd hone (by decide)

end TypedClient.Client
