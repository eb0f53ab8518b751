import TypedClient.Client.Declaration
import TypedClient.Proofs.Client.TypeText
import TypedClient.Proofs.Script.OpenRecord

/-!
# The text of a request type

The text of a request type is read back as a record with a member for each entry, in
order: a property with the key and the type of a field, or a type for all other keys. A
request type that does not allow any key is written like a record with its fields, so
its text is then one declaration of a type, too.
-/

namespace TypedClient.Client

open TypedClient.Script

/-- The field of an entry. -/
def RequestEntry.field? : RequestEntry → Option Field
  | .field f => some f
  | .anyKey => none

/-- The fields of a request type in order. -/
def RequestType.fields (request : RequestType) : List Field :=
  request.entries.filterMap RequestEntry.field?

/-- The fields that are declared for a body. -/
def BodyFields.list : BodyFields → List Field
  | .fields declared => declared
  | _ => []

/-- Whether a request type allows fields of any key beside its own. -/
def RequestType.AllowsAnyKey (request : RequestType) : Prop :=
  .anyKey ∈ request.entries

theorem RequestType.fields_eq_append (request : RequestType) :
    request.fields = request.arguments ++ request.body.list ++ RequestType.callFields := by
  have hfields (fields : List Field) :
      (fields.map RequestEntry.field).filterMap RequestEntry.field? = fields := by
    rw [List.filterMap_map]
    exact List.filterMap_some
  have hbody : request.bodyEntries.filterMap RequestEntry.field? = request.body.list := by
    rw [RequestType.bodyEntries]
    cases request.body with
    | none => rfl
    | fields declared => exact hfields declared
    | anything => rfl
  rw [RequestType.fields, RequestType.entries, List.filterMap_append, List.filterMap_append,
    hfields, hfields, hbody]

/-- The member that a field is for a reader. -/
def Field.member (field : Field) : MemberHead × TypeTree :=
  (field.head.member, field.type.tree)

section Fields

variable (fields : List Field)

theorem fieldLines_eq_flatMap (level : Nat) :
    TypeExpr.fieldLines level (fields.map fun f => (f.head, f.type)) =
      fields.flatMap (Field.lines level) := by
  induction fields with
  | nil => rfl
  | cons f rest ih =>
    rw [List.map_cons, TypeExpr.fieldLines, ih, List.flatMap_cons, Field.lines,
      TypeExpr.fieldLines, TypeExpr.fieldLines, List.append_nil]

theorem memberTrees_eq_map :
    TypeExpr.memberTrees (fields.map fun f => (f.head, f.type)) = fields.map Field.member := by
  induction fields with
  | nil => rfl
  | cons f rest ih => rw [List.map_cons, TypeExpr.memberTrees, ih, List.map_cons, Field.member]

theorem areReadable_iff :
    TypeExpr.AreReadable (fields.map fun f => (f.head, f.type)) ↔
      ∀ f ∈ fields, f.type.IsReadable := by
  induction fields with
  | nil => simp [TypeExpr.AreReadable]
  | cons f rest ih => rw [List.map_cons, TypeExpr.AreReadable, ih, List.forall_mem_cons]

end Fields

variable {request : RequestType}

theorem RequestType.entries_eq_map (h : ¬ request.AllowsAnyKey) :
    request.entries = request.fields.map .field := by
  have hentries : ∀ entries : List RequestEntry, .anyKey ∉ entries →
      entries = (entries.filterMap RequestEntry.field?).map .field := by
    intro entries hentries
    induction entries with
    | nil => rfl
    | cons entry rest ih =>
      rw [List.mem_cons, not_or] at hentries
      cases entry with
      | field f =>
        have hfield : (RequestEntry.field f).field? = some f := rfl
        rw [List.filterMap_cons_some hfield, List.map_cons, ← ih hentries.2]
      | anyKey => exact absurd rfl hentries.1
  exact hentries request.entries h

/-- A request type is written like a record type. -/
theorem RequestType.lines_eq_aliasLines (h : ¬ request.AllowsAnyKey) :
    request.lines =
      aliasLines 0 none request.name (.record (request.fields.map fun f => (f.head, f.type))) := by
  have hcomment : commentBlock none 0 = [] := by decide
  have hfields : (request.fields.map RequestEntry.field).flatMap RequestEntry.lines =
      request.fields.flatMap (Field.lines 1) := by
    rw [List.flatMap_map]
    rfl
  have hindent : indent 0 = "" := rfl
  rw [aliasLines, TypeExpr.lines, hcomment, hindent, fieldLines_eq_flatMap, RequestType.lines,
    RequestType.entries_eq_map h, hfields, List.nil_append, String.empty_append,
    String.empty_append, String.append_assoc]
  rfl

/-- The text of a request type that does not allow any key is one declaration with a member for each
field, in order, and no other. -/
theorem RequestType.isDeclaration_text_iff (h : ¬ request.AllowsAnyKey)
    (hn : isIdentifier request.name.toList = true)
    (hr : ∀ f ∈ request.fields, f.type.IsReadable) (declared : Declared) :
    IsDeclaration request.text declared ↔
      declared = .named request.name (.record (request.fields.map Field.member)) := by
  have hrecord : (TypeExpr.record (request.fields.map fun f => (f.head, f.type))).IsReadable :=
    (areReadable_iff request.fields).mpr hr
  have hread := isDeclaration_alias 0 none hn hrecord
  rw [← RequestType.lines_eq_aliasLines h, TypeExpr.tree, memberTrees_eq_map] at hread
  exact isDeclaration_iff hread declared

/-! ### All entries -/

/-- The member that an entry is for a reader. -/
def RequestEntry.member : RequestEntry → Member
  | .field f => .property f.head.member f.type.tree
  | .anyKey => .anyKey (.name "any")

/-- The lines of an entry are a block with the tokens of its member. -/
theorem RequestEntry.exists_isMember {entry : RequestEntry}
    (hr : ∀ f ∈ entry.field?, f.type.IsReadable) :
    ∃ ts, IsBlock ("\n".intercalate entry.lines) ts ∧ IsMember ts entry.member := by
  cases entry with
  | field f =>
    obtain ⟨ts, hblock, hdeclares⟩ := Field.exists_declares 1 (hr f rfl)
    exact ⟨ts, hblock, .property hdeclares⟩
  | anyKey =>
    have hany : IsOperand [.word "any"] (.name "any") := isOperand_name (by decide)
    exact ⟨_, rfl, .anyKey (show isIdentifier "key".toList = true by decide) hany.isType⟩

/-- The lines of entries are a block with the tokens of their members. -/
theorem exists_areMembers_entries {entries : List RequestEntry}
    (hr : ∀ f ∈ entries.filterMap RequestEntry.field?, f.type.IsReadable) :
    ∃ parts, IsBlock ("\n".intercalate (entries.flatMap RequestEntry.lines)) parts.flatten ∧
      List.Forall₂ IsMember parts (entries.map RequestEntry.member) := by
  induction entries with
  | nil => exact ⟨[], isBlock_empty, .nil⟩
  | cons entry rest ih =>
    have hentry : ∀ f ∈ entry.field?, f.type.IsReadable := fun f hf =>
      hr f (List.mem_filterMap.mpr ⟨entry, List.mem_cons_self, hf⟩)
    have hrest : ∀ f ∈ rest.filterMap RequestEntry.field?, f.type.IsReadable := by
      intro f hf
      obtain ⟨e, he, hfield⟩ := List.mem_filterMap.mp hf
      exact hr f (List.mem_filterMap.mpr ⟨e, List.mem_cons_of_mem entry he, hfield⟩)
    obtain ⟨ts, hblock, hmember⟩ := entry.exists_isMember hentry
    obtain ⟨parts, hblocks, hmembers⟩ := ih hrest
    refine ⟨ts :: parts, ?_, .cons hmember hmembers⟩
    rw [List.flatMap_cons, List.flatten_cons]
    exact hblock.lines_append hblocks

/-- The text of a request type declares a record with a member for each entry, in order, and
nothing else. -/
theorem RequestType.isOpenRecord_text_iff (hn : isIdentifier request.name.toList = true)
    (hr : ∀ f ∈ request.fields, f.type.IsReadable) (name : String) (members : List Member) :
    IsOpenRecord request.text name members ↔
      name = request.name ∧ members = request.entries.map RequestEntry.member := by
  have hrecord :
      IsOpenRecord request.text request.name (request.entries.map RequestEntry.member) := by
    have hequals : IsBlock " = " [.mark '='] := rfl
    have hend : IsBlock ";" [.mark ';'] := rfl
    have hfront := isBlock_identifier hn hequals rfl
    obtain ⟨parts, hblocks, hmembers⟩ := exists_areMembers_entries hr
    have hlines : request.lines = [request.name ++ " = " ++ "\x7b"] ++
        request.entries.flatMap RequestEntry.lines ++ [indent 0 ++ "\x7d" ++ ";"] := by
      rw [RequestType.lines, String.append_assoc]
      rfl
    refine ⟨hn, parts, ?_, hmembers⟩
    rw [RequestType.text, hlines, scan_of_isBlock (isBlock_braces 0 hfront hblocks hend)]
    simp
  constructor
  · exact fun h => hrecord.unique h
  · rintro ⟨rfl, rfl⟩
    exact hrecord

end TypedClient.Client
