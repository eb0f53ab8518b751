import TypedClient.Client.TypeExpr
import TypedClient.Proofs.Client.CommentReading
import TypedClient.Proofs.Client.Entries
import TypedClient.Proofs.Json.NumberText
import TypedClient.Proofs.Script.TypeGrammar

/-!
# The text of a type

The lines of a type are derived by the grammar as the tree of the type, whatever block
stands before them and after them, if the type is readable: its names may be used as
names, and what becomes an array or may also be `false` binds as tight as brackets do.
`TypeExpr.exists_isType` and `exists_areMembers` say this of types and of fields, by
one induction on both; no line of either has a line feed in it.
-/

namespace TypedClient.Client

open TypedClient.Script

/-! ### Trees -/

/-- The type that a literal stands for. -/
def Literal.tree : Literal → TypeTree
  | .string value => .string value
  | .null => .null
  | .bool value => .bool value
  | .number value => .number value.value
  | .any => .name "any"

/-- What a field says beside its type, for a reader. -/
def FieldHead.member (head : FieldHead) : MemberHead :=
  ⟨head.key, head.isOptional⟩

namespace TypeExpr

mutual
/-- The type that a type is for a reader. -/
def tree : TypeExpr → TypeTree
  | .name text => .name text
  | .union first others => unionOf ((first :: others).map Literal.tree)
  | .group inner => inner.tree
  | .array element => .array element.tree
  | .orFalse inner => .union [inner.tree, .bool false]
  | .record fields => .record (memberTrees fields)
/-- The members that fields are for a reader. -/
def memberTrees : List (FieldHead × TypeExpr) → List (MemberHead × TypeTree)
  | [] => []
  | (head, type) :: rest => (head.member, type.tree) :: memberTrees rest
end

/-- Whether brackets after the type bind the whole of it. -/
def isOperand : TypeExpr → Bool
  | .union _ _ => false
  | .orFalse _ => false
  | _ => true

mutual
/-- Whether the names within a type may be names, and brackets and bars bind what they should. -/
def IsReadable : TypeExpr → Prop
  | .name text => isBinding text = true
  | .union _ _ => True
  | .group inner => inner.IsReadable
  | .array element => element.IsReadable ∧ element.isOperand = true
  | .orFalse inner => inner.IsReadable ∧ inner.isOperand = true
  | .record fields => AreReadable fields
/-- Whether the types of fields are readable. -/
def AreReadable : List (FieldHead × TypeExpr) → Prop
  | [] => True
  | (_, type) :: rest => type.IsReadable ∧ AreReadable rest
end

end TypeExpr

/-! ### Literals -/

/-- A literal is an operand that stands for its type. -/
theorem Literal.exists_isOperand (literal : Literal) {back : String} {rest : List Token}
    (hb : IsBlock back rest) (hend : endsWord back = true) :
    ∃ ts, IsBlock (literal.text ++ back) (ts ++ rest) ∧ IsOperand ts literal.tree := by
  have hword {word : String} {type : TypeTree} (hi : isIdentifier word.toList = true)
      (ht : wordType? word = some type) :
      ∃ ts, IsBlock (word ++ back) (ts ++ rest) ∧ IsOperand ts type :=
    ⟨[.word word], isBlock_identifier hi hb hend, IsOperand.word ht⟩
  cases literal with
  | string value =>
    exact ⟨[.string value], (isBlock_quoted value).append hb, IsOperand.string value⟩
  | null => exact hword (by decide) rfl
  | bool value => cases value <;> exact hword (by decide) rfl
  | number value =>
    obtain ⟨numeral, n, hn, ⟨htext, hvalue⟩ | ⟨htext, hvalue⟩⟩ :=
      Json.Number.exists_numeral_text value
    · refine ⟨[.word numeral], ?_, ?_⟩
      · rw [Literal.text, htext]
        exact isBlock_numeral hn hb hend
      · rw [Literal.tree, hvalue]
        exact isOperand_numeral hn
    · refine ⟨[.mark '-', .word numeral], ?_, ?_⟩
      · have hsign : IsBlock "-" [.mark '-'] := rfl
        rw [Literal.text, htext, String.append_assoc]
        exact hsign.append (isBlock_numeral hn hb hend)
      · rw [Literal.tree, hvalue]
        exact IsOperand.negative hn
  | any => exact hword (by decide) rfl

/-- Literals with bars between them are operands with bars between them. -/
theorem exists_isOperand_literals (literals : List Literal) {back : String}
    {rest : List Token} (hne : literals ≠ []) (hb : IsBlock back rest)
    (hend : endsWord back = true) :
    ∃ parts, IsBlock (" | ".intercalate (literals.map Literal.text) ++ back)
        ([Token.mark '|'].intercalate parts ++ rest) ∧
      List.Forall₂ IsOperand parts (literals.map Literal.tree) := by
  induction literals with
  | nil => exact absurd rfl hne
  | cons literal literals ih =>
    cases literals with
    | nil =>
      obtain ⟨ts, hblock, hoperand⟩ := literal.exists_isOperand hb hend
      refine ⟨[ts], ?_, .cons hoperand .nil⟩
      rw [List.map_singleton, String.intercalate_singleton, List.intercalate_singleton]
      exact hblock
    | cons next literals =>
      obtain ⟨parts, hblock, hoperands⟩ := ih (List.cons_ne_nil _ _)
      have hbar : IsBlock " | " [.mark '|'] := rfl
      obtain ⟨ts, hfirst, hoperand⟩ := literal.exists_isOperand (hbar.append hblock)
        (endsWord_append rfl _)
      refine ⟨ts :: parts, ?_, .cons hoperand hoperands⟩
      have hparts : parts ≠ [] := by
        rintro rfl
        cases hoperands
      rw [List.map_cons, String.intercalate_cons_of_ne_nil (by simp),
        List.intercalate_cons_of_ne_nil hparts]
      simpa only [String.append_assoc, List.append_assoc] using hfirst

/-! ### Fields -/

theorem key?_keyToken (name : String) : key? (keyToken name) = some name := by
  rw [keyToken]
  split
  · next h => rw [key?, if_pos h]
  · rfl

theorem isBlock_keyText (name : String) {back : String} {rest : List Token}
    (hb : IsBlock back rest) (hend : endsWord back = true) :
    IsBlock (keyText name ++ back) (keyToken name :: rest) := by
  rw [keyText, keyToken]
  split
  · next h => exact isBlock_identifier h hb hend
  · exact (isBlock_quoted name).append hb

/-- Before the type of a field stand its key, its mark and a colon. -/
theorem isBlock_front (level : Nat) (head : FieldHead) :
    IsBlock (head.front level)
      (keyToken head.key :: optionalTokens head.isOptional ++ [.mark ':']) := by
  have hmark : IsBlock ((if head.isOptional then "?" else "") ++ ": ")
      (optionalTokens head.isOptional ++ [.mark ':']) := by
    cases head.isOptional <;> rfl
  have hend : endsWord ((if head.isOptional then "?" else "") ++ ": ") = true := by
    cases head.isOptional <;> rfl
  rw [FieldHead.front, String.append_assoc, String.append_assoc]
  exact (isBlock_indent level).append (isBlock_keyText head.key hmark hend)

/-! ### Types -/

/-- Lines in braces, of which one stands at the end of the first line and one at the start of the
last. -/
theorem isBlock_braces (level : Nat) {front back : String} {lines : List String}
    {before ts after : List Token} (hf : IsBlock front before)
    (hl : IsBlock ("\n".intercalate lines) ts) (hb : IsBlock back after) :
    IsBlock ("\n".intercalate ([front ++ "\x7b"] ++ lines ++ [indent level ++ "\x7d" ++ back]))
      (before ++ (.mark '\x7b' :: ts ++ [.mark '\x7d']) ++ after) := by
  have hopen : IsBlock "\x7b" [.mark '\x7b'] := rfl
  have hclose : IsBlock "\x7d" [.mark '\x7d'] := rfl
  have hfirst : IsBlock ("\n".intercalate [front ++ "\x7b"]) (before ++ [.mark '\x7b']) := by
    rw [String.intercalate_singleton]
    exact hf.append hopen
  have hlast : IsBlock ("\n".intercalate [indent level ++ "\x7d" ++ back])
      (.mark '\x7d' :: after) := by
    rw [String.intercalate_singleton]
    exact ((isBlock_indent level).append hclose).append hb
  simpa using (hfirst.lines_append hl).lines_append hlast

mutual
/-- The lines of a readable type are a type with its tree, between any two blocks. -/
theorem TypeExpr.exists_isType (type : TypeExpr) (hr : type.IsReadable) (level : Nat)
    {front back : String} {before after : List Token} (hf : IsBlock front before)
    (hb : IsBlock back after) (hend : endsWord back = true) :
    ∃ ts, IsBlock ("\n".intercalate (type.lines level front back)) (before ++ ts ++ after) ∧
      IsType ts type.tree ∧ (type.isOperand = true → IsOperand ts type.tree) := by
  cases type with
  | name text =>
    have hname : IsOperand [.word text] (.name text) := isOperand_name hr
    have hblock := hf.append (isBlock_identifier (isBinding_iff.mp hr).1 hb hend)
    refine ⟨[.word text], ?_, hname.isType, fun _ => hname⟩
    rw [TypeExpr.lines, String.intercalate_singleton, String.append_assoc, List.append_assoc]
    exact hblock
  | union first others =>
    obtain ⟨parts, hblock, hoperands⟩ :=
      exists_isOperand_literals (first :: others) (List.cons_ne_nil _ _) hb hend
    refine ⟨[Token.mark '|'].intercalate parts, ?_, isType_alternatives hoperands (by simp),
      fun h => absurd h Bool.false_ne_true⟩
    rw [TypeExpr.lines, String.intercalate_singleton, String.append_assoc, List.append_assoc]
    exact hf.append hblock
  | group inner =>
    have hopen : IsBlock "(" [.mark '('] := rfl
    have hclose : IsBlock ")" [.mark ')'] := rfl
    obtain ⟨ts, hblock, htype, -⟩ := inner.exists_isType hr level (hf.append hopen)
      (hclose.append hb) (endsWord_append rfl back)
    refine ⟨.mark '(' :: ts ++ [.mark ')'], ?_, htype.group.isType, fun _ => htype.group⟩
    rw [TypeExpr.lines]
    simpa using hblock
  | array element =>
    have hbrackets : IsBlock "[]" [.mark '[', .mark ']'] := rfl
    obtain ⟨ts, hblock, -, hoperand⟩ := element.exists_isType hr.1 level hf
      (hbrackets.append hb) (endsWord_append rfl back)
    have harray := (hoperand hr.2).array
    refine ⟨ts ++ [.mark '[', .mark ']'], ?_, harray.isType, fun _ => harray⟩
    rw [TypeExpr.lines]
    simpa using hblock
  | orFalse inner =>
    have hbar : IsBlock " | " [.mark '|'] := rfl
    have hfalse := hbar.append
      (isBlock_identifier (show isIdentifier "false".toList = true by decide) hb hend)
    obtain ⟨ts, hblock, -, hoperand⟩ := inner.exists_isType hr.1 level hf hfalse
      (endsWord_append rfl _)
    have hvalue : IsOperand [.word "false"] (.bool false) := IsOperand.word rfl
    have htype := isType_alternatives (.cons (hoperand hr.2) (.cons hvalue .nil)) (by simp)
    refine ⟨[Token.mark '|'].intercalate [ts, [.word "false"]], ?_, htype,
      fun h => absurd h Bool.false_ne_true⟩
    rw [TypeExpr.lines, List.intercalate_cons_cons, List.intercalate_singleton]
    simpa [← String.append_assoc] using hblock
  | record fields =>
    obtain ⟨ts, hfields, hmembers⟩ := exists_areMembers fields hr (level + 1)
    have hrecord := IsOperand.record hmembers
    refine ⟨.mark '\x7b' :: ts ++ [.mark '\x7d'], ?_, hrecord.isType, fun _ => hrecord⟩
    rw [TypeExpr.lines]
    exact isBlock_braces level hf hfields hb
/-- The lines of fields with readable types are members. -/
theorem exists_areMembers (fields : List (FieldHead × TypeExpr))
    (hr : TypeExpr.AreReadable fields) (level : Nat) :
    ∃ ts, IsBlock ("\n".intercalate (TypeExpr.fieldLines level fields)) ts ∧
      AreMembers ts (TypeExpr.memberTrees fields) := by
  match fields with
  | [] => exact ⟨[], isBlock_empty, AreMembers.nil⟩
  | (head, type) :: rest =>
    have hend : IsBlock ";" [.mark ';'] := rfl
    obtain ⟨ts, htext, htype, -⟩ :=
      type.exists_isType hr.1 level (isBlock_front level head) hend rfl
    obtain ⟨others, hrest, hmembers⟩ := exists_areMembers rest hr.2 level
    have hkey : key? (keyToken head.key) = some head.member.key := key?_keyToken head.key
    have hblock := ((isBlock_commentBlock head.description level).lines_append htext).lines_append
      hrest
    refine ⟨_, ?_, htype.member hkey hmembers⟩
    rw [TypeExpr.fieldLines, FieldHead.member]
    simpa using hblock
end

/-! ### Declarations -/

/-- The lines of a field are a block with the tokens of a property. -/
theorem Field.exists_declares (level : Nat) {field : Field} (hr : field.type.IsReadable) :
    ∃ ts, IsBlock ("\n".intercalate (field.lines level)) ts ∧
      Declares ts (.property field.head.member field.type.tree) := by
  have hend : IsBlock ";" [.mark ';'] := rfl
  obtain ⟨ts, htext, htype, -⟩ :=
    field.type.exists_isType hr level (isBlock_front level field.head) hend rfl
  have hkey : key? (keyToken field.head.key) = some field.head.member.key :=
    key?_keyToken field.head.key
  have hblock := (isBlock_commentBlock field.head.description level).lines_append htext
  have hlines : field.lines level = commentBlock field.head.description level ++
      field.type.lines level (field.head.front level) ";" := by
    rw [Field.lines, TypeExpr.fieldLines, TypeExpr.fieldLines, List.append_nil]
  refine ⟨_, ?_, .property hkey htype⟩
  rw [hlines, FieldHead.member]
  simpa using hblock

/-- The lines of a field are the declaration of a property. -/
theorem isDeclaration_field (level : Nat) {field : Field} (hr : field.type.IsReadable) :
    IsDeclaration ("\n".intercalate (field.lines level))
      (.property field.head.member field.type.tree) := by
  obtain ⟨ts, hblock, hdeclares⟩ := Field.exists_declares level hr
  exact ⟨ts, scan_of_isBlock hblock, hdeclares⟩

/-- The lines of a declaration of a name are that declaration. -/
theorem isDeclaration_alias (level : Nat) (description : Option String) {name : String}
    (hn : isIdentifier name.toList = true) {type : TypeExpr} (hr : type.IsReadable) :
    IsDeclaration ("\n".intercalate (aliasLines level description name type))
      (.named name type.tree) := by
  have hend : IsBlock ";" [.mark ';'] := rfl
  have hequals : IsBlock " = " [.mark '='] := rfl
  have hfront : IsBlock (indent level ++ name ++ " = ") [.word name, .mark '='] := by
    rw [String.append_assoc]
    exact (isBlock_indent level).append (isBlock_identifier hn hequals rfl)
  obtain ⟨ts, htext, htype, -⟩ := type.exists_isType hr level hfront hend rfl
  have hblock := (isBlock_commentBlock description level).lines_append htext
  refine ⟨_, ?_, .named hn htype⟩
  rw [aliasLines, scan_of_isBlock hblock]
  simp

/-! ### Line feeds -/

theorem lineFeed_not_mem_literalChar (c : Char) : '\n' ∉ literalChar c := fun h =>
  absurd (standsRaw_of_mem_literalChar h) (by decide)

theorem isLine_quoted (s : String) : Text.IsLine (quoted s) := by
  have hquote : Text.IsLine "'" := by decide
  have htext : Text.IsLine (String.ofList (s.toList.flatMap literalChar)) := by
    rw [Text.IsLine, String.toList_ofList]
    intro h
    obtain ⟨c, -, hc⟩ := List.mem_flatMap.mp h
    exact lineFeed_not_mem_literalChar c hc
  exact (hquote.append htext).append hquote

theorem isLine_identifier {name : String} (h : isIdentifier name.toList = true) :
    Text.IsLine name := fun hc =>
  absurd (inIdentifier_of_mem_identifier h hc) (by decide)

theorem isLine_numeral {text : String} {value : ℚ} (h : numeral? text.toList = some value) :
    Text.IsLine text := fun hc =>
  absurd (isDigit_or_mem_of_numeral? h hc) (by decide)

theorem Literal.isLine_text (literal : Literal) : Text.IsLine literal.text := by
  cases literal with
  | string value => exact isLine_quoted value
  | null => exact isLine_identifier (by decide)
  | bool value => cases value <;> exact isLine_identifier (by decide)
  | number value =>
    obtain ⟨numeral, n, hn, ⟨htext, -⟩ | ⟨htext, -⟩⟩ := Json.Number.exists_numeral_text value
    · rw [Literal.text, htext]
      exact isLine_numeral hn
    · have hsign : Text.IsLine "-" := by decide
      rw [Literal.text, htext]
      exact hsign.append (isLine_numeral hn)
  | any => exact isLine_identifier (by decide)

theorem isLine_keyText (name : String) : Text.IsLine (keyText name) := by
  rw [keyText]
  split
  · next h => exact isLine_identifier h
  · exact isLine_quoted name

theorem isLine_front (level : Nat) (head : FieldHead) : Text.IsLine (head.front level) := by
  have hkey := isLine_keyText head.key
  have hmark : Text.IsLine (if head.isOptional then "?" else "") := by
    rw [Text.IsLine]
    split <;> decide
  have hcolon : Text.IsLine ": " := by decide
  exact (((isLine_indent level).append hkey).append hmark).append hcolon

mutual
/-- No line of a type has a line feed in it. -/
theorem TypeExpr.isLine_of_mem_lines (type : TypeExpr) (hr : type.IsReadable) (level : Nat)
    {front back line : String} (hf : Text.IsLine front) (hb : Text.IsLine back)
    (h : line ∈ type.lines level front back) : Text.IsLine line := by
  cases type with
  | name text =>
    obtain rfl := List.mem_singleton.mp h
    exact (hf.append (isLine_identifier (isBinding_iff.mp hr).1)).append hb
  | union first others =>
    have hliterals : Text.IsLine (" | ".intercalate ((first :: others).map Literal.text)) := by
      apply Text.IsLine.intercalate (by decide)
      intro text ht
      obtain ⟨literal, -, rfl⟩ := List.mem_map.mp ht
      exact literal.isLine_text
    obtain rfl := List.mem_singleton.mp h
    exact (hf.append hliterals).append hb
  | group inner =>
    have hopen : Text.IsLine "(" := by decide
    have hclose : Text.IsLine ")" := by decide
    exact inner.isLine_of_mem_lines hr level (hf.append hopen) (hclose.append hb) h
  | array element =>
    have hbrackets : Text.IsLine "[]" := by decide
    exact element.isLine_of_mem_lines hr.1 level hf (hbrackets.append hb) h
  | orFalse inner =>
    have hfalse : Text.IsLine " | false" := by decide
    exact inner.isLine_of_mem_lines hr.1 level hf (hfalse.append hb) h
  | record fields =>
    have hopen : Text.IsLine "\x7b" := by decide
    have hclose : Text.IsLine "\x7d" := by decide
    rcases List.mem_append.mp h with h | h
    · rcases List.mem_append.mp h with h | h
      · obtain rfl := List.mem_singleton.mp h
        exact hf.append hopen
      · exact isLine_of_mem_fieldLines fields hr (level + 1) h
    · obtain rfl := List.mem_singleton.mp h
      exact ((isLine_indent level).append hclose).append hb
/-- No line of a field has a line feed in it. -/
theorem isLine_of_mem_fieldLines (fields : List (FieldHead × TypeExpr))
    (hr : TypeExpr.AreReadable fields) (level : Nat) {line : String}
    (h : line ∈ TypeExpr.fieldLines level fields) : Text.IsLine line := by
  match fields with
  | [] => exact absurd h List.not_mem_nil
  | (head, type) :: rest =>
    rcases List.mem_append.mp h with h | h
    · rcases List.mem_append.mp h with h | h
      · exact isLine_of_mem_commentBlock h
      · exact type.isLine_of_mem_lines hr.1 level (isLine_front level head) (by decide) h
    · exact isLine_of_mem_fieldLines rest hr.2 level h
end

theorem isLine_of_mem_aliasLines {level : Nat} {description : Option String} {name line : String}
    (hn : isIdentifier name.toList = true) {type : TypeExpr} (hr : type.IsReadable)
    (h : line ∈ aliasLines level description name type) : Text.IsLine line := by
  have hfront : Text.IsLine (indent level ++ name ++ " = ") :=
    ((isLine_indent level).append (isLine_identifier hn)).append (by decide)
  rcases List.mem_append.mp h with h | h
  · exact isLine_of_mem_commentBlock h
  · exact type.isLine_of_mem_lines hr level hfront (by decide) h

end TypedClient.Client
