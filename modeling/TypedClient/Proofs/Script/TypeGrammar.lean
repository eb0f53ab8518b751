import TypedClient.Proofs.Script.Scanning

/-!
# The grammar of types

A type is one or more operands with bars between them. An operand is a word, a
literal, a type in parentheses, a record in braces, or an operand with brackets after
it; so brackets bind tighter than bars do, and a parenthesis leaves nothing but the
type in it. A declaration gives a type to a property or to a name, and ends in a
semicolon as the members of a record do.
-/

namespace TypedClient.Script

open TypedClient.Client

/-- What a member of a record says beside its type. -/
structure MemberHead where
  /-- The key of the member. -/
  key : String
  /-- Whether the member may be left out. -/
  isOptional : Bool
  deriving DecidableEq, Repr

/-- A type of a script. -/
inductive TypeTree where
  /-- A type that has a name. -/
  | name (text : String)
  /-- The type of a string. -/
  | string (value : String)
  /-- The type of a number. -/
  | number (value : ℚ)
  /-- The type of a truth value. -/
  | bool (value : Bool)
  /-- The type of the value `null`. -/
  | null
  /-- An array of values of a type. -/
  | array (element : TypeTree)
  /-- One of some types. -/
  | union (alternatives : List TypeTree)
  /-- An object with members. -/
  | record (members : List (MemberHead × TypeTree))

/-- A declaration. -/
inductive Declared where
  /-- A property with a type. -/
  | property (head : MemberHead) (type : TypeTree)
  /-- A name for a type. -/
  | named (name : String) (type : TypeTree)

/-- The type of alternatives, which is the alternative itself if there is only one. -/
def unionOf : List TypeTree → TypeTree
  | [type] => type
  | types => .union types

/-- The type that a word stands for: a number, a value or a name. -/
def wordType? (text : String) : Option TypeTree :=
  if startsWithDigit text.toList then (numeral? text.toList).map .number
  else if text = "true" then some (.bool true)
  else if text = "false" then some (.bool false)
  else if text = "null" then some .null
  else if isBinding text then some (.name text)
  else none

/-- The key that a token stands for. -/
def key? : Token → Option String
  | .word text => if isIdentifier text.toList then some text else none
  | .string value => some value
  | _ => none

/-- The mark of a member that may be left out. -/
def optionalTokens (isOptional : Bool) : List Token :=
  if isOptional then [.mark '?'] else []

mutual
/-- The tokens of an operand, and its type. -/
inductive IsOperand : List Token → TypeTree → Prop where
  /-- A number, a value or a name. -/
  | word {text : String} {type : TypeTree} (h : wordType? text = some type) :
    IsOperand [.word text] type
  /-- A string. -/
  | string (value : String) : IsOperand [.string value] (.string value)
  /-- A number with a minus sign. -/
  | negative {text : String} {value : ℚ} (h : numeral? text.toList = some value) :
    IsOperand [.mark '-', .word text] (.number (-value))
  /-- An array of an operand. -/
  | array {ts : List Token} {type : TypeTree} (h : IsOperand ts type) :
    IsOperand (ts ++ [.mark '[', .mark ']']) (.array type)
  /-- A type in parentheses. -/
  | group {ts : List Token} {types : List TypeTree} (h : AreAlternatives ts types) :
    IsOperand (.mark '(' :: ts ++ [.mark ')']) (unionOf types)
  /-- A record. -/
  | record {ts : List Token} {members : List (MemberHead × TypeTree)} (h : AreMembers ts members) :
    IsOperand (.mark '\x7b' :: ts ++ [.mark '\x7d']) (.record members)
/-- The tokens of operands with bars between them, and their types. -/
inductive AreAlternatives : List Token → List TypeTree → Prop where
  /-- One operand. -/
  | last {ts : List Token} {type : TypeTree} (h : IsOperand ts type) : AreAlternatives ts [type]
  /-- An operand before others. -/
  | more {ts rest : List Token} {type : TypeTree} {types : List TypeTree} (h : IsOperand ts type)
    (hr : AreAlternatives rest types) : AreAlternatives (ts ++ .mark '|' :: rest) (type :: types)
/-- The tokens of the members of a record, and what they say. -/
inductive AreMembers : List Token → List (MemberHead × TypeTree) → Prop where
  /-- No members. -/
  | nil : AreMembers [] []
  /-- A member before others. -/
  | cons {t : Token} {head : MemberHead} {ts rest : List Token} {types : List TypeTree}
    {members : List (MemberHead × TypeTree)} (hk : key? t = some head.key)
    (h : AreAlternatives ts types) (hr : AreMembers rest members) :
    AreMembers (t :: optionalTokens head.isOptional ++ .mark ':' :: ts ++ .mark ';' :: rest)
      ((head, unionOf types) :: members)
end

/-- The tokens of a type. -/
def IsType (ts : List Token) (type : TypeTree) : Prop :=
  ∃ types, AreAlternatives ts types ∧ unionOf types = type

/-- The tokens of a declaration. -/
inductive Declares : List Token → Declared → Prop where
  /-- A key, its mark, a colon and a type. -/
  | property {t : Token} {head : MemberHead} {ts : List Token} {type : TypeTree}
    (hk : key? t = some head.key) (h : IsType ts type) :
    Declares (t :: optionalTokens head.isOptional ++ .mark ':' :: ts ++ [.mark ';'])
      (.property head type)
  /-- A name, an equals sign and a type. -/
  | named {name : String} {ts : List Token} {type : TypeTree}
    (hn : isIdentifier name.toList = true) (h : IsType ts type) :
    Declares (.word name :: .mark '=' :: ts ++ [.mark ';']) (.named name type)

/-- Whether the tokens of a text are those of a declaration. -/
def IsDeclaration (text : String) (declared : Declared) : Prop :=
  ∃ ts, scan text = some ts ∧ Declares ts declared

/-! ### Types from operands -/

theorem IsOperand.isType {ts : List Token} {type : TypeTree} (h : IsOperand ts type) :
    IsType ts type :=
  ⟨[type], .last h, rfl⟩

theorem IsType.group {ts : List Token} {type : TypeTree} (h : IsType ts type) :
    IsOperand (.mark '(' :: ts ++ [.mark ')']) type := by
  obtain ⟨types, halternatives, rfl⟩ := h
  exact .group halternatives

/-- Operands with bars between them are alternatives. -/
theorem areAlternatives_intercalate {parts : List (List Token)} {types : List TypeTree}
    (h : List.Forall₂ IsOperand parts types) (hne : types ≠ []) :
    AreAlternatives ([Token.mark '|'].intercalate parts) types := by
  induction h with
  | nil => exact absurd rfl hne
  | @cons part type parts types hfirst hrest ih =>
    cases hrest with
    | nil =>
      rw [List.intercalate_singleton]
      exact .last hfirst
    | cons =>
      rw [List.intercalate_cons_cons, List.append_assoc, List.singleton_append]
      exact .more hfirst (ih (List.cons_ne_nil _ _))

theorem isType_alternatives {parts : List (List Token)} {types : List TypeTree}
    (h : List.Forall₂ IsOperand parts types) (hne : types ≠ []) :
    IsType ([Token.mark '|'].intercalate parts) (unionOf types) :=
  ⟨types, areAlternatives_intercalate h hne, rfl⟩

theorem IsType.member {t : Token} {head : MemberHead} {ts rest : List Token} {type : TypeTree}
    {members : List (MemberHead × TypeTree)} (h : IsType ts type) (hk : key? t = some head.key)
    (hr : AreMembers rest members) :
    AreMembers (t :: optionalTokens head.isOptional ++ .mark ':' :: ts ++ .mark ';' :: rest)
      ((head, type) :: members) := by
  obtain ⟨types, halternatives, rfl⟩ := h
  exact .cons hk halternatives hr

/-! ### Words -/

theorem isDigit_of_startsIdentifier {c : Char} (h : startsIdentifier c = true) :
    c.isDigit = false := by
  by_contra hc
  rw [Bool.not_eq_false] at hc
  simp only [Char.isDigit, Bool.and_eq_true, decide_eq_true_eq, ge_iff_le] at hc
  simp only [startsIdentifier, Char.isAlpha, Char.isUpper, Char.isLower, Bool.or_eq_true,
    Bool.and_eq_true, decide_eq_true_eq, beq_iff_eq, ge_iff_le] at h
  rcases h with ((h | h) | rfl) | rfl
  · exact absurd (UInt32.le_trans h.1 hc.2) (by decide)
  · exact absurd (UInt32.le_trans h.1 hc.2) (by decide)
  · exact absurd hc (by decide)
  · exact absurd hc (by decide)

/-- No identifier is taken for a numeral. -/
theorem startsWithDigit_of_isIdentifier {text : List Char} (h : isIdentifier text = true) :
    startsWithDigit text = false := by
  cases text with
  | nil => rfl
  | cons c rest =>
    rw [isIdentifier, Bool.and_eq_true] at h
    rw [startsWithDigit, List.head?_cons, Option.map_some, Option.getD_some]
    exact isDigit_of_startsIdentifier h.1

/-- A name that may name a binding names a type. -/
theorem isOperand_name {text : String} (h : isBinding text = true) :
    IsOperand [.word text] (.name text) := by
  obtain ⟨hident, hfree⟩ := isBinding_iff.mp h
  have hne (word : String) (hw : word ∈ reservedWords) : text ≠ word := by
    rintro rfl
    exact hfree hw
  apply IsOperand.word
  rw [wordType?, if_neg (by simp [startsWithDigit_of_isIdentifier hident]),
    if_neg (hne "true" (by decide)), if_neg (hne "false" (by decide)),
    if_neg (hne "null" (by decide)), if_pos h]

theorem isOperand_numeral {text : String} {value : ℚ} (h : numeral? text.toList = some value) :
    IsOperand [.word text] (.number value) := by
  have hdigit : startsWithDigit text.toList = true := by
    obtain ⟨c, front, tail, htext, hc, -, -⟩ := exists_of_numeral? h
    rw [htext]
    simpa [startsWithDigit] using hc
  apply IsOperand.word
  rw [wordType?, if_pos hdigit, h, Option.map_some]

end TypedClient.Script
