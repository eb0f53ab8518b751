import TypedClient.Client.Literal
import TypedClient.Client.Comment

/-!
# Types and fields

A `TypeExpr` is a type as a client declares it, and a field is a key with such a
type. The lines of a declaration follow from it: a record type opens a brace at the
end of its first line, has its fields one level further in, and closes the brace
at the start of its last line.
-/

namespace TypedClient.Client

/-- What a field says beside its type. -/
structure FieldHead where
  /-- The text about the field. -/
  description : Option String
  /-- The key of the field. -/
  key : String
  /-- Whether the field may be left out. -/
  isOptional : Bool
  deriving DecidableEq, Repr

/-- The text of a field before its type. -/
def FieldHead.front (level : Nat) (head : FieldHead) : String :=
  indent level ++ keyText head.key ++ (if head.isOptional then "?" else "") ++ ": "

/-- A type. -/
inductive TypeExpr where
  /-- A type that has a name. -/
  | name (text : String)
  /-- One of some literals, of which there is at least one. -/
  | union (first : Literal) (others : List Literal)
  /-- A type in parentheses. -/
  | group (inner : TypeExpr)
  /-- An array of values of a type. -/
  | array (element : TypeExpr)
  /-- A type or `false`. -/
  | orFalse (inner : TypeExpr)
  /-- An object with fields. -/
  | record (fields : List (FieldHead × TypeExpr))

namespace TypeExpr

/-- The type of any value. -/
def any : TypeExpr := .name "any"

mutual
/-- The lines of a type, with `front` before the first and `back` after the last. The lines of its
fields stand one level deeper than `level`. -/
def lines (level : Nat) (front back : String) : TypeExpr → List String
  | .name text => [front ++ text ++ back]
  | .union first others =>
    [front ++ " | ".intercalate ((first :: others).map Literal.text) ++ back]
  | .group inner => inner.lines level (front ++ "(") (")" ++ back)
  | .array element => element.lines level front ("[]" ++ back)
  | .orFalse inner => inner.lines level front (" | false" ++ back)
  | .record fields =>
    [front ++ "\x7b"] ++ fieldLines (level + 1) fields ++ [indent level ++ "\x7d" ++ back]
/-- The lines of fields. -/
def fieldLines (level : Nat) : List (FieldHead × TypeExpr) → List String
  | [] => []
  | (head, type) :: rest =>
    commentBlock head.description level ++ type.lines level (head.front level) ";" ++
      fieldLines level rest
end

end TypeExpr

/-- A key with a type. -/
structure Field where
  /-- What the field says beside its type. -/
  head : FieldHead
  /-- The type of the field. -/
  type : TypeExpr

/-- The lines of a field. -/
def Field.lines (level : Nat) (field : Field) : List String :=
  TypeExpr.fieldLines level [(field.head, field.type)]

/-- The lines of a declaration that gives a name to a type. -/
def aliasLines (level : Nat) (description : Option String) (name : String) (type : TypeExpr) :
    List String :=
  commentBlock description level ++ type.lines level (indent level ++ name ++ " = ") ";"

end TypedClient.Client
