import TypedClient.Client.Identifier
import TypedClient.Json.Print

/-!
# Literals and keys

A string is written between single quotes; the backslash, the quote, line ends,
other control characters and the line and paragraph separators become escapes. A
key is written as it is when it is an identifier and as a literal otherwise.
-/

namespace TypedClient.Client

/-- A character as it is written inside a string literal. -/
def literalChar (c : Char) : List Char :=
  if c = '\\' then ['\\', '\\']
  else if c = '\'' then ['\\', '\'']
  else if c = '\n' then ['\\', 'n']
  else if c = '\r' then ['\\', 'r']
  else if c = '\t' then ['\\', 't']
  else if c.toNat = 0x2028 || c.toNat = 0x2029 || Text.isControl c then
    '\\' :: 'u' :: Json.hexFour c.toNat
  else [c]

/-- A string literal. -/
def quoted (s : String) : String :=
  "'" ++ String.ofList (s.toList.flatMap literalChar) ++ "'"

/-- A key of an object or of a type. -/
def keyText (name : String) : String :=
  if isIdentifier name.toList then name else quoted name

/-- A type with a single value, or any type for a value that is an array or object. -/
inductive Literal where
  /-- A string. -/
  | string (value : String)
  /-- The value `null`. -/
  | null
  /-- A truth value. -/
  | bool (value : Bool)
  /-- A number. -/
  | number (value : Json.Number)
  /-- Any value. -/
  | any
  deriving DecidableEq, Repr

/-- The literal for a value. -/
def Literal.ofJson : Json → Literal
  | .string s => .string s
  | .null => .null
  | .bool b => .bool b
  | .number n => .number n
  | .array _ => .any
  | .object _ => .any

/-- The text of a literal. -/
def Literal.text : Literal → String
  | .string s => quoted s
  | .null => "null"
  | .bool true => "true"
  | .bool false => "false"
  | .number n => n.text
  | .any => "any"

end TypedClient.Client
